import GuestHarness.Proofs.Config.Validity

/-!
Time limits that are replaced, call after call. A call puts its limits in place before the configuration
is validated, and there they stay also if it turns out not to be valid; the next call goes on from
there. The limits after any number of calls are those that were given last, whatever became of the
calls that gave them, and whether a call fails depends on the limits after it alone.
-/

namespace GuestHarness

/-- The limits that one call replaces. -/
structure Override where
  timeout : Option Duration
  graceWindow : Option Duration

/-! ### Limits -/

namespace SessionTiming

/-- The limits after some calls: of each the last that was given. -/
def given (t : SessionTiming) (os : List Override) : SessionTiming :=
  { t with
    timeout := (os.filterMap Override.timeout).getLastD t.timeout
    graceWindow := (os.filterMap Override.graceWindow).getLastD t.graceWindow }

lemma given_append (t : SessionTiming) (os os' : List Override) :
    t.given (os ++ os') = (t.given os).given os' := by
  simp only [given, List.filterMap_append, List.getLastD_eq_getLast?, List.getLast?_append,
    Option.getD_or]

/-- What is said of limits: which is the first fault, if there is one. -/
def verdict (t : SessionTiming) : Except ConfigFault Unit :=
  if t.timeout = .zero then .error .zeroTimeout
  else if t.graceWindow = .zero then .error .zeroGraceWindow
  else if t.timeout ≤ t.graceWindow then .error (.graceWindowTooLong t.graceWindow t.timeout)
  else .ok ()

/-- The limits are checked one after the other. -/
lemma verdict_eq_demands (t : SessionTiming) : t.verdict =
    (demand (t.timeout.nanos ≠ 0) .zeroTimeout >>= fun _ =>
      demand (t.graceWindow.nanos ≠ 0) .zeroGraceWindow >>= fun _ =>
        demand (t.graceWindow.nanos < t.timeout.nanos)
          (.graceWindowTooLong t.graceWindow t.timeout)) := by
  have hzero : ∀ d : Duration, d = .zero ↔ d.nanos = 0 := fun d => Duration.ext_iff
  have hle : t.timeout ≤ t.graceWindow ↔ ¬ t.graceWindow.nanos < t.timeout.nanos := Nat.not_lt.symm
  simp only [verdict, hzero, hle]
  by_cases htimeout : t.timeout.nanos = 0
  · simp [demand, htimeout, bind, Except.bind]
  by_cases hgrace : t.graceWindow.nanos = 0
  · simp [demand, htimeout, hgrace, bind, Except.bind]
  by_cases hlt : t.graceWindow.nanos < t.timeout.nanos
  · simp [demand, htimeout, hgrace, hlt, bind, Except.bind]
  · simp [demand, htimeout, hgrace, hlt, bind, Except.bind]

lemma verdict_eq_ok_iff {t : SessionTiming} :
    t.verdict = .ok () ↔ .zero < t.graceWindow ∧ t.graceWindow < t.timeout := by
  have hpos : Duration.zero < t.graceWindow ↔ 0 < t.graceWindow.nanos := Iff.rfl
  have hlt : t.graceWindow < t.timeout ↔ t.graceWindow.nanos < t.timeout.nanos := Iff.rfl
  simp only [verdict_eq_demands, seq_eq_ok_iff, demand_eq_ok_iff, decide_eq_true_eq, hpos, hlt]
  omega

end SessionTiming

/-! ### Calls -/

namespace HarnessConfig

variable {c : HarnessConfig}

/-- The configuration with other limits. -/
def withLimits (c : HarnessConfig) (t : SessionTiming) : HarnessConfig :=
  { c with session := { c.session with timing := t } }

/-- The configuration after some calls, whether they fail or not. -/
def afterCalls (c : HarnessConfig) (os : List Override) : HarnessConfig :=
  os.foldl (fun c o => (c.override o.timeout o.graceWindow).1) c

/-- What is wrong with a valid configuration when it gets other limits, is wrong with these. -/
lemma validate_withLimits (h : c.validate = .ok ()) (t : SessionTiming) :
    (c.withLimits t).validate = t.verdict := by
  obtain ⟨hsession, hrest⟩ := seq_eq_ok_iff.1 h
  obtain ⟨hid, -⟩ := seq_eq_ok_iff.1 hsession
  -- the name passes as before, and so does all that is checked after the limits
  have hlimits : (c.withLimits t).session.validate = t.verdict := by
    simp only [SessionOptions.validate, withLimits, hid, t.verdict_eq_demands]
    rfl
  calc (c.withLimits t).validate
      = (t.verdict >>= fun _ => .ok ()) := by rw [← hlimits, ← hrest]; rfl
    _ = t.verdict := by cases t.verdict <;> rfl

/-- One call puts the given limits in place. -/
lemma withTiming_withLimits (c : HarnessConfig) (t : SessionTiming) (o : Override) :
    (c.withLimits t).withTiming o.timeout o.graceWindow = c.withLimits (t.given [o]) := by
  obtain ⟨timeout, grace⟩ := o
  cases timeout <;> cases grace <;> rfl

/-- **After any calls the limits given last are in place**, and nothing else has changed. -/
lemma afterCalls_withLimits (c : HarnessConfig) (t : SessionTiming) (os : List Override) :
    (c.withLimits t).afterCalls os = c.withLimits (t.given os) := by
  induction os generalizing t with
  | nil => rfl
  | cons o os ih =>
    have hcall : ((c.withLimits t).override o.timeout o.graceWindow).1 =
        c.withLimits (t.given [o]) := withTiming_withLimits c t o
    have hrest : t.given (o :: os) = (t.given [o]).given os := SessionTiming.given_append t [o] os
    rw [hrest, ← ih, ← hcall]
    rfl

/-- **A call leaves its limits in place, and its verdict is on these alone.** After any calls on a
configuration that was loaded, a call yields the configuration with the limits given last, its own
among them, also where it fails; it succeeds if and only if this configuration is valid, which it is
if and only if the grace window is positive and shorter than the timeout. -/
theorem override_after_calls {s : String} (h : load s = .ok c) (before : List Override)
    (o : Override) :
    let t := c.timing.given (before ++ [o])
    (c.afterCalls before).override o.timeout o.graceWindow = (c.withLimits t, t.verdict) ∧
      (c.withLimits t).validate = t.verdict ∧
      (t.verdict = .ok () ↔ .zero < t.graceWindow ∧ t.graceWindow < t.timeout) := by
  intro t
  have hvalid : (c.withLimits t).validate = t.verdict := validate_withLimits (load_eq_ok_iff.1 h).2 t
  have hconfig : (c.afterCalls before).withTiming o.timeout o.graceWindow = c.withLimits t := by
    have hbefore : c.afterCalls before = c.withLimits (c.timing.given before) :=
      afterCalls_withLimits c c.timing before
    rw [hbefore, withTiming_withLimits, ← SessionTiming.given_append]
  refine ⟨?_, hvalid, SessionTiming.verdict_eq_ok_iff⟩
  rw [override, hconfig, hvalid]

/-- A grace window that is rejected, after which the timeout alone is replaced. -/
theorem override_after_calls_rejected :
    let c : HarnessConfig := { session := { id := "s" }, launch := some { executable := "x" } }
    let first : Override := ⟨some (.ofSeconds 10), some (.ofSeconds 1)⟩
    let second : Override := ⟨none, some (.ofSeconds 20)⟩
    load "session: \x7bid: s\x7d\nlaunch: \x7bexecutable: x\x7d\n" = .ok c ∧
      (c.afterCalls [first]).override none (some (.ofSeconds 20)) =
        (c.withLimits ⟨.ofSeconds 10, .ofSeconds 20, .ofSeconds 1⟩,
          .error (.graceWindowTooLong (.ofSeconds 20) (.ofSeconds 10))) ∧
      (c.afterCalls [first, second]).override (some (.ofSeconds 30)) none =
        (c.withLimits ⟨.ofSeconds 30, .ofSeconds 20, .ofSeconds 1⟩, .ok ()) := by
  intro c first second
  have hload : load "session: \x7bid: s\x7d\nlaunch: \x7bexecutable: x\x7d\n" = .ok c :=
    toOption_eq_some_iff.1 (by decide +kernel)
  exact ⟨hload, (override_after_calls hload [first] second).1,
    (override_after_calls hload [first, second] ⟨some (.ofSeconds 30), none⟩).1⟩

/-- A grace window as long as the timeout is rejected, and yet it is in place afterwards, where it makes
the configuration one that is not valid. -/
theorem override_rejected_in_place :
    let c : HarnessConfig := { session := { id := "s" }, launch := some { executable := "x" } }
    let after := c.override none (some (.ofSeconds 60))
    load "session: \x7bid: s\x7d\nlaunch: \x7bexecutable: x\x7d\n" = .ok c ∧
      after.2 = .error (.graceWindowTooLong (.ofSeconds 60) (.ofSeconds 60)) ∧
      after.1 ≠ c ∧ after.1.validate ≠ .ok () := by
  intro c after
  have hload : load "session: \x7bid: s\x7d\nlaunch: \x7bexecutable: x\x7d\n" = .ok c :=
    toOption_eq_some_iff.1 (by decide +kernel)
  have hfault : after.1.validate = .error (.graceWindowTooLong (.ofSeconds 60) (.ofSeconds 60)) :=
    validate_withLimits (load_eq_ok_iff.1 hload).2 ⟨.ofSeconds 60, .ofSeconds 60, .ofSeconds 1⟩
  refine ⟨hload, hfault, by decide, ?_⟩
  rw [hfault]
  simp

end HarnessConfig
end GuestHarness
