import GuestHarness.Proofs.Clock
import GuestHarness.Proofs.ProcessNumber
import GuestHarness.Proofs.Target.Recorded
import GuestHarness.Proofs.Target.Scripted

/-!
How a target is brought to its end. There are four ways in which this can go: the target has ended,
its deadline has passed, it ends when it is asked to, or it is killed after that, at once if it
could not be asked. Which of them it is, and at which moments which signals are sent, depends on
nothing but the moment of the call, the deadline, the grace window, the end of the target and what
the system answers.
-/

namespace GuestHarness.Child

variable {τ : Type} [Target τ] {c c' : Child τ} {grace : Duration} {deadline m : Instant}

/-! ### Looking and waiting -/

section Calls

variable {α : Type} {g : τ → α}

omit [Target τ] in
@[simp] lemma target_record (c : Child τ) (x : Except IoError (Option ExitInfo) × τ) :
    (c.record x).2.target = x.2 := by
  obtain ⟨_ | _, _⟩ := x <;> rfl

omit [Target τ] in
lemma record_of_ok {x : Except IoError (Option ExitInfo) × τ} {exit : Option ExitInfo}
    (h : x.1 = .ok exit) : c.record x = (.ok exit, { c with target := x.2, exit := exit }) := by
  obtain ⟨_, t⟩ := x
  obtain rfl := h
  rfl

lemma tryReap_of_ended (h : c.exit.isSome) : c.tryReap = c := by
  rw [tryReap, lookForExit, if_pos h]

lemma tryReap_of_unknown (h : c.exit = none) :
    c.tryReap = (c.record (Target.pollExit c.target)).2 := by
  rw [tryReap, lookForExit, if_neg (by simp [h])]

lemma waitUntil_of_ended (h : c.exit.isSome) : c.waitUntil m = c := by
  rw [waitUntil, awaitExit, if_pos h]

lemma waitUntil_of_unknown (h : c.exit = none) :
    c.waitUntil m = (c.record (Target.awaitExit m c.target)).2 := by
  rw [waitUntil, awaitExit, if_neg (by simp [h])]

/-- A look keeps what the question for the end keeps. -/
lemma tryReap_keeps (hg : ∀ t, g (Target.pollExit t).2 = g t) (c : Child τ) :
    g c.tryReap.target = g c.target := by
  cases he : c.exit with
  | some e => rw [tryReap_of_ended (by simp [he])]
  | none => rw [tryReap_of_unknown he, target_record, hg]

lemma waitUntil_keeps (hg : ∀ t, g (Target.awaitExit m t).2 = g t) (c : Child τ) :
    g (c.waitUntil m).target = g c.target := by
  cases he : c.exit with
  | some e => rw [waitUntil_of_ended (by simp [he])]
  | none => rw [waitUntil_of_unknown he, target_record, hg]

end Calls

section Timed

variable [TimedTarget τ]

@[simp] lemma now_tryReap (c : Child τ) : c.tryReap.now = c.now :=
  tryReap_keeps TimedTarget.now_pollExit c

lemma now_waitUntil_le (c : Child τ) (m : Instant) : (c.waitUntil m).now ≤ max c.now m := by
  cases he : c.exit with
  | some e =>
    rw [waitUntil_of_ended (by simp [he])]
    exact Nat.le_max_left _ _
  | none =>
    rw [waitUntil_of_unknown he, now, target_record]
    exact TimedTarget.now_awaitExit_le m c.target

end Timed

/-- The end of the target as far as anybody can tell. -/
def reported (c : Child τ) : Option ExitInfo := c.exit.or (Target.exit? c.target)

section Reapable

variable [ReapableTarget τ]

@[simp] lemma exit_tryReap (c : Child τ) : c.tryReap.exit = c.reported := by
  cases he : c.exit with
  | some e => rw [tryReap_of_ended (by simp [he]), reported, he, Option.some_or]
  | none =>
    rw [tryReap_of_unknown he, record_of_ok (ReapableTarget.pollExit_fst c.target), reported, he,
      Option.none_or]

/-- A look that finds an end finds the end of the target. -/
lemma exit_tryReap_eq (h : c.exit = none) : c.tryReap.exit = Target.exit? c.tryReap.target := by
  rw [exit_tryReap, reported, h, Option.none_or]
  exact (tryReap_keeps ReapableTarget.exit?_pollExit c).symm

/-- So does a wait. -/
lemma exit_waitUntil_eq (h : c.exit = none) :
    (c.waitUntil m).exit = Target.exit? (c.waitUntil m).target := by
  rw [waitUntil_of_unknown h, record_of_ok (ReapableTarget.awaitExit_fst m c.target)]

/-- A wait answers what is recorded then. -/
lemma awaitExit_fst (c : Child τ) (m : Instant) :
    (c.awaitExit m).1 = .ok (c.waitUntil m).exit := by
  unfold waitUntil awaitExit
  split
  · rfl
  · rw [record_of_ok (ReapableTarget.awaitExit_fst m c.target)]

lemma exit_waitUntil (h : c.exit = none) :
    (c.waitUntil m).exit = Target.exit? (InputStream.sleep m c.target) := by
  rw [exit_waitUntil_eq h, waitUntil_of_unknown h, target_record]
  exact ReapableTarget.exit?_awaitExit m c.target

/-- Whoever waits in vain waits until the moment given. -/
lemma now_waitUntil_of_running (hm : c.now ≤ m) (h : (c.waitUntil m).exit = none) :
    (c.waitUntil m).now = m := by
  have hc : c.exit = none := by
    cases he : c.exit with
    | none => rfl
    | some e => rw [waitUntil_of_ended (by simp [he]), he] at h; cases h
  have hle := now_waitUntil_le c m
  rw [Nat.max_eq_right hm] at hle
  refine Nat.le_antisymm hle ?_
  rw [exit_waitUntil_eq hc, waitUntil_of_unknown hc, target_record] at h
  rw [waitUntil_of_unknown hc, now, target_record]
  exact ReapableTarget.le_now_of_running m c.target h

end Reapable

/-! ### Killing -/

lemma startKill_of_unknown (h : c.exit = none) :
    c.startKill = { c with target := (Target.kill c.target).2 } := by
  rw [startKill, requestKill, if_neg (by simp [h])]

@[simp] lemma exit_startKill (c : Child τ) : c.startKill.exit = c.exit := by
  unfold startKill requestKill
  split <;> rfl

lemma forceKill_eq_ok_iff : c.forceKill = .ok c' ↔
    c.startKill.now + forceKillTimeout.nanos < Clock.limit ∧
      c' = c.startKill.waitUntil (c.startKill.now + forceKillTimeout.nanos) := by
  simp only [forceKill, bind_eq_ok_iff, Clock.deadline_eq_ok_iff, pure, Except.pure,
    Except.ok.injEq]
  constructor
  · rintro ⟨m, ⟨hm, rfl⟩, rfl⟩
    exact ⟨hm, rfl⟩
  · rintro ⟨hm, rfl⟩
    exact ⟨_, ⟨hm, rfl⟩, rfl⟩

section Timed

variable [TimedTarget τ]

@[simp] lemma now_startKill (c : Child τ) : c.startKill.now = c.now := by
  unfold startKill requestKill
  split
  · rfl
  · exact TimedTarget.now_kill c.target

lemma forceKill_ok (h : c.now + forceKillTimeout.nanos < Clock.limit) :
    c.forceKill = .ok (c.startKill.waitUntil (c.now + forceKillTimeout.nanos)) :=
  forceKill_eq_ok_iff.2 (by simp [h])

lemma now_forceKill_le (h : c.forceKill = .ok c') :
    c'.now ≤ c.now + forceKillTimeout.nanos := by
  obtain ⟨-, rfl⟩ := forceKill_eq_ok_iff.1 h
  have := now_waitUntil_le c.startKill (c.startKill.now + forceKillTimeout.nanos)
  rw [Nat.max_eq_right (Nat.le_add_right _ _)] at this
  rwa [now_startKill] at this ⊢

end Timed

/-- A target that was killed has ended, as is recorded, or it was waited for in vain to the end. -/
lemma forceKill_waits [ReapableTarget τ] (he : c.exit = none) (h : c.forceKill = .ok c') :
    (∃ e, c'.exit = some e ∧ Target.exit? c'.target = some e) ∨
      c'.now = c.now + forceKillTimeout.nanos := by
  obtain ⟨-, rfl⟩ := forceKill_eq_ok_iff.1 h
  rw [now_startKill]
  cases hk : (c.startKill.waitUntil (c.now + forceKillTimeout.nanos)).exit with
  | some e => exact .inl ⟨e, rfl, by rw [← hk, exit_waitUntil_eq (by simpa using he)]⟩
  | none => exact .inr (now_waitUntil_of_running (by simp) hk)

/-! ### Asking -/

lemma target_askToEnd (c : Child τ) : c.askToEnd.target =
    ((Target.signal (signalArgument (Target.pid c.target)) (some Signal.term)).run c.target).2 :=
  congrArg Prod.snd (run_requestEnd Target.signal (Target.pid c.target) c.target)

lemma target_requestExistence (c : Child τ) : c.requestExistence.2.target =
    ((Target.signal (signalArgument (Target.pid c.target)) none).run c.target).2 :=
  congrArg Prod.snd (run_requestExistence Target.signal (Target.pid c.target) c.target)

/-- If the request is taken, nothing else is asked. -/
lemma signalEnd_of_taken {reached : Bool} (h : c.requestEnd.1 = .ok reached) :
    c.signalEnd = (true, c.askToEnd) := by
  unfold signalEnd askToEnd
  generalize c.requestEnd = answer at h ⊢
  obtain ⟨reply, d⟩ := answer
  obtain rfl : reply = .ok reached := h
  rfl

/-- If it is refused, the question follows whether there is such a process. -/
lemma signalEnd_of_refused {e : HarnessError} (h : c.requestEnd.1 = .error e) :
    c.signalEnd = (false, c.askToEnd.requestExistence.2) := by
  unfold signalEnd askToEnd
  generalize c.requestEnd = answer at h ⊢
  obtain ⟨reply, d⟩ := answer
  obtain rfl : reply = .error e := h
  rfl

lemma signalEnd_cases (c : Child τ) : c.signalEnd = (true, c.askToEnd) ∨
    c.signalEnd = (false, c.askToEnd.requestExistence.2) := by
  cases h : c.requestEnd.1 with
  | ok reached => exact .inl (signalEnd_of_taken h)
  | error e => exact .inr (signalEnd_of_refused h)

@[simp] lemma exit_askToEnd (c : Child τ) : c.askToEnd.exit = c.exit := rfl

@[simp] lemma exit_signalEnd (c : Child τ) : c.signalEnd.2.exit = c.exit := by
  obtain h | h := c.signalEnd_cases <;> rw [h] <;> rfl

@[simp] lemma exit_closeInput (c : Child τ) : c.closeInput.exit = c.exit := by
  unfold closeInput
  split <;> rfl

/-- The child when it has been asked to end, or could not be, and its input is closed. -/
def asked (c : Child τ) : Child τ := c.signalEnd.2.closeInput

@[simp] lemma exit_asked (c : Child τ) : c.asked.exit = c.exit := by
  rw [asked, exit_closeInput, exit_signalEnd]

/-- The child when it is no longer waited for, up to a moment at most. One that could not be asked
to end is not waited for. -/
def waited (c : Child τ) (m : Instant) : Child τ :=
  if c.signalEnd.1 then c.asked.waitUntil m else c.asked

/-- The moment up to which a child that is asked to end is waited for. -/
def graceEnd (c : Child τ) (grace : Duration) (deadline : Instant) : Instant :=
  min deadline (c.now + grace.nanos)

lemma now_le_graceEnd (h : c.now < deadline) : c.now ≤ c.graceEnd grace deadline :=
  Nat.le_min.2 ⟨Nat.le_of_lt h, Nat.le_add_right _ _⟩

lemma graceEnd_le (c : Child τ) (grace : Duration) (deadline : Instant) :
    c.graceEnd grace deadline ≤ deadline :=
  Nat.min_le_left _ _

section Timed

variable [TimedTarget τ]

@[simp] lemma now_signalEnd (c : Child τ) : c.signalEnd.2.now = c.now := by
  have hask : c.askToEnd.now = c.now := by
    rw [now, target_askToEnd]
    exact TimedTarget.now_signal _ _ c.target
  obtain h | h := c.signalEnd_cases
  · rw [h, hask]
  · rw [h, now, target_requestExistence]
    exact (TimedTarget.now_signal _ _ c.askToEnd.target).trans hask

@[simp] lemma now_asked (c : Child τ) : c.asked.now = c.now := by
  rw [← now_signalEnd c]
  unfold asked closeInput
  split
  · exact TimedTarget.now_closeInput _
  · rfl

lemma now_waited_le (hd : c.now < deadline) :
    (c.waited (c.graceEnd grace deadline)).now ≤ c.graceEnd grace deadline := by
  unfold waited
  split
  · have := now_waitUntil_le c.asked (c.graceEnd grace deadline)
    rwa [now_asked, Nat.max_eq_right (now_le_graceEnd hd)] at this
  · rw [now_asked]
    exact now_le_graceEnd hd

end Timed

lemma waited_of_taken {reached : Bool} (h : c.requestEnd.1 = .ok reached) :
    c.waited m = c.askToEnd.closeInput.waitUntil m := by
  rw [waited, asked, signalEnd_of_taken h]
  rfl

lemma waited_of_refused {e : HarnessError} (h : c.requestEnd.1 = .error e) :
    c.waited m = c.asked := by
  rw [waited, signalEnd_of_refused h]
  rfl

section Reapable

variable [ReapableTarget τ]

/-- Who could be asked and has not ended was waited for to the end. -/
lemma now_waited_of_running {reached : Bool} (hd : c.now < deadline)
    (htaken : c.requestEnd.1 = .ok reached)
    (h : (c.waited (c.graceEnd grace deadline)).exit = none) :
    (c.waited (c.graceEnd grace deadline)).now = c.graceEnd grace deadline := by
  rw [waited, signalEnd_of_taken htaken, if_pos rfl] at h ⊢
  exact now_waitUntil_of_running (by simpa using now_le_graceEnd hd) h

/-- Who has been waited for and has ended is the target. -/
lemma exit_waited_eq {e : ExitInfo} (hc : c.exit = none) (h : (c.waited m).exit = some e) :
    Target.exit? (c.waited m).target = some e := by
  unfold waited at h ⊢
  split
  · next hasked =>
    rw [if_pos hasked] at h
    rw [← exit_waitUntil_eq (by simpa using hc), h]
  · next hrefused =>
    rw [if_neg hrefused, exit_asked, hc] at h
    cases h

end Reapable

/-! ### The four ways -/

section Ways

/-- What is made of a child that was asked to end, once it is no longer waited for. -/
def conclude (c : Child τ) (deadline : Instant) : Except Clock.Overflow (SessionStatus × Child τ) :=
  match c.exit with
  | some e => .ok (.exitedAfterSignal e, c)
  | none => (if deadline ≤ c.now then .timedOut else .forceKilled, ·) <$> c.forceKill

lemma conclude_of_ended {e : ExitInfo} (h : c.exit = some e) :
    c.conclude deadline = .ok (.exitedAfterSignal e, c) := by
  simp [conclude, h]

lemma conclude_of_running (h : c.exit = none) : c.conclude deadline =
    (if deadline ≤ c.now then SessionStatus.timedOut else .forceKilled, ·) <$> c.forceKill := by
  simp [conclude, h]

lemma terminate_of_ended {e : ExitInfo} (h : c.tryReap.exit = some e) :
    c.terminate grace deadline = .ok (.exitedBeforeSignal e, c.tryReap) := by
  simp [terminate, h, pure, Except.pure]

lemma terminate_of_late (h : c.tryReap.exit = none) (hd : deadline ≤ c.tryReap.now) :
    c.terminate grace deadline = (SessionStatus.timedOut, ·) <$> c.tryReap.forceKill := by
  unfold terminate
  simp only [h, if_pos hd]
  exact (map_eq_pure_bind _ _).symm

lemma terminate_of_running (h : c.tryReap.exit = none) (hd : ¬ deadline ≤ c.tryReap.now) :
    c.terminate grace deadline = Clock.deadline c.tryReap.asked.now grace >>= fun m =>
      (c.tryReap.waited (min deadline m)).conclude deadline := by
  unfold terminate
  simp only [h, if_neg hd]
  refine bind_congr fun m => ?_
  rw [waited, asked]
  generalize (if c.tryReap.signalEnd.1 = true
    then c.tryReap.signalEnd.2.closeInput.waitUntil (min deadline m)
    else c.tryReap.signalEnd.2.closeInput) = w
  cases he : w.exit with
  | some e =>
    rw [conclude_of_ended he]
    rfl
  | none =>
    rw [conclude_of_running he]
    exact (map_eq_pure_bind _ _).symm

variable [TimedTarget τ]

lemma terminate_of_early (h : c.tryReap.exit = none) (hd : c.now < deadline)
    (hg : c.now + grace.nanos < Clock.limit) :
    c.terminate grace deadline =
      (c.tryReap.waited (c.tryReap.graceEnd grace deadline)).conclude deadline := by
  rw [terminate_of_running h (by simpa using hd), now_asked, now_tryReap, Clock.deadline_of_lt hg,
    graceEnd, now_tryReap]
  rfl

lemma grace_lt_of_terminate {r : SessionStatus × Child τ} (h : c.tryReap.exit = none)
    (hd : c.now < deadline) (hr : c.terminate grace deadline = .ok r) :
    c.now + grace.nanos < Clock.limit := by
  rw [terminate_of_running h (by simpa using hd), now_asked, now_tryReap, bind_eq_ok_iff] at hr
  obtain ⟨m, hm, -⟩ := hr
  exact (Clock.deadline_eq_ok_iff.1 hm).1

/-- The four ways in which a child at which somebody has looked is brought to its end. -/
inductive Way (c : Child τ) (grace : Duration) (deadline : Instant) :
    SessionStatus → Child τ → Prop
  | ended {e : ExitInfo} (he : c.exit = some e) : Way c grace deadline (.exitedBeforeSignal e) c
  | late {c' : Child τ} (hc : c.exit = none) (hd : deadline ≤ c.now) (hk : c.forceKill = .ok c') :
      Way c grace deadline .timedOut c'
  | obeyed {e : ExitInfo} (hc : c.exit = none) (hd : c.now < deadline)
      (he : (c.waited (c.graceEnd grace deadline)).exit = some e) :
      Way c grace deadline (.exitedAfterSignal e) (c.waited (c.graceEnd grace deadline))
  | killed {status : SessionStatus} {c' : Child τ} (hc : c.exit = none) (hd : c.now < deadline)
      (he : (c.waited (c.graceEnd grace deadline)).exit = none)
      (hs : status = if deadline ≤ (c.waited (c.graceEnd grace deadline)).now then .timedOut
        else .forceKilled)
      (hk : (c.waited (c.graceEnd grace deadline)).forceKill = .ok c') :
      Way c grace deadline status c'

/-- **The four ways** are the only ones. -/
theorem terminate_way {status : SessionStatus} (h : c.terminate grace deadline = .ok (status, c')) :
    c.tryReap.Way grace deadline status c' := by
  cases hr : c.tryReap.exit with
  | some e =>
    rw [terminate_of_ended hr] at h
    cases h
    exact .ended hr
  | none =>
    -- the clock is read twice: now, and again when the child is no longer waited for
    by_cases hd : deadline ≤ c.now
    · rw [← now_tryReap] at hd
      rw [terminate_of_late hr hd, map_eq_ok_iff] at h
      obtain ⟨k, hk, hpair⟩ := h
      cases hpair
      exact .late hr hd hk
    · have hlt := Nat.lt_of_not_le hd
      have hlooked : c.tryReap.now < deadline := by rwa [now_tryReap]
      rw [terminate_of_early hr hlt (grace_lt_of_terminate hr hlt h)] at h
      cases he : (c.tryReap.waited (c.tryReap.graceEnd grace deadline)).exit with
      | some e =>
        rw [conclude_of_ended he] at h
        cases h
        exact .obeyed hr hlooked he
      | none =>
        rw [conclude_of_running he, map_eq_ok_iff] at h
        obtain ⟨k, hk, hpair⟩ := h
        cases hpair
        exact .killed hr hlooked he rfl hk

end Ways

/-! ### The time it takes -/

section Time

variable [TimedTarget τ]

/-- A child that is called late has ended or is killed. -/
lemma status_of_late {status : SessionStatus} (hd : deadline ≤ c.now)
    (h : c.terminate grace deadline = .ok (status, c')) :
    status = .timedOut ∨ ∃ e, status = .exitedBeforeSignal e := by
  rw [← now_tryReap] at hd
  cases terminate_way h with
  | ended => exact .inr ⟨_, rfl⟩
  | late => exact .inl rfl
  | obeyed _ hlt => exact absurd hd (Nat.not_le.2 hlt)
  | killed _ hlt => exact absurd hd (Nat.not_le.2 hlt)

/-- A child that is called by its deadline is left at most so long after it as a target that was
killed is waited for. -/
lemma now_terminate_le {status : SessionStatus} (hd : c.now ≤ deadline)
    (h : c.terminate grace deadline = .ok (status, c')) :
    c'.now ≤ deadline + forceKillTimeout.nanos := by
  have hle := Nat.le_add_right deadline forceKillTimeout.nanos
  rw [← now_tryReap] at hd
  cases terminate_way h with
  | ended => exact Nat.le_trans hd hle
  | late _ _ hk => exact Nat.le_trans (now_forceKill_le hk) (Nat.add_le_add_right hd _)
  | obeyed _ hlt _ =>
    exact Nat.le_trans (now_waited_le hlt) (Nat.le_trans (graceEnd_le _ grace deadline) hle)
  | killed _ hlt _ _ hk =>
    have hw := Nat.le_trans (now_waited_le hlt) (graceEnd_le c.tryReap grace deadline)
    exact Nat.le_trans (now_forceKill_le hk) (Nat.add_le_add_right hw _)

/-- A child can be brought to its end if the limits can be set. -/
lemma terminate_ok (hd : c.now ≤ deadline)
    (hg : c.now < deadline → c.now + grace.nanos < Clock.limit)
    (hk : deadline + forceKillTimeout.nanos < Clock.limit) :
    ∃ status c', c.terminate grace deadline = .ok (status, c') := by
  have hkill : ∀ d : Child τ, d.now ≤ deadline → ∃ d', d.forceKill = .ok d' := fun d hle =>
    ⟨_, forceKill_ok (Nat.lt_of_le_of_lt (Nat.add_le_add_right hle _) hk)⟩
  cases hr : c.tryReap.exit with
  | some e => exact ⟨_, _, terminate_of_ended hr⟩
  | none =>
    by_cases hlate : deadline ≤ c.now
    · rw [← now_tryReap] at hlate hd
      obtain ⟨d, hforced⟩ := hkill c.tryReap hd
      exact ⟨_, d, by rw [terminate_of_late hr hlate, hforced]; rfl⟩
    · have hlt := Nat.lt_of_not_le hlate
      rw [terminate_of_early hr hlt (hg hlt)]
      cases he : (c.tryReap.waited (c.tryReap.graceEnd grace deadline)).exit with
      | some e => exact ⟨_, _, conclude_of_ended he⟩
      | none =>
        have hlooked : c.tryReap.now < deadline := by rwa [now_tryReap]
        have hw : (c.tryReap.waited (c.tryReap.graceEnd grace deadline)).now ≤
            c.tryReap.graceEnd grace deadline := now_waited_le hlooked
        obtain ⟨d, hforced⟩ := hkill _ (Nat.le_trans hw (graceEnd_le c.tryReap grace deadline))
        exact ⟨_, d, by rw [conclude_of_running he, hforced]; rfl⟩

end Time

/-! ### The record -/

section Record

variable {c c' : Child (Recorded τ)}

lemma log_tryReap (c : Child (Recorded τ)) : c.tryReap.target.log = c.target.log :=
  tryReap_keeps Recorded.log_pollExit c

lemma log_waitUntil (c : Child (Recorded τ)) (m : Instant) :
    (c.waitUntil m).target.log = c.target.log :=
  waitUntil_keeps (Recorded.log_awaitExit · m) c

lemma log_startKill (h : c.exit = none) :
    c.startKill.target.log = c.target.log ++ [(c.now, .signalled Signal.kill)] := by
  rw [startKill_of_unknown h]
  rfl

lemma log_forceKill (h : c.exit = none) (hk : c.forceKill = .ok c') :
    c'.target.log = c.target.log ++ [(c.now, .signalled Signal.kill)] := by
  obtain ⟨-, rfl⟩ := forceKill_eq_ok_iff.1 hk
  rw [log_waitUntil, log_startKill h]

/-- Whether the request is taken or not, it is one signal. -/
lemma log_signalEnd (c : Child (Recorded τ)) :
    c.signalEnd.2.target.log = c.target.log ++ [(c.now, .signalled Signal.term)] := by
  have hask : c.askToEnd.target.log = c.target.log ++ [(c.now, .signalled Signal.term)] := by
    rw [target_askToEnd]
    rfl
  obtain h | h := c.signalEnd_cases
  · rw [h, hask]
  · rw [h, ← hask, target_requestExistence]
    rfl

/-- To ask a target to end is to send it the signal, and to close its input if it is open. -/
lemma log_asked (c : Child (Recorded τ)) : ∃ closed : List Instant,
    c.asked.target.log = c.target.log ++ [(c.now, .signalled Signal.term)] ++
      closed.map (·, .closedInput) := by
  rw [← log_signalEnd]
  unfold asked closeInput
  split
  · exact ⟨[c.signalEnd.2.now], rfl⟩
  · exact ⟨[], (List.append_nil _).symm⟩

lemma log_waited (c : Child (Recorded τ)) (m : Instant) :
    (c.waited m).target.log = c.asked.target.log := by
  unfold waited
  split
  · exact log_waitUntil _ _
  · rfl

lemma signals_forceKill (h : c.exit = none) (hk : c.forceKill = .ok c') :
    c'.target.signals = c.target.signals ++ [(c.now, Signal.kill)] :=
  Recorded.signals_of_log (log_forceKill h hk)

lemma signals_waited (c : Child (Recorded τ)) (m : Instant) :
    (c.waited m).target.signals = c.target.signals ++ [(c.now, Signal.term)] := by
  obtain ⟨closed, h⟩ := log_asked c
  rw [← log_waited c m, List.append_assoc] at h
  rw [Recorded.signals_of_log h]
  simp

variable [TimedTarget τ]

/-- Nothing is written to a target that is brought to its end. -/
lemma accepted_terminate {status : SessionStatus}
    (h : c.terminate grace deadline = .ok (status, c')) :
    c'.target.accepted = c.target.accepted := by
  have hlook : c.tryReap.target.accepted = c.target.accepted :=
    tryReap_keeps (fun _ => rfl) c
  have hkill : ∀ {d d' : Child (Recorded τ)}, d.exit = none → d.forceKill = .ok d' →
      d'.target.accepted = d.target.accepted := fun he hk =>
    Recorded.accepted_of_log (log_forceKill he hk) (by simp)
  have hwait : ∀ m, (c.tryReap.waited m).target.accepted = c.tryReap.target.accepted := fun m => by
    obtain ⟨closed, hlog⟩ := log_asked c.tryReap
    rw [← log_waited _ m, List.append_assoc] at hlog
    refine Recorded.accepted_of_log hlog ?_
    simp
  rw [← hlook]
  cases terminate_way h with
  | ended => rfl
  | late hc _ hk => exact hkill hc hk
  | obeyed => exact hwait _
  | killed _ _ he _ hk => rw [hkill he hk, hwait]

/-- Whatever the way, the target was killed if and only if its status says so, and otherwise its
status tells how it ended. -/
lemma signals_terminate {status : SessionStatus}
    (h : c.terminate grace deadline = .ok (status, c')) :
    ∃ sent, c'.target.signals = c.target.signals ++ sent ∧
      (status.wasKilled ↔ Signal.kill ∈ sent.map Prod.snd) ∧
      (status.exitInfo? = none ↔ Signal.kill ∈ sent.map Prod.snd) := by
  have hlook : c.tryReap.target.signals = c.target.signals := tryReap_keeps (fun _ => rfl) c
  rw [← hlook]
  cases terminate_way h with
  | ended => exact ⟨[], by simp, by simp [SessionStatus.wasKilled], by simp [SessionStatus.exitInfo?]⟩
  | late hc _ hk =>
    exact ⟨_, signals_forceKill hc hk, by simp [SessionStatus.wasKilled],
      by simp [SessionStatus.exitInfo?]⟩
  | obeyed =>
    refine ⟨_, signals_waited _ _, ?_, ?_⟩
    · simp [SessionStatus.wasKilled, Signal.kill, Signal.term]
    · simp [SessionStatus.exitInfo?, Signal.kill, Signal.term]
  | killed _ _ he hs hk =>
    refine ⟨[(c.tryReap.now, Signal.term),
      ((c.tryReap.waited (c.tryReap.graceEnd grace deadline)).now, Signal.kill)], ?_, ?_, ?_⟩
    · rw [signals_forceKill he hk, signals_waited, List.append_assoc]
      rfl
    · rw [hs]
      split <;> simp [SessionStatus.wasKilled]
    · rw [hs]
      split <;> simp [SessionStatus.exitInfo?]

end Record

section Outcome

variable [ReapableTarget τ]

/-- A child that was brought to its end is known to have ended, as its target has, or it was killed
and waited for in vain to the end. -/
lemma reaped_of_terminate {c c' : Child (Recorded τ)} {status : SessionStatus} (hc : c.exit = none)
    (h : c.terminate grace deadline = .ok (status, c')) :
    (∃ e, c'.exit = some e ∧ Target.exit? c'.target = some e) ∨
      ∃ t, (t, Signal.kill) ∈ c'.target.signals ∧ c'.now = t + forceKillTimeout.nanos := by
  cases terminate_way h with
  | ended he => exact .inl ⟨_, he, by rw [← exit_tryReap_eq hc, he]⟩
  | late he _ hk =>
    refine (forceKill_waits he hk).imp_right fun hn => ⟨_, ?_, hn⟩
    simp [signals_forceKill he hk]
  | obeyed hc _ he => exact .inl ⟨_, he, exit_waited_eq hc he⟩
  | killed _ _ he _ hk =>
    refine (forceKill_waits he hk).imp_right fun hn => ⟨_, ?_, hn⟩
    simp [signals_forceKill he hk]

/-- **The outcome of a termination and the signals that were sent.** A target that has ended is
left alone; if its end was known, it is not even looked at. One whose deadline has passed is killed
at once. Any other is asked to end at once. If the system takes the request and the target has ended
when the grace window or the time up to the deadline is over, this is its status, and otherwise it
is killed at that moment; if the system refuses the request, it is killed without a wait. -/
theorem terminate_outcome (c : Child (Recorded τ)) (grace : Duration) (deadline : Instant) :
    (∀ e, c.reported = some e → ∃ c',
      c.terminate grace deadline = .ok (.exitedBeforeSignal e, c') ∧
      c'.target.log = c.target.log ∧ (c.exit.isSome → c' = c)) ∧
    (c.reported = none → deadline ≤ c.now → c.now + forceKillTimeout.nanos < Clock.limit → ∃ c',
      c.terminate grace deadline = .ok (.timedOut, c') ∧
      c'.target.signals = c.target.signals ++ [(c.now, Signal.kill)]) ∧
    (c.reported = none → c.now < deadline → c.now + grace.nanos < Clock.limit →
      let graceEnd := min deadline (c.now + grace.nanos)
      let asked := c.tryReap.askToEnd.closeInput
      let atGraceEnd := Target.exit? (InputStream.sleep graceEnd asked.target)
      (∀ reached, c.tryReap.requestEnd.1 = .ok reached →
        (∀ e, atGraceEnd = some e → ∃ c',
          c.terminate grace deadline = .ok (.exitedAfterSignal e, c') ∧
          c'.target.signals = c.target.signals ++ [(c.now, Signal.term)]) ∧
        (atGraceEnd = none → graceEnd + forceKillTimeout.nanos < Clock.limit → ∃ c',
          c.terminate grace deadline =
            .ok (if deadline ≤ c.now + grace.nanos then .timedOut else .forceKilled, c') ∧
          c'.target.signals =
            c.target.signals ++ [(c.now, Signal.term), (graceEnd, Signal.kill)])) ∧
      (∀ refusal, c.tryReap.requestEnd.1 = .error refusal →
        c.now + forceKillTimeout.nanos < Clock.limit → ∃ c',
          c.terminate grace deadline = .ok (.forceKilled, c') ∧
          c'.target.signals = c.target.signals ++ [(c.now, Signal.term), (c.now, Signal.kill)])) ∧
    (∀ status c', c.terminate grace deadline = .ok (status, c') →
      ∃ sent, c'.target.signals = c.target.signals ++ sent ∧
        (status.wasKilled ↔ Signal.kill ∈ sent.map Prod.snd) ∧
        (status.exitInfo? = none ↔ Signal.kill ∈ sent.map Prod.snd)) := by
  have hlook : c.tryReap.target.signals = c.target.signals := tryReap_keeps (fun _ => rfl) c
  have hnow : c.tryReap.now = c.now := now_tryReap c
  have hend : c.tryReap.graceEnd grace deadline = min deadline (c.now + grace.nanos) := by
    rw [graceEnd, hnow]
  refine ⟨fun e hr => ?_, fun hr hd hl => ?_, fun hr hd hg => ⟨fun _ htaken => ⟨fun e he => ?_,
    fun he hl => ?_⟩, fun _ hrefused hl => ?_⟩, fun _ _ h => signals_terminate h⟩
  · exact ⟨c.tryReap, terminate_of_ended (by rwa [exit_tryReap]), log_tryReap c, tryReap_of_ended⟩
  · rw [← exit_tryReap] at hr
    obtain ⟨k, hk⟩ : ∃ k, c.tryReap.forceKill = .ok k := ⟨_, forceKill_ok (by rwa [hnow])⟩
    refine ⟨k, ?_, ?_⟩
    · rw [terminate_of_late hr (by rwa [hnow]), hk]
      rfl
    · rw [signals_forceKill hr hk, hlook, hnow]
  · rw [← exit_tryReap] at hr
    have hw : (c.tryReap.waited (c.tryReap.graceEnd grace deadline)).exit = some e := by
      rw [waited_of_taken htaken, exit_waitUntil (by simpa using hr), hend]
      exact he
    refine ⟨_, (terminate_of_early hr hd hg).trans (conclude_of_ended hw), ?_⟩
    rw [signals_waited, hlook, hnow]
  · rw [← exit_tryReap] at hr
    have hw : (c.tryReap.waited (c.tryReap.graceEnd grace deadline)).exit = none := by
      rw [waited_of_taken htaken, exit_waitUntil (by simpa using hr), hend]
      exact he
    have hn := now_waited_of_running (by rwa [hnow]) htaken hw
    rw [hend] at hn
    obtain ⟨k, hk⟩ : ∃ k, (c.tryReap.waited (c.tryReap.graceEnd grace deadline)).forceKill = .ok k :=
      ⟨_, forceKill_ok (by rwa [hend, hn])⟩
    refine ⟨k, ?_, ?_⟩
    · rw [terminate_of_early hr hd hg, conclude_of_running hw, hk, hend, hn]
      simp only [Nat.le_min, Nat.le_refl, true_and]
      rfl
    · rw [signals_forceKill hw hk, signals_waited, hlook, hnow, hend, hn, List.append_assoc]
      rfl
  · rw [← exit_tryReap] at hr
    have hw : (c.tryReap.waited (c.tryReap.graceEnd grace deadline)).exit = none := by
      rw [waited_of_refused hrefused, exit_asked, hr]
    have hn : (c.tryReap.waited (c.tryReap.graceEnd grace deadline)).now = c.now := by
      rw [waited_of_refused hrefused, now_asked, hnow]
    obtain ⟨k, hk⟩ : ∃ k, (c.tryReap.waited (c.tryReap.graceEnd grace deadline)).forceKill = .ok k :=
      ⟨_, forceKill_ok (by rwa [hn])⟩
    refine ⟨k, ?_, ?_⟩
    · rw [terminate_of_early hr hd hg, conclude_of_running hw, hk, hn, if_neg (Nat.not_le.2 hd)]
      rfl
    · rw [signals_forceKill hw hk, signals_waited, hlook, hnow, hn, List.append_assoc]
      rfl

end Outcome

/-- A target that pays no attention to anybody is asked to end and killed at its deadline, and
killed at once if that has passed or if it cannot be asked; one that needs a second to end gets it. -/
theorem terminate_outcome_scripted :
    let deaf : Child (Recorded ScriptedTarget) := { target := { inner := {} } }
    let slow : Child (Recorded ScriptedTarget) :=
      { target := { inner := { onTerm := some (1000000000, .exited 0) } } }
    let foreign : Child (Recorded ScriptedTarget) :=
      { target := { inner := { refusal := some ⟨1, "EPERM: Operation not permitted"⟩ } } }
    (∃ c', deaf.terminate (.ofSeconds 5) 2000000000 = .ok (.timedOut, c') ∧
      c'.target.signals = [(0, Signal.term), (2000000000, Signal.kill)]) ∧
    (∃ c', deaf.terminate (.ofSeconds 5) 0 = .ok (.timedOut, c') ∧
      c'.target.signals = [(0, Signal.kill)]) ∧
    (∃ c', slow.terminate (.ofSeconds 5) 2000000000 = .ok (.exitedAfterSignal (.exited 0), c') ∧
      c'.target.signals = [(0, Signal.term)]) ∧
    (∃ c', foreign.terminate (.ofSeconds 5) 2000000000 = .ok (.forceKilled, c') ∧
      c'.target.signals = [(0, Signal.term), (0, Signal.kill)]) := by
  refine ⟨?_, ?_, ?_, ?_⟩
  · exact (((terminate_outcome _ _ _).2.2.1 (by decide) (by decide) (by decide)).1 true rfl).2
      (by decide) (by decide)
  · exact (terminate_outcome _ _ _).2.1 (by decide) (by decide) (by decide)
  · exact (((terminate_outcome _ _ _).2.2.1 (by decide) (by decide) (by decide)).1 true rfl).1 _
      (by decide)
  · exact ((terminate_outcome _ _ _).2.2.1 (by decide) (by decide) (by decide)).2 _ rfl
      (by decide)

end GuestHarness.Child
