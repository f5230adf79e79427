import GuestHarness.Proofs.Session.Bounded

/-!
Limits near the end of the clock. A session sets limits of its own once its target has started: the end
of the grace window, the end of the wait for a target that was killed, and the end of the wait for the
last output. That the deadline of the session lies within the range of the clock does not mean that
these do: the end of the grace window is cut at the deadline only when it has been computed, and a target
is killed as late as at the deadline. A session is sure to be completed exactly if the deadline leaves
room for both.
-/

namespace GuestHarness

/-! ### Targets that do nothing -/

/-- A target that says nothing and does not end. -/
def ScriptedTarget.idle (now : Instant) : ScriptedTarget := { input := { now := now } }

/-- A session that lets some time pass. -/
def TestSession.pausing (t : SessionTiming) (d : Duration) : TestSession :=
  { id := "pausing", spec := { executable := "idle" }, steps := [.pause d], timing := t }

namespace TestSession

variable {t : SessionTiming} {d : Duration} {start deadline : Instant}

/-- A script that lets time pass does so, up to the deadline at most. -/
lemma settle_idle (hd : start + d.nanos ≤ deadline) (hdeadline : deadline < Clock.limit) :
    Sequencer.settle (some deadline) d (ScriptedTarget.idle start) =
      (.done (), ScriptedTarget.idle (start + d.nanos)) := by
  unfold Sequencer.settle
  split
  · next hzero => rw [hzero]; rfl
  · have hwake : Clock.wake start d = start + d.nanos :=
      if_pos (Nat.lt_of_le_of_lt hd hdeadline)
    have hsleep : InputStream.sleep (start + d.nanos) (ScriptedTarget.idle start) =
        ScriptedTarget.idle (start + d.nanos) := by
      have hmax : max start (start + d.nanos) = start + d.nanos :=
        Nat.max_eq_right (Nat.le_add_right _ _)
      change (ScriptedTarget.idle start).advance (start + d.nanos) = _
      simp only [ScriptedTarget.idle, ScriptedTarget.advance, ScriptedInput.advance, hmax,
        List.filter_nil, List.foldl_nil]
    have hnow : InputStream.now (ScriptedTarget.idle start) = start := rfl
    dsimp only
    rw [hnow, hwake, if_neg (Nat.not_lt.2 hd), hsleep]

lemma tryReap_idle (now : Instant) :
    ({ target := ScriptedTarget.idle now } : Child ScriptedTarget).tryReap =
      { target := ScriptedTarget.idle now } := rfl

/-- A session that lets some time pass takes its course with a target that does nothing. -/
lemma pausing_course {run : SessionRun ScriptedTarget} (hd : d.nanos ≤ t.timeout.nanos)
    (hstart : start + t.timeout.nanos < Clock.limit)
    (h : (pausing t d).run (.hosting (.idle start)) = .ok run) :
    ∃ (status : SessionStatus) (child : Child ScriptedTarget) (drain : Instant),
      Child.terminate { target := ScriptedTarget.idle (start + d.nanos) } t.graceWindow
        (start + t.timeout.nanos) = .ok (status, child) ∧
      Clock.deadline child.now (drainWindow t.drainTimeout (start + t.timeout.nanos) child.now) =
        .ok drain := by
  have hrun : (pausing t d).run (.hosting (.idle start)) = (pausing t d).runTarget
      (.hosting (.idle start)) (start + t.timeout.nanos) (.idle start) :=
    run_of_launch rfl (Clock.deadline_of_lt hstart) rfl
  rw [hrun] at h
  obtain ⟨x, hx⟩ := runTarget_course h
  have hwritten : x.written = ScriptedTarget.idle (start + d.nanos) := by
    have hq := hx.sequenced
    have hsettle := settle_idle (Nat.add_le_add_left hd start) hstart
    simp only [pausing, Sequencer.run, Sequencer.runFrom, CommandStep.pause, CommandStep.isPause,
      List.isEmpty_nil, if_true, hsettle] at hq
    exact (Prod.mk.inj (Prod.mk.inj hq).2).2.symm
  exact ⟨x.status, x.child, x.drain, hwritten ▸ hx.terminated, hx.drained⟩

/-- The end of the grace window is computed whatever is left up to the deadline. -/
lemma grace_lt_of_pausing {run : SessionRun ScriptedTarget} (hd : d.nanos < t.timeout.nanos)
    (hstart : start + t.timeout.nanos < Clock.limit)
    (h : (pausing t d).run (.hosting (.idle start)) = .ok run) :
    start + d.nanos + t.graceWindow.nanos < Clock.limit := by
  obtain ⟨status, child, -, hterminated, -⟩ := pausing_course (Nat.le_of_lt hd) hstart h
  exact Child.grace_lt_of_terminate (by rw [tryReap_idle]) (Nat.add_lt_add_left hd start) hterminated

/-- A target can be killed as late as at the deadline. -/
lemma drain_lt_of_pausing {run : SessionRun ScriptedTarget}
    (hstart : start + t.timeout.nanos < Clock.limit)
    (h : (pausing t t.timeout).run (.hosting (.idle start)) = .ok run) :
    start + t.timeout.nanos + forceKillTimeout.nanos +
      min t.drainTimeout.nanos minDrainWindow.nanos < Clock.limit := by
  obtain ⟨status, child, drain, hterminated, hdrained⟩ :=
    pausing_course (Nat.le_refl _) hstart h
  have hlate : Child.terminate { target := ScriptedTarget.idle (start + t.timeout.nanos) }
      t.graceWindow (start + t.timeout.nanos) =
      (SessionStatus.timedOut, ·) <$>
        Child.forceKill { target := ScriptedTarget.idle (start + t.timeout.nanos) } := by
    have hreached : start + t.timeout.nanos ≤
        (Child.tryReap { target := ScriptedTarget.idle (start + t.timeout.nanos) }).now :=
      Nat.le_refl _
    rw [Child.terminate_of_late (by rw [tryReap_idle]) hreached, tryReap_idle]
  rw [hlate, map_eq_ok_iff] at hterminated
  obtain ⟨killed, hkilled, hpair⟩ := hterminated
  obtain rfl : killed = child := (Prod.mk.inj hpair).2
  have hnow : killed.now = start + t.timeout.nanos + forceKillTimeout.nanos := by
    obtain ⟨e, hexit, -⟩ | hnow := Child.forceKill_waits rfl hkilled
    · obtain ⟨-, rfl⟩ := Child.forceKill_eq_ok_iff.1 hkilled
      cases hexit
    · exact hnow
  have hzero : (Clock.elapsed killed.now (start + t.timeout.nanos)).nanos = 0 := by
    have hle := Clock.nanos_elapsed_le killed.now (start + t.timeout.nanos)
    have hover : start + t.timeout.nanos ≤ killed.now := hnow ▸ Nat.le_add_right _ _
    rwa [Nat.sub_eq_zero_of_le hover, Nat.le_zero] at hle
  have hwindow : (drainWindow t.drainTimeout (start + t.timeout.nanos) killed.now).nanos =
      min t.drainTimeout.nanos minDrainWindow.nanos := by
    rw [drainWindow, Duration.nanos_min, Duration.nanos_max, hzero, Nat.zero_max]
  have hlast := (Clock.deadline_eq_ok_iff.1 hdrained).1
  rwa [hwindow, hnow] at hlast

/-- A session is completed if the deadline leaves room for the limits that are set later. -/
lemma run_exists_of_leavesRoom {τ : Type} [Target τ] [TimedTarget τ] {site : Site τ}
    {s : TestSession} (hsite : site.IsPrompt) (hstart : s.deadlineAt site.now < Clock.limit)
    (hroom : s.timing.LeavesRoom site.now) : ∃ run, s.run site = .ok run := by
  refine run_ok hstart fun target htarget => runTarget_exists ?_ hroom
  rw [hsite _ _ _ htarget]
  exact Nat.le_add_right _ _

/-- **A deadline within the range of the clock is not enough.** Every session with the given limits is
completed, whatever its script and its target do and however long they take, and whether or not the
system sends signals and waits when it is asked to, exactly if the deadline leaves room for the limits
that are set later; else some session sets one beyond the range of the clock when its target has been
started. -/
theorem completes_iff (start : Instant) (t : SessionTiming) (hgrace : t.graceWindow < t.timeout)
    (hstart : start + t.timeout.nanos < Clock.limit) :
    (∀ (τ : Type) [Target τ] [TimedTarget τ] (site : Site τ) (s : TestSession), site.now = start →
      site.IsPrompt → s.timing = t → ∃ run, s.run site = .ok run) ↔ t.LeavesRoom start := by
  constructor
  · intro hall
    have hcompleted : ∀ d, ∃ run, (pausing t d).run (.hosting (.idle start)) = .ok run :=
      fun d => hall ScriptedTarget (.hosting (.idle start)) (pausing t d) rfl
        (fun _ _ _ h => by cases h; rfl) rfl
    have hpos : 0 < t.timeout.nanos := Nat.lt_of_le_of_lt (Nat.zero_le _) hgrace
    constructor
    · -- one nanosecond before the deadline the target is still given the whole grace window
      obtain ⟨run, hrun⟩ := hcompleted ⟨t.timeout.nanos - 1, by have := t.timeout.nanos_lt; omega⟩
      have hlt := grace_lt_of_pausing (Nat.sub_lt hpos Nat.one_pos) hstart hrun
      dsimp only at hlt
      unfold Instant at *
      omega
    · obtain ⟨run, hrun⟩ := hcompleted t.timeout
      exact drain_lt_of_pausing hstart hrun
  · rintro hroom τ _ _ site s rfl hsite rfl
    exact run_exists_of_leavesRoom hsite hstart hroom

/-- Limits as usual, and a target that does not end: the session is completed. -/
theorem completes_iff_usual :
    ∃ run, (pausing {} (.ofSeconds 1)).run (.hosting (.idle 1000000000000)) = .ok run := by
  have hroom : SessionTiming.LeavesRoom {} 1000000000000 := ⟨by decide, by decide⟩
  exact (completes_iff 1000000000000 {} (by decide) (by decide)).2 hroom ScriptedTarget
    (.hosting (.idle 1000000000000)) (pausing {} (.ofSeconds 1)) rfl (fun _ _ _ h => by cases h; rfl)
    rfl

/-- **A session can overflow the clock when its target is running.** The clock shows a thousand seconds;
the deadline is the last second that it can show, the grace window is shorter by a second than the
time up to the deadline, and two seconds have passed when the target is asked to end. -/
theorem run_overflows :
    let s := pausing { timeout := .ofSeconds 0x7FFFFFFFFFFFFC17
                       graceWindow := .ofSeconds 0x7FFFFFFFFFFFFC16 } (.ofSeconds 2)
    let site := Site.hosting (.idle 1000000000000)
    s.timing.graceWindow < s.timing.timeout ∧
      site.now + s.timing.timeout.nanos < Clock.limit ∧
      (∃ target, site.launch site.now site.files s.spec = .ok target) ∧
      s.run site = .error .overflow := by
  intro s site
  refine ⟨by decide, by decide, ⟨_, rfl⟩, ?_⟩
  cases hrun : s.run site with
  | ok run =>
    have hlt := grace_lt_of_pausing (by decide) (by decide) hrun
    exact absurd hlt (by decide)
  | error e => rfl

end TestSession
end GuestHarness
