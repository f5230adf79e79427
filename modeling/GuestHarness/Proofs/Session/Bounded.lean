import GuestHarness.Proofs.Output.Finish
import GuestHarness.Proofs.Session.Recording
import GuestHarness.Proofs.Target.Scripted

/-!
A session is over in time. Four waits follow one another in it: for the script, which is cut at the
deadline; for the target that was asked to end, which lasts up to the deadline at most; for the
target that was killed; and for the last output. Each has a limit of its own that no behaviour of
the target and none of a sink can move.
-/

namespace GuestHarness

/-! ### The window for the last output -/

/-- Output is waited for up to the deadline at most, or for the least time. -/
lemma drainWindow_end_le_max (drain : Duration) (deadline now : Instant) :
    now + (drainWindow drain deadline now).nanos ≤
      max deadline (now + min drain.nanos minDrainWindow.nanos) := by
  have he := Clock.nanos_elapsed_le now deadline
  unfold drainWindow
  rw [Duration.nanos_min, Duration.nanos_max]
  unfold Instant at *
  omega

lemma drainWindow_end_le (drain : Duration) (deadline now : Instant) :
    now + (drainWindow drain deadline now).nanos ≤ max deadline now + minDrainWindow.nanos := by
  have h := drainWindow_end_le_max drain deadline now
  unfold Instant at *
  omega

/-- The limits that are set once the target has started lie within the range of the clock: the end of
the grace window, which begins before the deadline, and the last moment at which output is waited for,
after the target was killed at the deadline. -/
structure SessionTiming.LeavesRoom (t : SessionTiming) (start : Instant) : Prop where
  grace : start + t.timeout.nanos + t.graceWindow.nanos ≤ Clock.limit
  drain : start + t.timeout.nanos + forceKillTimeout.nanos +
    min t.drainTimeout.nanos minDrainWindow.nanos < Clock.limit

/-! ### The whole session -/

/-- Targets start at the moment at which they are launched. -/
def Site.IsPrompt {τ : Type} [Target τ] (site : Site τ) : Prop :=
  ∀ files spec target, site.launch site.now files spec = .ok target →
    InputStream.now target = site.now

namespace TestSession

variable {τ : Type} [Target τ]

/-- The moment at which the time of a session is over. -/
def deadlineAt (s : TestSession) (start : Instant) : Instant := start + s.timing.timeout.nanos

/-- The last moment that a session may have to name lies within the range of the clock. -/
def FitsClock (s : TestSession) (start : Instant) : Prop :=
  s.deadlineAt start + max s.timing.graceWindow.nanos
    (forceKillTimeout.nanos + minDrainWindow.nanos) < Clock.limit

instance (s : TestSession) (start : Instant) : Decidable (s.FitsClock start) := Nat.decLt _ _

variable {site : Site τ} {s : TestSession} {start : Instant}

lemma FitsClock.leavesRoom (h : s.FitsClock start) : s.timing.LeavesRoom start := by
  unfold FitsClock deadlineAt at h
  constructor
  · unfold Instant at *
    omega
  · unfold Instant at *
    omega

lemma now_launched_le {r : Recorded τ} (hsite : site.IsPrompt)
    (h : site.recorded.launch site.recorded.now site.recorded.files s.spec = .ok r) :
    InputStream.now r ≤ s.deadlineAt site.now := by
  rw [Recorded.now_eq, hsite _ _ _ (Site.launch_recorded h).2]
  exact Nat.le_add_right _ _

section Timed

variable [TimedTarget τ]

/-- The script is over by the deadline. -/
lemma sequenced_by {target written : τ} {deadline : Instant} {outcome : Sequencer.Outcome}
    {completed : Nat} (hd : InputStream.now target ≤ deadline)
    (h : ({} : Sequencer).run (some deadline) s.steps target = (outcome, ⟨completed⟩, written)) :
    InputStream.now written ≤ deadline := by
  have := (Sequencer.keeps_now_le (Nat.le_refl deadline)).run {} s.steps target hd
  rwa [h] at this

/-- The limits that a run sets after the script can be set if they lie within the range of the
clock. -/
lemma runTarget_exists {target : τ} (hd : InputStream.now target ≤ s.deadlineAt site.now)
    (hroom : s.timing.LeavesRoom site.now) :
    ∃ run, s.runTarget site (s.deadlineAt site.now) target = .ok run := by
  obtain ⟨outcome, completed, written, hq⟩ : ∃ outcome completed written,
      ({} : Sequencer).run (some (s.deadlineAt site.now)) s.steps target =
        (outcome, ⟨completed⟩, written) := ⟨_, _, _, rfl⟩
  have hw : Child.now { target := written } ≤ s.deadlineAt site.now := sequenced_by hd hq
  obtain ⟨hgrace, hdrain⟩ := hroom
  obtain ⟨status, child, ht⟩ : ∃ status child, Child.terminate { target := written }
      s.timing.graceWindow (s.deadlineAt site.now) = .ok (status, child) :=
    Child.terminate_ok hw
      (fun hlt => Nat.lt_of_lt_of_le (Nat.add_lt_add_right hlt _) hgrace)
      (Nat.lt_of_le_of_lt (Nat.le_add_right _ _) hdrain)
  have hended := Child.now_terminate_le hw ht
  have hwindow :=
    drainWindow_end_le_max s.timing.drainTimeout (s.deadlineAt site.now) child.now
  unfold deadlineAt at *
  refine runTarget_ok hq ht ?_
  unfold Instant at *
  omega

/-- A session has a run if its limits can be set. -/
lemma run_exists (hsite : site.IsPrompt) (hfits : s.FitsClock site.now) :
    ∃ run, s.run site.recorded = .ok run :=
  run_ok (Nat.lt_of_le_of_lt (Nat.le_add_right _ _) hfits) fun _ hl =>
    runTarget_exists (now_launched_le hsite hl) hfits.leavesRoom

end Timed

/-- **A session is over in time.** From the moment at which the target is brought to its end, which
is at most three seconds after the deadline, it takes what is left up to the deadline, or a tenth
of a second if that is more. The target has then ended, and this is the end that was recorded, or it
was killed and waited for all that time. Signals may be refused; the system waits when it is asked
to. -/
theorem run_bounded [ReapableTarget τ] (site : Site τ) (hsite : site.IsPrompt) (s : TestSession) :
    (∀ run, s.run site.recorded = .ok run →
      (run.child = none → run.moment = site.now) ∧
      ∀ c, run.child = some c →
        c.now ≤ s.deadlineAt site.now + forceKillTimeout.nanos ∧
        run.moment ≤ max (s.deadlineAt site.now) c.now + minDrainWindow.nanos ∧
        ((∃ e, c.exit = some e ∧ Target.exit? c.target = some e) ∨
          ∃ t, (t, Signal.kill) ∈ c.target.signals ∧ c.now = t + forceKillTimeout.nanos)) ∧
    (s.FitsClock site.now → ∃ run, s.run site.recorded = .ok run) := by
  refine ⟨fun run h => ?_, run_exists hsite⟩
  obtain ⟨hc, hm, -⟩ | ⟨deadline, target, hd, hl, hr⟩ := run_cases h
  · exact ⟨fun _ => hm, by simp [hc]⟩
  · have hdeadline : deadline = s.deadlineAt site.now := (Clock.deadline_eq_ok_iff.1 hd).2
    subst hdeadline
    obtain ⟨x, hx⟩ := runTarget_course hr
    have hstart := now_launched_le (s := s) hsite hl
    have hended := Child.now_terminate_le (sequenced_by hstart hx.sequenced) hx.terminated
    have hwindow := drainWindow_end_le s.timing.drainTimeout (s.deadlineAt site.now) x.child.now
    rw [hx.child_eq]
    refine ⟨by simp, fun c hc => ?_⟩
    cases hc
    exact ⟨hended, Nat.le_trans hx.moment_le hwindow, Child.reaped_of_terminate rfl hx.terminated⟩

/-- A session of two seconds with a sink that never comes back, and with either of two targets: one
never reads, never ends and outlives being killed, and the other one cannot be asked to end and needs
a second to die. It is over in time. -/
theorem run_bounded_deaf :
    let hung : Output.ScriptedSink := ⟨"hung", fun _ => .hangs, .hangs, 0, 0, []⟩
    let s : TestSession :=
      { id := "deaf", spec := { executable := "deaf" }, steps := [⟨[0x41], .ofSeconds 1⟩]
        timing := { timeout := .ofSeconds 2 }, sinks := [.scripted hung] }
    let deaf := Site.hosting { input := { replies := [.wait Clock.farFuture] }, output := [[]] }
    let foreign := Site.hosting
      { refusal := some ⟨1, "EPERM: Operation not permitted"⟩, onKill := some 1000000000 }
    (∃ run c, s.run deaf.recorded = .ok run ∧ run.child = some c ∧
      c.now ≤ 5000000000 ∧ run.moment ≤ 5100000000 ∧
      ((∃ e, c.exit = some e ∧ Target.exit? c.target = some e) ∨
        ∃ t, (t, Signal.kill) ∈ c.target.signals ∧ c.now = t + 3000000000)) ∧
    ∃ run c, s.run foreign.recorded = .ok run ∧ run.child = some c ∧
      c.now ≤ 5000000000 ∧ run.moment ≤ 5100000000 ∧
      ((∃ e, c.exit = some e ∧ Target.exit? c.target = some e) ∨
        ∃ t, (t, Signal.kill) ∈ c.target.signals ∧ c.now = t + 3000000000) := by
  intro hung s deaf foreign
  have hover : ∀ target : ScriptedTarget, target.input.now = 0 →
      ∃ run c, s.run (Site.hosting target).recorded = .ok run ∧ run.child = some c ∧
        c.now ≤ 5000000000 ∧ run.moment ≤ 5100000000 ∧
        ((∃ e, c.exit = some e ∧ Target.exit? c.target = some e) ∨
          ∃ t, (t, Signal.kill) ∈ c.target.signals ∧ c.now = t + 3000000000) := by
    intro target htarget
    have hstart : (Site.hosting target).now = 0 := htarget
    have h := run_bounded (Site.hosting target) (fun _ _ _ h => by cases h; rfl) s
    rw [hstart] at h
    obtain ⟨run, hrun⟩ := h.2 (by decide)
    obtain ⟨-, _, x, hx⟩ := course_of_launch hrun rfl rfl
    obtain ⟨hn, hm, hreaped⟩ := (h.1 run hrun).2 x.child hx.child_eq
    have hdeadline : s.deadlineAt 0 = 2000000000 := by decide
    have hkill : forceKillTimeout.nanos = 3000000000 := by decide
    have hdrain : minDrainWindow.nanos = 100000000 := by decide
    rw [hdeadline, hkill] at hn
    rw [hdeadline, hdrain] at hm
    rw [hkill] at hreaped
    refine ⟨run, x.child, hrun, hx.child_eq, hn, ?_, hreaped⟩
    unfold Instant at *
    omega
  exact ⟨hover _ rfl, hover _ rfl⟩

end TestSession
end GuestHarness
