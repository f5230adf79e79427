import GuestHarness.Proofs.Clock
import GuestHarness.Proofs.Output.Finish
import GuestHarness.Session
import Mathlib.Tactic.Common

/-!
The course of a session, taken apart: what its parts come to in a run, and that a run keeps to the
same course when everything that is done to its target is recorded.
-/

namespace GuestHarness

variable {τ : Type} [Target τ]

/-! ### The life of a session -/

namespace Lifecycle

variable {l : Lifecycle}

lemma state_of_canRun (h : l.canRun) : l.state = .created := by simpa [canRun] using h

/-- None of the moves of a session that can be run and whose target is started is refused. -/
lemma moves_of_canRun (h : l.canRun) (t₁ t₂ t₃ t₄ : Timestamp) (pid steps : Nat)
    (reason outcome : String) :
    (do
      let l ← l.toLaunched t₁ pid
      let l ← l.toSequencing t₂ steps
      let l ← l.toTerminating t₃ reason
      l.toDone t₄ outcome) = .ok ⟨.done, l.history ++ [
        ⟨.created, .launched, t₁, some ("Target spawned with pid " ++ Text.decimal pid)⟩,
        ⟨.launched, .sequencing, t₂,
          some ("Running " ++ Text.decimal steps ++ " command steps")⟩,
        ⟨.sequencing, .terminating, t₃, some reason⟩,
        ⟨.terminating, .done, t₄, some outcome⟩]⟩ := by
  simp [toLaunched, toSequencing, toTerminating, toDone, moveTo, SessionState.allows,
    state_of_canRun h, bind, Except.bind]

/-- Nor is that of a session whose target cannot be started. -/
lemma toFailed_of_canRun (h : l.canRun) (t : Timestamp) (reason : String) :
    l.toFailed t reason = .ok ⟨.failed, l.history ++ [⟨.created, .failed, t, some reason⟩]⟩ := by
  simp [toFailed, moveTo, SessionState.allows, state_of_canRun h]

end Lifecycle

/-! ### The parts of a run -/

namespace TestSession

/-- What the parts of a session come to: how the script ended, how many of its steps were
completed, the target when it was over, the status and the child when the target was brought to its
end, and the moment up to which output is waited for. -/
structure Course (τ : Type) where
  outcome : Sequencer.Outcome
  completed : Nat
  written : τ
  status : SessionStatus
  child : Child τ
  drain : Instant

/-- The course is the one that a run of a session with a target took. -/
structure Course.Taken (x : Course τ) (site : Site τ) (s : TestSession) (deadline : Instant)
    (target : τ) (run : SessionRun τ) : Prop where
  sequenced :
    ({} : Sequencer).run (some deadline) s.steps target = (x.outcome, ⟨x.completed⟩, x.written)
  terminated : Child.terminate { target := x.written } s.timing.graceWindow deadline =
    .ok (x.status, x.child)
  drained : Clock.deadline x.child.now
    (drainWindow s.timing.drainTimeout deadline x.child.now) = .ok x.drain
  child_eq : run.child = some x.child
  moment_eq : ∃ buffer traces worker, run.moment =
    (Output.finishBy buffer traces worker x.child.now x.drain site.calendar).moment
  of_result : ∀ result, run.result = .ok result → result.status = x.status ∧
    result.stepsCompleted = x.completed ∧
    result.failure = failureAfter (scriptFailure x.outcome) x.status ∧
    result.output = run.session.buffer.data
  result_ok : s.lifecycle.canRun → ∃ result, run.result = .ok result

variable {site : Site τ} {s : TestSession} {deadline : Instant} {target : τ} {run : SessionRun τ}

/-- Every run with a target takes a course. -/
lemma runTarget_course (h : s.runTarget site deadline target = .ok run) :
    ∃ x : Course τ, x.Taken site s deadline target run := by
  obtain ⟨outcome, completed, written, hq⟩ : ∃ outcome completed written,
      ({} : Sequencer).run (some deadline) s.steps target = (outcome, ⟨completed⟩, written) :=
    ⟨_, _, _, rfl⟩
  unfold runTarget at h
  simp only [hq] at h
  obtain ⟨⟨status, child⟩, ht, h⟩ := bind_eq_ok_iff.1 h
  obtain ⟨drain, hd, h⟩ := bind_eq_ok_iff.1 h
  cases h
  refine ⟨⟨outcome, completed, written, status, child, drain⟩,
    ⟨hq, ht, hd, rfl, ⟨_, _, _, rfl⟩, fun result hr => ?_, fun hl => ?_⟩⟩
  · obtain ⟨l, -, rfl⟩ := map_eq_ok_iff.1 hr
    exact ⟨rfl, rfl, rfl, rfl⟩
  · dsimp only
    rw [Lifecycle.moves_of_canRun hl]
    exact ⟨_, rfl⟩

/-- The target when its output is no longer waited for. -/
def Course.late (x : Course τ) : τ := InputStream.sleep x.drain x.child.target

/-- The pump of a session on its course. -/
def Course.pump (x : Course τ) (site : Site τ) (s : TestSession) : Output.PumpEnd :=
  Output.finishBy s.buffer (Target.traces x.late)
    { now := site.now, sinks := s.sinks, files := Target.files x.late } x.child.now x.drain
    site.calendar

/-- A run with a target leaves the files and the buffer as its pump did. -/
lemma runTarget_pump (h : s.runTarget site deadline target = .ok run) :
    ∃ x : Course τ, x.Taken site s deadline target run ∧
      run.files = (x.pump site s).worker.files ∧
      run.session.buffer = (x.pump site s).state.buffer := by
  obtain ⟨x, hx⟩ := runTarget_course h
  refine ⟨x, hx, ?_⟩
  unfold runTarget at h
  simp only [hx.sequenced] at h
  obtain ⟨⟨status, child⟩, ht, h⟩ := bind_eq_ok_iff.1 h
  obtain ⟨rfl, rfl⟩ := Prod.mk.inj (Except.ok.inj (ht.symm.trans hx.terminated))
  obtain ⟨drain, hd, h⟩ := bind_eq_ok_iff.1 h
  obtain rfl := Except.ok.inj (hd.symm.trans hx.drained)
  cases h
  exact ⟨rfl, rfl⟩

/-- A run is over when output is no longer waited for. -/
lemma Course.Taken.moment_le {x : Course τ} (h : x.Taken site s deadline target run) :
    run.moment ≤ x.child.now + (drainWindow s.timing.drainTimeout deadline x.child.now).nanos := by
  obtain ⟨buffer, traces, worker, hm⟩ := h.moment_eq
  obtain ⟨-, hdrain⟩ := Clock.deadline_eq_ok_iff.1 h.drained
  rw [hm, hdrain]
  exact Output.finishBy_moment_le _ _ _ _ (Nat.le_add_right _ _)

/-- A run with a target takes place if its limits can be set. -/
lemma runTarget_ok {outcome : Sequencer.Outcome} {completed : Nat} {written : τ}
    {status : SessionStatus} {child : Child τ}
    (hq : ({} : Sequencer).run (some deadline) s.steps target = (outcome, ⟨completed⟩, written))
    (ht : Child.terminate { target := written } s.timing.graceWindow deadline = .ok (status, child))
    (hd : child.now + (drainWindow s.timing.drainTimeout deadline child.now).nanos < Clock.limit) :
    ∃ run, s.runTarget site deadline target = .ok run := by
  unfold runTarget
  simp only [hq, ht, Clock.deadline, if_pos hd, bind, Except.bind, pure, Except.pure,
    Except.ok.injEq, exists_eq']

/-- A run either stops before there is a target, at the moment at which it began, or has one. -/
lemma run_cases (h : s.run site = .ok run) :
    (run.child = none ∧ run.moment = site.now ∧ ∃ e, run.result = .error e) ∨
    ∃ deadline target, Clock.deadline site.now s.timing.timeout = .ok deadline ∧
      site.launch site.now site.files s.spec = .ok target ∧
      s.runTarget site deadline target = .ok run := by
  unfold TestSession.run at h
  dsimp only at h
  split at h
  · cases h
    exact .inl ⟨rfl, rfl, _, rfl⟩
  · obtain ⟨deadline, hd, hr⟩ := bind_eq_ok_iff.1 h
    split at hr
    · split at hr
      · cases hr
        exact .inl ⟨rfl, rfl, _, rfl⟩
      · cases hr
        exact .inl ⟨rfl, rfl, _, rfl⟩
    · next target hl => exact .inr ⟨deadline, target, hd, hl, hr⟩

/-- What a call of `run` comes to on a session that has run: it is refused, and nothing is touched. -/
def refused (s : TestSession) (site : Site τ) : SessionRun τ :=
  { session := s
    result := .error (.invalidState SessionState.created.name s.lifecycle.state.name)
    moment := site.now, files := site.files, sinks := s.sinks, child := none }

lemma run_of_used (site : Site τ) (h : s.lifecycle.canRun = false) :
    s.run site = .ok (s.refused site) := by
  unfold TestSession.run
  simp only [h, Bool.not_false, if_true]
  rfl

/-- What a call of `run` comes to when the target cannot be started: the session has failed, and
nothing else is touched. -/
def unstarted (s : TestSession) (site : Site τ) (e : HarnessError) : SessionRun τ :=
  { session := { s with lifecycle := ⟨.failed, s.lifecycle.history ++
      [⟨.created, .failed, site.calendar site.now, some e.message⟩]⟩ }
    result := .error e
    moment := site.now, files := site.files, sinks := s.sinks, child := none }

/-- The two ways of a session that can be run: its target cannot be started, or it has one. -/
lemma run_of_canRun (h : s.run site = .ok run) (hcan : s.lifecycle.canRun) :
    (∃ e, site.launch site.now site.files s.spec = .error e ∧ run = s.unstarted site e) ∨
    ∃ deadline target, site.launch site.now site.files s.spec = .ok target ∧
      s.runTarget site deadline target = .ok run := by
  unfold TestSession.run at h
  simp only [hcan, Bool.not_true, Bool.false_eq_true, if_false] at h
  obtain ⟨deadline, -, hr⟩ := bind_eq_ok_iff.1 h
  cases hl : site.launch site.now site.files s.spec with
  | error e =>
    simp only [hl, Lifecycle.toFailed_of_canRun hcan] at hr
    cases hr
    exact .inl ⟨e, rfl, rfl⟩
  | ok target =>
    simp only [hl] at hr
    exact .inr ⟨deadline, target, rfl, hr⟩

/-- A fresh session whose target starts is a run with that target. -/
lemma run_of_launch {deadline : Instant} {target : τ} (hcan : s.lifecycle.canRun)
    (hd : Clock.deadline site.now s.timing.timeout = .ok deadline)
    (hl : site.launch site.now site.files s.spec = .ok target) :
    s.run site = s.runTarget site deadline target := by
  unfold TestSession.run
  simp only [hcan, Bool.not_true, Bool.false_eq_true, if_false, hd, hl]
  rfl

/-- A fresh session whose target starts has a course with that target, and a result. -/
lemma course_of_launch (h : s.run site = .ok run) (hl : s.lifecycle.canRun)
    (ht : site.launch site.now site.files s.spec = .ok target) :
    (∃ result, run.result = .ok result) ∧
    ∃ (deadline : Instant) (x : Course τ), x.Taken site s deadline target run := by
  obtain ⟨e, he, -⟩ | ⟨deadline, target', ht', hr⟩ := run_of_canRun h hl
  · rw [ht] at he
    cases he
  · obtain rfl := Except.ok.inj (ht.symm.trans ht')
    obtain ⟨x, hx⟩ := runTarget_course hr
    exact ⟨hx.result_ok hl, deadline, x, hx⟩

/-- A run takes place if its deadline can be set and every target takes part in one. -/
lemma run_ok (hd : site.now + s.timing.timeout.nanos < Clock.limit)
    (ht : ∀ target, site.launch site.now site.files s.spec = .ok target →
      ∃ run, s.runTarget site (site.now + s.timing.timeout.nanos) target = .ok run) :
    ∃ run, s.run site = .ok run := by
  unfold TestSession.run
  dsimp only
  split
  · exact ⟨_, rfl⟩
  · simp only [Clock.deadline, if_pos hd, bind, Except.bind]
    split
    · split
      · exact ⟨_, rfl⟩
      · exact ⟨_, rfl⟩
    · next target hl => exact ht target hl

end TestSession
end GuestHarness
