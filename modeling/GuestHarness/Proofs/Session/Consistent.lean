import GuestHarness.Proofs.Session.Bounded

/-!
The story that a result tells. The failure, the status, the number of completed steps and the
output of a result come from three parts of a session that each look at the deadline for
themselves. They agree: the script is cut only at the deadline, so the target of a script that was
cut is late when it is brought to its end; and a target that was in time is not found to be late
unless the script was completed.
-/

namespace GuestHarness

variable {τ : Type} [Target τ]

/-! ### Results -/

/-- The result of a session, of which it is known what its target accepted, is free of
contradictions. -/
structure SessionResult.Consistent (s : TestSession) (accepted : Bytes) (r : SessionResult) :
    Prop where
  of_success : r.failure = none → r.stepsCompleted = s.steps.length ∧
    accepted = s.steps.flatMap CommandStep.payload ∧ r.status ≠ .timedOut
  of_commandWrite : ∀ step reason, r.failure = some (.commandWrite step reason) →
    r.stepsCompleted = step ∧ step < s.steps.length
  of_sequencing : r.failure = some (.deadlineExceeded SessionState.sequencing.name) →
    r.stepsCompleted < s.steps.length ∧
      (r.status = .timedOut ∨ ∃ e, r.status = .exitedBeforeSignal e)
  of_terminating : r.failure = some (.deadlineExceeded SessionState.terminating.name) →
    r.stepsCompleted = s.steps.length ∧ r.status = .timedOut
  phase : ∀ phase, r.failure = some (.deadlineExceeded phase) →
    phase = SessionState.sequencing.name ∨ phase = SessionState.terminating.name
  of_timedOut : r.status = .timedOut → r.failure ≠ none

namespace SessionResult

lemma intoResult_of_failure (r : SessionResult) :
    ((∃ r', r.intoResult = .ok r') ↔ r.failure = none) ∧
    (∀ r', r.intoResult = .ok r' → r' = r) ∧
    (∀ step reason, r.failure = some (.commandWrite step reason) →
      r.intoResult = .error (.commandWrite step reason r.output)) ∧
    (∀ phase, r.failure = some (.deadlineExceeded phase) →
      r.intoResult = .error (.timedOut phase r.duration r.output)) := by
  unfold intoResult
  cases r.failure with
  | none => simp
  | some f => cases f <;> simp

end SessionResult

/-! ### Sessions -/

namespace TestSession

variable {site : Site τ} {s : TestSession} {deadline : Instant}

/-- What a script comes to that was run with a target of which nothing is recorded yet: with all
its steps everything was sent; a failure is one of the step at which it stopped; and if it was cut,
steps are left. -/
lemma script_progress {r written : Recorded τ} {outcome : Sequencer.Outcome} {completed : Nat}
    (hr : r.accepted = [])
    (h : ({} : Sequencer).run (some deadline) s.steps r = (outcome, ⟨completed⟩, written)) :
    (∀ n, outcome = .ok n → completed = s.steps.length ∧
      written.accepted = s.steps.flatMap CommandStep.payload) ∧
    (∀ step e out, outcome = .failed step e out → completed = step ∧ step < s.steps.length) ∧
    (outcome = .cut → completed < s.steps.length) := by
  obtain ⟨done, part, p⟩ := Sequencer.runFrom_progress (some deadline) s.steps 0 0 r
  have hrun : Sequencer.runFrom (some deadline) 0 0 s.steps r = (outcome, completed, written) := by
    simp only [Sequencer.run, Prod.mk.injEq, Sequencer.mk.injEq] at h
    exact Prod.ext h.1 (Prod.ext h.2.1 h.2.2)
  rw [hrun] at p
  have hdone : completed = done := by
    have hc := p.completed_eq
    dsimp only at hc
    split at hc <;> omega
  rw [hdone]
  refine ⟨fun n hn => ?_, fun step e out hf => ?_, p.of_cut⟩
  · have hall := (p.of_ok n hn).1
    have hpart : part = [] := by
      have := p.part_prefix
      rwa [hall, List.getElem?_eq_none (Nat.le_refl _), Option.map_none, Option.getD_none,
        List.prefix_nil] at this
    exact ⟨hall, by rw [p.accepted_eq, hr, hall, hpart, List.take_length]; simp⟩
  · obtain ⟨hlt, rfl⟩ := p.of_failed step e out hf
    exact ⟨(Nat.zero_add done).symm, by rwa [Nat.zero_add]⟩

/-- A script that was cut ends at the deadline at the earliest. -/
lemma le_now_of_cut [TimedTarget τ] {r written : Recorded τ} {completed : Nat}
    (h : ({} : Sequencer).run (some deadline) s.steps r = (.cut, ⟨completed⟩, written)) :
    deadline ≤ InputStream.now written := by
  simp only [Sequencer.run, Prod.mk.injEq] at h
  rw [← h.2.2]
  exact Sequencer.le_now_of_runFrom s.steps 0 _ r h.1

lemma Course.Taken.consistent [TimedTarget τ] {r : Recorded τ} {run : SessionRun (Recorded τ)}
    {x : Course (Recorded τ)} {result : SessionResult} (hr : r.accepted = [])
    (h : x.Taken site.recorded s deadline r run) (hresult : run.result = .ok result) :
    result.Consistent s x.child.target.accepted := by
  obtain ⟨outcome, completed, written, status, child, drain⟩ := x
  obtain ⟨hstatus, hcompleted, hfailure, -⟩ := h.of_result result hresult
  obtain ⟨hok, hfailed, hcut⟩ := script_progress hr h.sequenced
  have haccepted : child.target.accepted = written.accepted := Child.accepted_terminate h.terminated
  dsimp only at *
  rw [haccepted]
  cases outcome with
  | ok n =>
    -- only here does the failure depend on the status
    obtain ⟨hall, hsent⟩ := hok n rfl
    by_cases ht : status = .timedOut
    · have hf : result.failure = some (.deadlineExceeded SessionState.terminating.name) := by
        simp [hfailure, failureAfter, scriptFailure, ht]
      constructor <;> simp [hf, hstatus, ht, hcompleted, hall, SessionState.name]
    · have hf : result.failure = none := by simp [hfailure, failureAfter, scriptFailure, ht]
      constructor <;> simp [hf, hstatus, ht, hcompleted, hall, hsent]
  | failed step e out =>
    obtain ⟨rfl, hlt⟩ := hfailed step e out rfl
    have hf : result.failure = some (.commandWrite completed e.message) := by
      simp [hfailure, failureAfter, scriptFailure]
    constructor <;> simp [hf, hcompleted, hlt]
  | cut =>
    have hf : result.failure = some (.deadlineExceeded SessionState.sequencing.name) := by
      simp [hfailure, failureAfter, scriptFailure]
    have hlate := Child.status_of_late (le_now_of_cut h.sequenced) h.terminated
    constructor <;> simp [hf, hstatus, hlate, hcompleted, hcut, SessionState.name]

/-- **The result of a session tells one consistent story**, and as a result or an error it tells
the same. So it does if the system refuses to send signals or fails to wait for the target. -/
theorem result_consistent [TimedTarget τ] (site : Site τ) (s : TestSession)
    {run : SessionRun (Recorded τ)} {result : SessionResult}
    (h : s.run site.recorded = .ok run) (hresult : run.result = .ok result) :
    (∃ c, run.child = some c ∧ result.Consistent s c.target.accepted) ∧
    result.output = run.session.buffer.data ∧
    ((∃ r, result.intoResult = .ok r) ↔ result.failure = none) ∧
    (∀ r, result.intoResult = .ok r → r = result) ∧
    (∀ step reason, result.failure = some (.commandWrite step reason) →
      result.intoResult = .error (.commandWrite step reason result.output)) ∧
    (∀ phase, result.failure = some (.deadlineExceeded phase) →
      result.intoResult = .error (.timedOut phase result.duration result.output)) := by
  obtain ⟨-, -, e, he⟩ | ⟨deadline, r, -, hl, hrun⟩ := run_cases h
  · rw [he] at hresult
    cases hresult
  · obtain ⟨x, hx⟩ := runTarget_course hrun
    have hr : r.accepted = [] := by simp [Recorded.accepted, (Site.launch_recorded hl).1]
    exact ⟨⟨x.child, hx.child_eq, hx.consistent hr hresult⟩,
      (hx.of_result result hresult).2.2.2, result.intoResult_of_failure⟩

/-- A session that sends one byte to a target that takes it and ends when it is asked to, and to one
that can neither be asked to end nor be waited for. -/
theorem result_consistent_polite :
    let s : TestSession :=
      { id := "polite", spec := { executable := "polite" }, steps := [⟨[0x41], .ofSeconds 1⟩] }
    let site := Site.hosting { onTerm := some (0, .exited 0) }
    let lost : Site LostTarget :=
      { now := 0, calendar := fun _ => .epoch, files := ⟨[], []⟩
        launch := fun _ _ _ => .ok
          ⟨{ refusal := some ⟨1, "EPERM: Operation not permitted"⟩ }, .os 10⟩ }
    (∃ run result c, s.run site.recorded = .ok run ∧ run.result = .ok result ∧
      run.child = some c ∧ result.Consistent s c.target.accepted) ∧
    ∃ run result c, s.run lost.recorded = .ok run ∧ run.result = .ok result ∧
      run.child = some c ∧ result.Consistent s c.target.accepted := by
  intro s site lost
  constructor
  · obtain ⟨run, hrun⟩ : ∃ run, s.run site.recorded = .ok run :=
      run_exists (fun _ _ _ h => by cases h; rfl) (by decide)
    obtain ⟨⟨result, hresult⟩, -⟩ := course_of_launch hrun rfl rfl
    obtain ⟨⟨c, hc, hall⟩, -⟩ := result_consistent site s hrun hresult
    exact ⟨run, result, c, hrun, hresult, hc, hall⟩
  · obtain ⟨run, hrun⟩ : ∃ run, s.run lost.recorded = .ok run :=
      run_exists (fun _ _ _ h => by cases h; rfl) (by decide)
    obtain ⟨⟨result, hresult⟩, -⟩ := course_of_launch hrun rfl rfl
    obtain ⟨⟨c, hc, hall⟩, -⟩ := result_consistent lost s hrun hresult
    exact ⟨run, result, c, hrun, hresult, hc, hall⟩

end TestSession
end GuestHarness
