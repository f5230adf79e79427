import GuestHarness.Proofs.Sequencing
import GuestHarness.ScriptedInput
import Mathlib.Data.List.Permutation

/-!
Sequencers that run one script after the other. The count of a sequencer is set when a step is
completed and at no other time; in particular a run does not begin it anew. So a run that completes a
step leaves the number of its own steps, whatever earlier runs left, and a run that completes none
leaves what it found: the number of steps of the last run that completed any.
-/

namespace GuestHarness

/-- What a sequencer is asked for: to write a script to a stream, and to be dropped at a moment if
it has not come to the end by then. -/
structure Errand (σ : Type) where
  steps : List CommandStep
  stream : σ
  limit : Option Instant := none

namespace Sequencer

variable {σ : Type} [InputStream σ]

/-- The run of an errand. -/
def runErrand (q : Sequencer) (e : Errand σ) : Outcome × Sequencer × σ :=
  q.run e.limit e.steps e.stream

/-- The sequencer after some errands, one after the other. -/
def after (q : Sequencer) (errands : List (Errand σ)) : Sequencer :=
  errands.foldl (fun q e => (q.runErrand e).2.1) q

end Sequencer

/-- The number of steps that an errand completes, which is what a new sequencer counts. -/
def Errand.done {σ : Type} [InputStream σ] (e : Errand σ) : Nat :=
  (({} : Sequencer).runErrand e).2.1.completed

namespace Sequencer

variable {σ : Type} [InputStream σ]

/-- How a run ends that has completed some steps of a script, counted from an index: with all of them
and the count for an answer, with a failure at the next one, or because it is dropped. -/
inductive EndsAfter (done index : Nat) (steps : List CommandStep) : Outcome → Nat → Prop
  | all (h : done = steps.length) (count : Nat) : EndsAfter done index steps (.ok count) count
  | failed (h : done < steps.length) (e : IoError) (captured : Bytes) (count : Nat) :
      EndsAfter done index steps (.failed (index + done) e captured) count
  | cut (h : done < steps.length) (count : Nat) : EndsAfter done index steps .cut count

lemma EndsAfter.cons {done index count : Nat} {steps : List CommandStep} {outcome : Outcome}
    (h : EndsAfter done (index + 1) steps outcome count) (step : CommandStep) :
    EndsAfter (done + 1) index (step :: steps) outcome count := by
  cases h with
  | all h => exact .all (congrArg (· + 1) h) count
  | failed h e captured =>
    rw [Nat.add_right_comm, Nat.add_assoc]
    exact .failed (Nat.succ_lt_succ h) e captured count
  | cut h => exact .cut (Nat.succ_lt_succ h) count

/-- What a run does and how far it gets does not depend on what was counted before, and the count
before shows only if no step is completed. -/
lemma runFrom_counts (limit : Option Instant) (steps : List CommandStep) :
    ∀ (index : Nat) (s : σ), ∃ done s', ∀ completed, ∃ outcome count,
      runFrom limit index completed steps s = (outcome, count, s') ∧
      count = (if done = 0 then completed else index + done) ∧
      EndsAfter done index steps outcome count := by
  induction steps with
  | nil => exact fun index s => ⟨0, s, fun completed => ⟨_, _, rfl, rfl, .all (by rfl) _⟩⟩
  | cons step rest ih =>
    intro index s
    simp only [runFrom_cons]
    obtain ⟨reply, s₁⟩ := send limit step s
    cases reply with
    | failed e =>
      exact ⟨0, s₁, fun completed => ⟨_, _, rfl, rfl, .failed (Nat.succ_pos _) _ _ _⟩⟩
    | cut => exact ⟨0, s₁, fun completed => ⟨_, _, rfl, rfl, .cut (Nat.succ_pos _) _⟩⟩
    | done _ =>
      dsimp only
      obtain ⟨reply, s₂⟩ := settle limit step.settle s₁
      cases reply with
      | failed e => exact ⟨0, s₂, fun completed => ⟨_, _, rfl, rfl, .cut (Nat.succ_pos _) _⟩⟩
      | cut => exact ⟨0, s₂, fun completed => ⟨_, _, rfl, rfl, .cut (Nat.succ_pos _) _⟩⟩
      | done _ =>
        obtain ⟨done, s', h⟩ := ih (index + 1) s₂
        obtain ⟨outcome, count, hrun, hcount, hends⟩ := h (index + 1)
        refine ⟨done + 1, s', fun completed => ⟨outcome, count, hrun, ?_, hends.cons step⟩⟩
        rw [hcount, if_neg (Nat.succ_ne_zero done)]
        split <;> omega

/-- Every sequencer runs an errand as a new one does, and counts the steps that are completed if there
are any. -/
lemma runErrand_counts (q : Sequencer) (e : Errand σ) :
    (q.runErrand e).2.2 = (({} : Sequencer).runErrand e).2.2 ∧
    (q.runErrand e).2.1.completed = (if e.done = 0 then q.completed else e.done) ∧
    EndsAfter e.done 0 e.steps (q.runErrand e).1 (q.runErrand e).2.1.completed := by
  obtain ⟨done, s', h⟩ := runFrom_counts e.limit e.steps 0 e.stream
  obtain ⟨outcome, count, hrun, hcount, hends⟩ := h q.completed
  obtain ⟨outcome', count', hrun', hcount', -⟩ := h 0
  have hq : q.runErrand e = (outcome, ⟨count⟩, s') := by
    rw [runErrand, run, hrun]
  have hnew : ({} : Sequencer).runErrand e = (outcome', ⟨count'⟩, s') := by
    rw [runErrand, run, hrun']
  have hdone : e.done = done := by
    rw [Errand.done, hnew]
    dsimp only
    rw [hcount']
    split <;> omega
  rw [hq, hnew, hdone]
  rw [Nat.zero_add] at hcount
  exact ⟨rfl, hcount, hends⟩

/-- The steps of a run are counted unless there are none and something is left over. -/
lemma count_eq_done_iff {done before count : Nat} (h : count = if done = 0 then before else done) :
    count = done ↔ done ≠ 0 ∨ before = 0 := by
  by_cases hd : done = 0 <;> simp [h, hd]

/-- The count after some errands: the number of steps of the last that completed any. -/
lemma completed_after (q : Sequencer) (errands : List (Errand σ)) :
    (q.after errands).completed =
      ((errands.map Errand.done).filter (· ≠ 0)).getLast?.getD q.completed := by
  induction errands generalizing q with
  | nil => rfl
  | cons e errands ih =>
    have hcount := (runErrand_counts q e).2.1
    have hafter : q.after (e :: errands) = (q.runErrand e).2.1.after errands := rfl
    rw [hafter, ih, hcount, List.map_cons]
    by_cases hd : e.done = 0
    · simp [hd]
    · simp [hd, List.getLast?_cons]

/-- **What a sequencer counts when it is used again.** After any errands, the next one goes as it
would with a new sequencer. Its own steps are counted if it completes any, and otherwise the count
stays at the number of steps of the last errand that did. So the answer of a run that succeeds is the
number of its steps exactly if there are any or nothing was counted before, and the count after a run
that fails is the index of the failed step exactly if this is not the first or nothing was counted
before. -/
theorem count_of_reused (before : List (Errand σ)) (e : Errand σ) :
    let q := ({} : Sequencer).after before
    let run := q.runErrand e
    q.completed = ((before.map Errand.done).filter (· ≠ 0)).getLast?.getD 0 ∧
    run.2.2 = (({} : Sequencer).runErrand e).2.2 ∧
    run.2.1.completed = (if e.done = 0 then q.completed else e.done) ∧
    (∀ n, run.1 = .ok n → e.done = e.steps.length ∧ n = run.2.1.completed ∧
      (n = e.steps.length ↔ e.steps ≠ [] ∨ q.completed = 0)) ∧
    (∀ i error captured, run.1 = .failed i error captured → e.done = i ∧ i < e.steps.length ∧
      (run.2.1.completed = i ↔ i ≠ 0 ∨ q.completed = 0)) ∧
    (run.1 = .cut → e.done < e.steps.length) := by
  intro q run
  obtain ⟨hstream, hcount, hends⟩ := runErrand_counts q e
  change EndsAfter e.done 0 e.steps run.1 run.2.1.completed at hends
  refine ⟨completed_after {} before, hstream, hcount, ?_, ?_, ?_⟩
  · intro n hn
    rw [hn] at hends
    cases hends with
    | all hd =>
      have hnil : e.steps = [] ↔ e.done = 0 := by rw [hd, List.length_eq_zero_iff]
      rw [← hd, Ne, hnil]
      exact ⟨rfl, rfl, count_eq_done_iff hcount⟩
  · intro i error captured hi
    have hiff := count_eq_done_iff hcount
    rw [hi] at hends
    generalize hcompleted : run.2.1.completed = completed at hends
    cases hends with
    | failed hd =>
      rw [Nat.zero_add, ← hcompleted]
      exact ⟨rfl, hd, hiff⟩
  · intro hc
    rw [hc] at hends
    cases hends with
    | cut hd => exact hd

/-- **A count can be left over.** After a run that completed a step, a run that fails at its first
step leaves the count at one, and a run without steps answers that it has completed one. -/
theorem count_left_over :
    let first : Errand ScriptedInput := ⟨[.send [0x61] .zero], {}, none⟩
    let failing : Errand ScriptedInput :=
      ⟨[.send [0x61] .zero], { replies := [.fail (.plain .brokenPipe)] }, none⟩
    let idle : Errand ScriptedInput := ⟨[], {}, none⟩
    let q := ({} : Sequencer).after [first]
    (q.runErrand failing).1 = .failed 0 (.plain .brokenPipe) [] ∧
      (q.runErrand failing).2.1.completed = 1 ∧ (q.runErrand idle).1 = .ok 1 := by
  cbv

end Sequencer
end GuestHarness
