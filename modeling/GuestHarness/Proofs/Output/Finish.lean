import GuestHarness.Output.Pump
import Mathlib.Tactic.Common

/-!
The end of a pump. A reader that is cancelled has ended by then whatever its stream does, and a
sink that does not come back is no longer waited for; so a pump is finished by its deadline.
-/

namespace GuestHarness.Output

/-! ### Readers -/

/-- A reader that is cancelled at a moment has ended by then. -/
lemma getLast?_cancelAt (m : Instant) (t : Trace) :
    ∃ e, (cancelAt m t).getLast? = some e ∧ e.1 ≤ m := by
  induction t with
  | nil => exact ⟨_, rfl, Nat.le_refl m⟩
  | cons e rest ih =>
    obtain ⟨moment, event⟩ := e
    rw [cancelAt]
    split
    · next hlt =>
      split
      · exact ⟨_, rfl, Nat.le_of_lt hlt⟩
      · obtain ⟨last, hl, hm⟩ := ih
        exact ⟨last, by rw [List.getLast?_cons, hl]; rfl, hm⟩
    · exact ⟨_, rfl, Nat.le_refl m⟩

lemma endOf_cancelAt_le (default m : Instant) (t : Trace) : endOf default (cancelAt m t) ≤ m := by
  obtain ⟨e, he, hm⟩ := getLast?_cancelAt m t
  simpa [endOf, he] using hm

lemma joinMoments_le (m : Instant) (traces : List Trace) :
    ∀ now, now ≤ m → ∀ j ∈ joinMoments now (traces.map (cancelAt m)), j.1 ≤ m := by
  induction traces with
  | nil => simp [joinMoments]
  | cons t rest ih =>
    intro now hnow j hj
    have hle : max now (endOf now (cancelAt m t)) ≤ m :=
      Nat.max_le.2 ⟨hnow, endOf_cancelAt_le now m t⟩
    simp only [List.map_cons, joinMoments, List.mem_cons] at hj
    obtain rfl | hj := hj
    · exact hle
    · exact ih _ hle j hj

/-! ### The whole pump -/

lemma waitedFor_le (m : Instant) (w : SinkWorker) : waitedFor m w ≤ m := by
  unfold waitedFor
  split
  · exact Nat.le_refl m
  · exact Nat.min_le_left _ _

/-- **A pump is finished by its deadline**, whatever its streams and its sinks do. -/
theorem finishBy_moment_le (buffer : OutputBuffer) (traces : List Trace) (worker : SinkWorker)
    {called deadline : Instant} (wallClock : Instant → Timestamp) (h : called ≤ deadline) :
    (finishBy buffer traces worker called deadline wallClock).moment ≤ deadline := by
  have hj : (((joinMoments called (traces.map (cancelAt deadline))).getLast?.map (·.1)).getD
      called) ≤ deadline := by
    cases hl : (joinMoments called (traces.map (cancelAt deadline))).getLast? with
    | none => exact h
    | some j => exact joinMoments_le deadline traces called h j (List.mem_of_getLast? hl)
  unfold finishBy
  dsimp only
  split
  · exact hj
  · exact Nat.max_le.2 ⟨hj, waitedFor_le _ _⟩

end GuestHarness.Output
