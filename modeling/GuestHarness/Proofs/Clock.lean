import GuestHarness.Clock
import Mathlib.Tactic.Common

/-!
Arithmetic of the clock: when a deadline can be set, and what the shorter and the longer of two
spans and the time between two moments are in nanoseconds. A computation that sets deadlines
succeeds if all its parts do.
-/

namespace GuestHarness

/-! ### Successful computations -/

section Except

variable {ε α β : Type} {x : Except ε α} {b : β}

lemma bind_eq_ok_iff {f : α → Except ε β} : x >>= f = .ok b ↔ ∃ a, x = .ok a ∧ f a = .ok b := by
  cases x <;> simp [bind, Except.bind]

lemma map_eq_ok_iff {f : α → β} : f <$> x = .ok b ↔ ∃ a, x = .ok a ∧ f a = b := by
  cases x <;> simp [Functor.map, Except.map]

lemma mapError_eq_ok_iff {ε' : Type} {f : ε → ε'} {a : α} : x.mapError f = .ok a ↔ x = .ok a := by
  cases x <;> simp [Except.mapError]

lemma toOption_eq_some_iff {a : α} : x.toOption = some a ↔ x = .ok a := by
  cases x <;> simp [Except.toOption]

end Except

/-! ### Spans -/

namespace Duration

lemma nanos_min (a b : Duration) : (a.min b).nanos = Min.min a.nanos b.nanos := by
  unfold Duration.min
  split
  · next h => exact (Nat.min_eq_left h).symm
  · next h => exact (Nat.min_eq_right (Nat.le_of_not_le h)).symm

lemma nanos_max (a b : Duration) : (a.max b).nanos = Max.max a.nanos b.nanos := by
  unfold Duration.max
  split
  · next h => exact (Nat.max_eq_right h).symm
  · next h => exact (Nat.max_eq_left (Nat.le_of_not_le h)).symm

end Duration

/-! ### Deadlines -/

namespace Clock

lemma deadline_eq_ok_iff {now t : Instant} {d : Duration} :
    deadline now d = .ok t ↔ now + d.nanos < limit ∧ t = now + d.nanos := by
  unfold deadline
  split
  · next h => simp [h, eq_comm]
  · next h => simp [h]

lemma deadline_of_lt {now : Instant} {d : Duration} (h : now + d.nanos < limit) :
    deadline now d = .ok (now + d.nanos) :=
  deadline_eq_ok_iff.2 ⟨h, rfl⟩

lemma nanos_elapsed_le (start now : Instant) : (elapsed start now).nanos ≤ now - start := by
  have h := Nat.mod_le ((now - start) / 1000000000) 0x10000000000000000
  simp only [elapsed, Duration.ofParts]
  omega

end Clock
end GuestHarness
