import GuestHarness.Search
import Mathlib.Tactic.Common

/-!
Looking for a pattern is looking for an infix, and what follows its first occurrence follows the
leftmost of the places where it stands.
-/

namespace GuestHarness

variable {α : Type}

/-! ### Places -/

/-- The pattern stands at a position of the sequence. The empty pattern stands at each, also at the
end. -/
def StandsAt (pattern : List α) (i : Nat) (data : List α) : Prop :=
  i ≤ data.length ∧ pattern <+: data.drop i

section StandsAt

variable {pattern data : List α} {a : α} {i : Nat}

lemma standsAt_zero : StandsAt pattern 0 data ↔ pattern <+: data := by simp [StandsAt]

lemma standsAt_succ_cons : StandsAt pattern (i + 1) (a :: data) ↔ StandsAt pattern i data := by
  simp [StandsAt]

lemma standsAt_append {before : List α} :
    StandsAt pattern (before.length + i) (before ++ data) ↔ StandsAt pattern i data := by
  simp [StandsAt]

lemma StandsAt.end_le (h : StandsAt pattern i data) : i + pattern.length ≤ data.length := by
  have hle := h.2.length_le
  rw [List.length_drop] at hle
  have := h.1
  omega

end StandsAt

/-! ### Occurrences -/

variable [DecidableEq α]

theorem occurs_iff {pattern data : List α} : occurs pattern data ↔ pattern <:+: data := by
  induction data with
  | nil => simp [occurs, List.isEmpty_iff]
  | cons a rest ih =>
    rw [occurs, Bool.or_eq_true, ih, List.isPrefixOf_iff_prefix, ← List.infix_cons_iff]

/-- The first occurrence is at the leftmost place where the pattern stands. -/
lemma afterFirst_cases (pattern data : List α) :
    (∃ i, afterFirst pattern data = some (data.drop (i + pattern.length)) ∧
      StandsAt pattern i data ∧ ∀ j, StandsAt pattern j data → i ≤ j) ∨
    afterFirst pattern data = none ∧ ∀ j, ¬ StandsAt pattern j data := by
  induction data with
  | nil =>
    cases pattern with
    | nil => exact .inl ⟨0, rfl, standsAt_zero.2 (List.prefix_refl _), fun j _ => Nat.zero_le j⟩
    | cons a rest => exact .inr ⟨rfl, fun j h => by simpa [StandsAt] using h.2⟩
  | cons a rest ih =>
    rw [afterFirst]
    by_cases hp : pattern <+: a :: rest
    · rw [if_pos (List.isPrefixOf_iff_prefix.2 hp)]
      exact .inl ⟨0, by rw [Nat.zero_add], standsAt_zero.2 hp, fun j _ => Nat.zero_le j⟩
    · rw [if_neg fun h => hp (List.isPrefixOf_iff_prefix.1 h)]
      obtain ⟨i, hafter, hi, hfirst⟩ | ⟨hafter, hno⟩ := ih
      · refine .inl ⟨i + 1, ?_, standsAt_succ_cons.2 hi, fun j hj => ?_⟩
        · rw [hafter, Nat.add_right_comm, List.drop_succ_cons]
        · cases j with
          | zero => exact absurd (standsAt_zero.1 hj) hp
          | succ j => exact Nat.succ_le_succ (hfirst j (standsAt_succ_cons.1 hj))
      · refine .inr ⟨hafter, fun j hj => ?_⟩
        cases j with
        | zero => exact hp (standsAt_zero.1 hj)
        | succ j => exact hno j (standsAt_succ_cons.1 hj)

end GuestHarness
