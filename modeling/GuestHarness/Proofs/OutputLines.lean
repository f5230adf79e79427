import GuestHarness.OutputLines
import GuestHarness.Proofs.Search

/-!
Patterns that are looked for one after the other. The search takes for each pattern the first place
that is left and never goes back on a choice. It misses nothing: what is left after the first place
where a pattern stands holds whatever is left after a later one, so patterns that can be found from
some other place can be found from the first.
-/

namespace GuestHarness.OutputLines

/-- Places for patterns in lines, a line and a position in it for each of them: the pattern stands
there, on the line of the pattern before it or a later one, and after its end if the line is the
same. -/
structure Placed (lines patterns : List (List Char)) (line position : Nat → Nat) : Prop where
  stands : ∀ k p, patterns[k]? = some p →
    ∃ l, lines[line k]? = some l ∧ StandsAt p (position k) l
  ordered : ∀ k, k + 1 < patterns.length → line k ≤ line (k + 1)
  apart : ∀ k p, patterns[k]? = some p → k + 1 < patterns.length → line k = line (k + 1) →
    position k + p.length ≤ position (k + 1)

/-- The patterns fit into lines: each of them stands somewhere, and the patterns after it fit into
what is left from its end on. -/
def Fit : List (List Char) → List (List Char) → Prop
  | [], _ => True
  | p :: ps, lines => ∃ skipped l later i, lines = skipped ++ l :: later ∧ StandsAt p i l ∧
      Fit ps (l.drop (i + p.length) :: later)

section Fit

variable {p l l' : List Char} {ps lines later : List (List Char)} {line position : Nat → Nat}

/-! ### More room -/

lemma Fit.of_standsAt {i : Nat} (hi : StandsAt p i l)
    (h : Fit ps (l.drop (i + p.length) :: later)) : Fit (p :: ps) (l.drop i :: later) :=
  ⟨[], _, _, 0, rfl, standsAt_zero.2 hi.2, by rwa [Nat.zero_add, List.drop_drop]⟩

lemma Fit.append (h : Fit ps lines) (before : List (List Char)) : Fit ps (before ++ lines) := by
  cases ps with
  | nil => trivial
  | cons p ps =>
    obtain ⟨skipped, l, later, i, rfl, hi, hrest⟩ := h
    exact ⟨before ++ skipped, l, later, i, (List.append_assoc ..).symm, hi, hrest⟩

/-- The more is left of a line, the more fits. -/
lemma Fit.of_suffix (hs : l' <:+ l) (h : Fit ps (l' :: later)) : Fit ps (l :: later) := by
  cases ps with
  | nil => trivial
  | cons p ps =>
    obtain ⟨before, rfl⟩ := hs
    obtain ⟨skipped, m, later', i, heq, hi, hrest⟩ := h
    obtain _ | ⟨_, skipped⟩ := skipped
    · obtain ⟨rfl, rfl⟩ := List.cons.inj heq
      refine ⟨[], before ++ l', later, before.length + i, rfl, standsAt_append.2 hi, ?_⟩
      rwa [Nat.add_assoc, List.drop_append, List.drop_eq_nil_of_le (by omega), List.nil_append,
        Nat.add_sub_cancel_left]
    · obtain ⟨rfl, rfl⟩ := List.cons.inj heq
      exact ⟨(before ++ l') :: skipped, m, later', i, rfl, hi, hrest⟩

/-! ### The search -/

/-- The first place is as good as any. -/
lemma fit_cons_of_some {rest : List Char} (h : afterFirst p l = some rest) :
    Fit (p :: ps) (l :: later) ↔ Fit ps (rest :: later) := by
  obtain ⟨i, hafter, hi, hfirst⟩ | ⟨hafter, -⟩ := afterFirst_cases p l
  swap
  · rw [hafter] at h
    cases h
  obtain rfl : l.drop (i + p.length) = rest := Option.some.inj (hafter.symm.trans h)
  constructor
  · rintro ⟨skipped, l', later', j, heq, hj, hrest⟩
    obtain _ | ⟨_, skipped⟩ := skipped
    · obtain ⟨rfl, rfl⟩ := List.cons.inj heq
      exact hrest.of_suffix (List.drop_suffix_drop_left l (Nat.add_le_add_right (hfirst j hj) _))
    · -- the pattern was put on a later line; all that follows has room after the first place too
      obtain ⟨rfl, rfl⟩ := List.cons.inj heq
      exact (hrest.of_suffix (List.drop_suffix _ _)).append (_ :: skipped)
  · exact fun hrest => ⟨[], l, later, i, rfl, hi, hrest⟩

lemma fit_cons_of_none (h : afterFirst p l = none) :
    Fit (p :: ps) (l :: later) ↔ Fit (p :: ps) later := by
  obtain ⟨i, hafter, -⟩ | ⟨-, hno⟩ := afterFirst_cases p l
  · rw [hafter] at h
    cases h
  constructor
  · rintro ⟨skipped, l', later', j, heq, hj, hrest⟩
    obtain _ | ⟨_, skipped⟩ := skipped
    · obtain ⟨rfl, rfl⟩ := List.cons.inj heq
      exact absurd hj (hno j)
    · obtain ⟨rfl, rfl⟩ := List.cons.inj heq
      exact ⟨skipped, l', later', j, rfl, hj, hrest⟩
  · exact fun hrest => hrest.append [l]

lemma fit_consume (ps : List (List Char)) (l : List Char) :
    Fit ps (l :: later) ↔ Fit (consume ps l) later := by
  fun_induction consume ps l with
  | case1 l => simp [Fit]
  | case2 p ps l rest h ih => rw [fit_cons_of_some h, ih]
  | case3 p ps l h => exact fit_cons_of_none h

/-- **The search finds the patterns exactly if they fit.** -/
lemma findsAll_iff_fit (ps lines : List (List Char)) : findsAll ps lines ↔ Fit ps lines := by
  fun_induction findsAll ps lines with
  | case1 lines => simp [Fit]
  | case2 p ps => simp [Fit]
  | case3 ps line rest hne ih => rw [ih, fit_consume]

/-! ### Places -/

lemma Placed.tail (h : Placed lines (p :: ps) line position) :
    Placed lines ps (fun k => line (k + 1)) (fun k => position (k + 1)) where
  stands k q hq := h.stands (k + 1) q hq
  ordered k hk := h.ordered (k + 1) (Nat.succ_lt_succ hk)
  apart k q hq hk := h.apart (k + 1) q hq (Nat.succ_lt_succ hk)

lemma exists_drop_eq {n j : Nat} (hl : lines[j]? = some l) (hn : n ≤ j) :
    ∃ skipped, lines.drop n = skipped ++ l :: lines.drop (j + 1) := by
  obtain ⟨hj, rfl⟩ := List.getElem?_eq_some_iff.1 hl
  refine ⟨(lines.drop n).take (j - n), ?_⟩
  have hdrop : (lines.drop n).drop (j - n) = lines.drop j := by
    rw [List.drop_drop, Nat.add_sub_cancel' hn]
  rw [← List.drop_eq_getElem_cons hj, ← hdrop, List.take_append_drop]

/-- The patterns after the first fit into what is left from its end on. -/
lemma Placed.fit_after (h : Placed lines (p :: ps) line position) (hl : lines[line 0]? = some l) :
    Fit ps (l.drop (position 0 + p.length) :: lines.drop (line 0 + 1)) := by
  induction ps generalizing p l line position with
  | nil => trivial
  | cons q ps ih =>
    obtain ⟨m, hm, hq⟩ := h.stands 1 q rfl
    have hnext : Fit (q :: ps) (m.drop (position 1) :: lines.drop (line 1 + 1)) :=
      .of_standsAt hq (ih h.tail hm)
    obtain hlt | heq := Nat.lt_or_eq_of_le (h.ordered 0 (by simp))
    · obtain ⟨skipped, hskipped⟩ := exists_drop_eq hm hlt
      rw [hskipped]
      exact (hnext.of_suffix (List.drop_suffix _ _)).append (_ :: skipped)
    · rw [Nat.zero_add] at heq
      obtain rfl : l = m := Option.some.inj (hl.symm.trans (heq ▸ hm))
      rw [heq]
      exact hnext.of_suffix (List.drop_suffix_drop_left l (h.apart 0 p rfl (by simp) heq))

lemma Placed.fit (h : Placed lines ps line position) : Fit ps lines := by
  cases ps with
  | nil => trivial
  | cons p ps =>
    obtain ⟨l, hl, hp⟩ := h.stands 0 p rfl
    obtain ⟨skipped, hskipped⟩ := exists_drop_eq hl (Nat.zero_le _)
    rw [List.drop_zero] at hskipped
    rw [hskipped]
    exact ((Fit.of_standsAt hp (h.fit_after hl)).of_suffix (List.drop_suffix _ _)).append skipped

/-- A sequence with one more number in front. -/
def inFront (n : Nat) (rest : Nat → Nat) (k : Nat) : Nat := if k = 0 then n else rest (k - 1)

@[simp] lemma inFront_zero (n : Nat) (rest : Nat → Nat) : inFront n rest 0 = n := rfl

@[simp] lemma inFront_succ (n : Nat) (rest : Nat → Nat) (k : Nat) :
    inFront n rest (k + 1) = rest k := rfl

/-- Patterns that fit have places. -/
lemma Fit.exists_placed (h : Fit ps lines) : ∃ line position, Placed lines ps line position := by
  induction ps generalizing lines with
  | nil => exact ⟨fun _ => 0, fun _ => 0, by simp, by simp, by simp⟩
  | cons p ps ih =>
    obtain ⟨skipped, l, later, i, rfl, hi, hrest⟩ := h
    obtain ⟨line, position, hplaced⟩ := ih hrest
    -- the places of the rest, counted from the beginning of the lines and of the line of `p`
    refine ⟨inFront skipped.length fun k => skipped.length + line k,
      inFront i fun k => if line k = 0 then i + p.length + position k else position k, ?_, ?_, ?_⟩
    · rintro (_ | k) q hq
      · obtain rfl : p = q := Option.some.inj hq
        exact ⟨l, by simp, hi⟩
      · obtain ⟨m, hm, hq⟩ := hplaced.stands k q hq
        rw [inFront_succ, inFront_succ]
        cases hk : line k with
        | zero =>
          rw [hk] at hm
          obtain rfl : l.drop (i + p.length) = m := Option.some.inj hm
          have hstands : StandsAt q ((l.take (i + p.length)).length + position k)
              (l.take (i + p.length) ++ l.drop (i + p.length)) := standsAt_append.2 hq
          rw [List.take_append_drop, List.length_take_of_le hi.end_le] at hstands
          exact ⟨l, by simp, by simpa using hstands⟩
        | succ n =>
          rw [hk] at hm
          refine ⟨m, ?_, by simpa using hq⟩
          rw [List.getElem?_append_right (by omega), Nat.add_sub_cancel_left]
          exact hm
    · rintro (_ | k) hk
      · exact Nat.le_add_right _ _
      · exact Nat.add_le_add_left (hplaced.ordered k (Nat.lt_of_succ_lt_succ hk)) _
    · rintro (_ | k) q hq hk heq
      · obtain rfl : p = q := Option.some.inj hq
        have h0 : line 0 = 0 := by simpa using heq
        simp [h0]
      · have heq' : line k = line (k + 1) := by simpa using heq
        have := hplaced.apart k q hq (Nat.lt_of_succ_lt_succ hk) heq'
        rw [inFront_succ, inFront_succ, ← heq']
        split <;> omega

end Fit

/-- **The search misses nothing.** Patterns are found one after the other in the lines of some output
exactly if there are none, or if each of them can be given a line and a position where it stands so
that the lines do not decrease along the patterns and two patterns that follow each other on one line
keep their order and do not overlap. -/
theorem containsSequence_iff (output : Bytes) (patterns : List (List Char)) :
    (ofBytes output).containsSequence patterns ↔
      patterns = [] ∨ ∃ line position, Placed (ofBytes output).lines patterns line position := by
  rw [containsSequence, findsAll_iff_fit]
  constructor
  · exact fun h => .inr h.exists_placed
  · rintro (rfl | ⟨line, position, h⟩)
    · trivial
    · exact h.fit

/-- The first of two equal patterns takes the place that leaves room for the second. -/
example : (ofBytes (Text.bytes "aaa\nb")).containsSequence [['a', 'a'], ['a'], [], ['b']] := by decide

end GuestHarness.OutputLines
