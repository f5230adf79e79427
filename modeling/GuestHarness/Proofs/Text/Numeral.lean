import GuestHarness.Text.Blank
import GuestHarness.Text.Digits
import Mathlib.Data.List.DropRight
import Mathlib.Tactic.Common

/-!
Numbers in a text. A text has one form without the blanks around it, which is found by dropping blanks
at both ends. A number is read exactly if it is written in decimal digits, with a plus sign in front of
them or not, and is below the limit; however many zeros it begins with, it is read as one number.
-/

namespace GuestHarness.Text

/-! ### Blanks around a text -/

/-- A text without the blanks around it: it neither begins nor ends with one. -/
structure Trimmed (cs core : List Char) : Prop where
  around : ∃ front back, cs = front ++ core ++ back ∧ (∀ c ∈ front, isBlank c = true) ∧
    ∀ c ∈ back, isBlank c = true
  head : ∀ c ∈ core.head?, isBlank c = false
  last : ∀ c ∈ core.getLast?, isBlank c = false

section Trimmed

variable {cs core front back : List Char}

lemma trimStart_eq_self (h : ∀ c ∈ cs.head?, isBlank c = false) : trimStart cs = cs := by
  cases cs with
  | nil => rfl
  | cons c cs => rw [trimStart, List.dropWhile_cons, h c rfl]; rfl

lemma trimEnd_eq_self (h : ∀ c ∈ cs.getLast?, isBlank c = false) : trimEnd cs = cs := by
  have hstart : trimStart cs.reverse = cs.reverse := trimStart_eq_self (by simpa using h)
  rw [trimEnd, ← trimStart, hstart, List.reverse_reverse]

lemma trimEnd_append (h : ∀ c ∈ back, isBlank c = true) (cs : List Char) :
    trimEnd (cs ++ back) = trimEnd cs := by
  have hback : ∀ c ∈ back.reverse, isBlank c = true := by simpa using h
  rw [trimEnd, List.reverse_append, List.dropWhile_append_of_pos hback, trimEnd]

/-- Without the blanks at its start, a text begins with no blank. -/
lemma head_trimStart (cs : List Char) : ∀ c ∈ (trimStart cs).head?, isBlank c = false := by
  intro c hc
  have h := List.head?_dropWhile_not isBlank cs
  rw [← trimStart, hc] at h
  exact h

lemma trimmed_trim (cs : List Char) : Trimmed cs (trim cs) where
  around := by
    refine ⟨cs.takeWhile isBlank, (trimStart cs).rtakeWhile isBlank, ?_,
      fun c => List.mem_takeWhile_imp, fun c => List.mem_rtakeWhile_imp⟩
    have hend : trim cs ++ (trimStart cs).rtakeWhile isBlank = trimStart cs :=
      List.rdropWhile_append_rtakeWhile
    rw [List.append_assoc, hend]
    exact List.takeWhile_append_dropWhile.symm
  head := by
    intro c hc
    obtain ⟨back, hback⟩ : trim cs <+: trimStart cs := List.rdropWhile_prefix _ _
    refine head_trimStart cs c ?_
    rw [← hback, List.head?_append, hc]
    rfl
  last := by
    intro c hc
    rw [trim, trimEnd, List.getLast?_reverse] at hc
    exact head_trimStart _ c hc

lemma Trimmed.eq_trim (h : Trimmed cs core) : core = trim cs := by
  obtain ⟨front, back, rfl, hfront, hback⟩ := h.around
  rw [trim, trimStart, List.append_assoc, List.dropWhile_append_of_pos hfront, ← trimStart]
  cases hcore : core with
  | nil =>
    have hblank : trimStart back = [] := List.dropWhile_eq_nil_iff.2 hback
    rw [List.nil_append, hblank]
    rfl
  | cons c rest =>
    rw [← hcore]
    have hhead : ∀ d ∈ (core ++ back).head?, isBlank d = false := by
      simpa [hcore] using h.head
    rw [trimStart_eq_self hhead, trimEnd_append hback, trimEnd_eq_self h.last]

/-- A text without any blanks. -/
lemma trim_eq_self (h : ∀ c ∈ cs, isBlank c = false) : trim cs = cs := by
  have htrimmed : Trimmed cs cs :=
    ⟨⟨[], [], by simp⟩, fun c hc => h c (List.mem_of_mem_head? hc),
      fun c hc => h c (List.mem_of_mem_getLast? hc)⟩
  exact htrimmed.eq_trim.symm

end Trimmed

/-! ### Numbers -/

/-- The text is a number: decimal digits, with a plus sign in front of them or not. -/
def IsNumeral (n : Nat) (cs : List Char) : Prop :=
  ∃ digits, (cs = digits ∨ cs = '+' :: digits) ∧ digits ≠ [] ∧ (∀ c ∈ digits, c.isDigit = true) ∧
    Nat.ofDigitChars 10 digits 0 = n

section IsNumeral

variable {cs : List Char} {n m limit : Nat} {c : Char}

/-- What is written for a number is this number. -/
lemma isNumeral_toDigits (n : Nat) : IsNumeral n (Nat.toDigits 10 n) :=
  ⟨_, .inl rfl, Nat.toDigits_ne_nil,
    fun _ hc => Nat.isDigit_of_mem_toDigits (by decide) (by decide) hc,
    Nat.ofDigitChars_toDigits (b := 10) (by decide) (by decide)⟩

lemma IsNumeral.mem (h : IsNumeral n cs) (hc : c ∈ cs) : c = '+' ∨ c.isDigit = true := by
  obtain ⟨digits, rfl | rfl, -, hdigits, -⟩ := h
  · exact .inr (hdigits c hc)
  · exact (List.mem_cons.1 hc).imp_right (hdigits c)

lemma isBlank_of_isDigit (h : c.isDigit = true) : isBlank c = false := by
  have hle : 48 ≤ c.toNat ∧ c.toNat ≤ 57 := by
    simpa [Char.isDigit, UInt32.le_iff_toNat_le] using h
  simp only [isBlank, Bool.or_eq_false_iff, Bool.and_eq_false_iff, decide_eq_false_iff_not]
  omega

lemma IsNumeral.isBlank_eq_false (h : IsNumeral n cs) (hc : c ∈ cs) : isBlank c = false := by
  obtain rfl | hdigit := h.mem hc
  · decide
  · exact isBlank_of_isDigit hdigit

lemma isDigits_iff : isDigits cs = true ↔ cs ≠ [] ∧ ∀ c ∈ cs, c.isDigit = true := by
  simp [isDigits]

/-- A number is read as itself, if it is below the limit. -/
lemma IsNumeral.parseBelow?_eq (h : IsNumeral n cs) (limit : Nat) :
    parseBelow? limit cs = if n < limit then some n else none := by
  obtain ⟨digits, hcs, hne, hdigits, rfl⟩ := h
  have hd : isDigits digits = true := isDigits_iff.2 ⟨hne, hdigits⟩
  have hvalue : digitsValue digits = Nat.ofDigitChars 10 digits 0 := rfl
  have hplus : ∀ rest, digits ≠ '+' :: rest := fun rest heq =>
    absurd (hdigits '+' (by simp [heq])) (by decide)
  obtain rfl | rfl := hcs
  · unfold parseBelow?
    split
    · next rest => exact absurd rfl (hplus rest)
    · simp [hd, hvalue]
  · simp [parseBelow?, hd, hvalue]

/-- Nothing but numbers below the limit is read. -/
lemma isNumeral_of_parseBelow? (h : parseBelow? limit cs = some n) : IsNumeral n cs ∧ n < limit := by
  have hdigits : ∀ ds, (if isDigits ds && digitsValue ds < limit then some (digitsValue ds)
      else none) = some n →
      (ds ≠ [] ∧ (∀ c ∈ ds, c.isDigit = true) ∧ digitsValue ds = n) ∧ n < limit := fun ds hds => by
    simp only [Option.ite_none_right_eq_some, Bool.and_eq_true, decide_eq_true_eq,
      Option.some.injEq] at hds
    obtain ⟨⟨hd, hlt⟩, rfl⟩ := hds
    exact ⟨⟨(isDigits_iff.1 hd).1, (isDigits_iff.1 hd).2, rfl⟩, hlt⟩
  unfold parseBelow? at h
  split at h
  · next rest => exact ⟨⟨rest, .inr rfl, (hdigits rest h).1⟩, (hdigits rest h).2⟩
  · exact ⟨⟨cs, .inl rfl, (hdigits cs h).1⟩, (hdigits cs h).2⟩

lemma IsNumeral.unique (h : IsNumeral n cs) (h' : IsNumeral m cs) : n = m := by
  have heq := (h.parseBelow?_eq (n + m + 1)).symm.trans (h'.parseBelow?_eq (n + m + 1))
  rw [if_pos (by omega), if_pos (by omega)] at heq
  exact Option.some.inj heq

/-- What is written for a number tells the number. -/
lemma decimal_injective : Function.Injective decimal := by
  intro n m h
  have hm : IsNumeral m (Nat.toDigits 10 n) := String.ofList_injective h ▸ isNumeral_toDigits m
  exact (isNumeral_toDigits n).unique hm

end IsNumeral

/-! ### Endings -/

lemma dropSuffix?_append (ending cs : List Char) :
    dropSuffix? ending (cs ++ ending) = some cs := by
  have hsuffix : ending.isSuffixOf (cs ++ ending) = true :=
    List.isSuffixOf_iff_suffix.2 (List.suffix_append cs ending)
  rw [dropSuffix?, if_pos hsuffix]
  simp

lemma dropSuffix?_eq_none_iff {ending cs : List Char} :
    dropSuffix? ending cs = none ↔ ¬ ending <:+ cs := by
  rw [dropSuffix?, ite_eq_right_iff, List.isSuffixOf_iff_suffix]
  simp

end GuestHarness.Text
