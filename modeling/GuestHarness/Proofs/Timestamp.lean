import GuestHarness.Proofs.Text.Numeral
import GuestHarness.Timestamp
import Mathlib.Tactic.Common

/-!
Points in time as texts. A point in time on the calendar is written in one form, whose parts have
fixed widths except for the year, and each reader of a part takes what was written for it and leaves
the rest to the next one. So what is written is read back as it was.
-/

namespace GuestHarness

/-! ### Padded numbers -/

namespace Text

/-- The digits of a number, filled up with zeros in front. -/
def padded (width n : Nat) : List Char :=
  List.replicate (width - (Nat.toDigits 10 n).length) '0' ++ Nat.toDigits 10 n

variable {width n : Nat} {c : Char}

lemma toList_decimalPadded (width n : Nat) : (decimalPadded width n).toList = padded width n :=
  String.toList_ofList

lemma isDigit_of_mem_padded (h : c ∈ padded width n) : c.isDigit = true := by
  rcases List.mem_append.1 h with h | h
  · rw [List.eq_of_mem_replicate h]
    rfl
  · exact Nat.isDigit_of_mem_toDigits (by decide) (by decide) h

lemma digitsValue_padded (width n : Nat) : digitsValue (padded width n) = n := by
  have hvalue : ∀ cs, digitsValue cs = Nat.ofDigitChars 10 cs 0 := fun _ => rfl
  rw [hvalue, padded, Nat.ofDigitChars_append, Nat.ofDigitChars_replicate_zero, Nat.mul_zero,
    Nat.ofDigitChars_toDigits (by decide) (by decide)]

lemma length_padded (hpos : 0 < width) (h : n < Nat.pow 10 width) :
    (padded width n).length = width := by
  have hle : (Nat.toDigits 10 n).length ≤ width :=
    (Nat.length_toDigits_le_iff (by decide) hpos).2 h
  rw [padded, List.length_append, List.length_replicate]
  omega

lemma padded_ne_nil (width n : Nat) : padded width n ≠ [] := by
  intro h
  exact Nat.toDigits_ne_nil (List.append_eq_nil_iff.1 h).2

/-- A text that begins with a number begins with a digit. -/
lemma isDigit_of_mem_head {rest : List Char} (h : c ∈ (padded width n ++ rest).head?) :
    c.isDigit = true := by
  obtain ⟨d, ds, hcons⟩ := List.exists_cons_of_ne_nil (padded_ne_nil width n)
  rw [hcons] at h
  obtain rfl : d = c := Option.some.inj h
  exact isDigit_of_mem_padded (hcons ▸ List.mem_cons_self)

end Text

namespace Timestamp

open Text

/-! ### Points in time on the calendar -/

/-- The point in time is on the calendar. -/
structure IsValid (t : Timestamp) : Prop where
  year : firstYear ≤ t.year ∧ t.year ≤ lastYear
  month : 1 ≤ t.month ∧ t.month ≤ 12
  day : 1 ≤ t.day ∧ t.day ≤ daysInMonth t.year t.month
  hour : t.hour ≤ 23
  minute : t.minute ≤ 59
  second : t.second ≤ 60
  nanos : t.nanos < 1000000000

lemma daysInMonth_le (year : Int) (month : Nat) : daysInMonth year month ≤ 31 := by
  unfold daysInMonth
  split
  · split <;> decide
  · split <;> decide

/-- In universal time a point in time is its own local time. -/
lemma fromLocal_zero {t : Timestamp} (hhour : t.hour ≤ 23) (hminute : t.minute ≤ 59) :
    fromLocal t 0 = t := by
  obtain ⟨year, month, day, hour, minute, second, nanos⟩ := t
  dsimp only at hhour hminute
  have hday : ¬ ((hour : Int) * 60 + minute - 0 < 0) ∧
      ¬ (1440 ≤ (hour : Int) * 60 + minute - 0) := by
    omega
  have hofDay : (((hour : Int) * 60 + minute - 0) % 1440).toNat = hour * 60 + minute := by omega
  simp only [fromLocal, hday.1, hday.2, if_false, hofDay, Timestamp.mk.injEq, true_and, and_true]
  omega

/-! ### Readers of parts -/

section Readers

variable {α β : Type} {a : α} {cs cs' rest : List Char} {n : Nat}

/-- What comes after a part is read from what it left. -/
lemma run_bind_ok {x : Reader α} (h : x.run cs = .ok (a, cs')) (f : α → Reader β) :
    (x >>= f).run cs = (f a).run cs' := by
  rw [StateT.run_bind, h]
  rfl

lemma run_get (cs : List Char) : (get : Reader (List Char)).run cs = .ok (cs, cs) := rfl

lemma run_set (cs cs' : List Char) : (set cs' : Reader Unit).run cs = .ok ((), cs') := rfl

lemma run_skipBlanks (h : ∀ c ∈ cs.head?, isBlank c = false) :
    skipBlanks.run cs = .ok ((), cs) := by
  have htrim := trimStart_eq_self h
  change Except.ok ((), trimStart cs) = _
  rw [htrim]

/-- The digits of a number are read up to the most that there may be, or up to something else. -/
lemma run_readNumber {most width : Nat} (hlen : (padded width n).length ≤ most)
    (hrest : (padded width n).length = most ∨ ∀ c ∈ rest.head?, c.isDigit = false) :
    (readNumber most).run (padded width n ++ rest) = .ok (n, rest) := by
  have hdigits : ∀ c ∈ padded width n, c.isDigit = true := fun c => isDigit_of_mem_padded
  have htake : ((padded width n ++ rest).take most).takeWhile Char.isDigit = padded width n := by
    rw [List.take_append, List.take_of_length_le hlen, List.takeWhile_append_of_pos hdigits]
    have hstop : (rest.take (most - (padded width n).length)).takeWhile Char.isDigit = [] := by
      rcases hrest with hfull | hother
      · simp [hfull]
      · cases rest with
        | nil => simp
        | cons c rest =>
          cases most - (padded width n).length with
          | zero => rfl
          | succ k => simp [hother c rfl]
    rw [hstop, List.append_nil]
  obtain ⟨c, ds, hcons⟩ := List.exists_cons_of_ne_nil (padded_ne_nil width n)
  have hvalue := digitsValue_padded width n
  unfold readNumber
  simp only [StateT.run_bind, StateT.run_get, pure_bind, htake]
  rw [hcons] at hvalue ⊢
  simp [hvalue]
  rfl

/-- A number of a fixed width within its bounds. -/
lemma run_readWithin {width low high : Nat} (hpos : 0 < width) (hwidth : n < Nat.pow 10 width)
    (hlow : low ≤ n) (hhigh : n ≤ high) :
    (readWithin width low high).run (padded width n ++ rest) = .ok (n, rest) := by
  have hlen := length_padded hpos hwidth
  have hblank : ∀ c ∈ (padded width n ++ rest).head?, isBlank c = false :=
    fun c hc => isBlank_of_isDigit (isDigit_of_mem_head hc)
  unfold readWithin
  rw [run_bind_ok (run_skipBlanks hblank), run_bind_ok (run_readNumber hlen.le (.inl hlen)),
    if_pos ⟨hlow, hhigh⟩]
  rfl

lemma run_readSeparator {c : Char} (h : isBlank c = false) :
    (readSeparator c).run (c :: rest) = .ok ((), rest) := by
  unfold readSeparator
  rw [run_bind_ok (run_skipBlanks (by simpa using h)), StateT.run_bind, StateT.run_get]
  simp
  rfl

/-- A year is read up to the hyphen behind it. -/
lemma run_readYear {year : Int} (hfirst : firstYear ≤ year) (hlast : year ≤ lastYear) :
    readYear.run ((renderYear year).toList ++ '-' :: rest) = .ok (year, '-' :: rest) := by
  have hsigned : ∀ n : Nat, (readNumber (padded 4 n ++ '-' :: rest).length).run
      (padded 4 n ++ '-' :: rest) = .ok (n, '-' :: rest) := by
    intro n
    apply run_readNumber
    · simp
    · right
      rintro c ⟨⟩
      rfl
  have hbounds : -262143 ≤ year ∧ year ≤ 262142 := ⟨hfirst, hlast⟩
  unfold readYear
  by_cases hfour : 0 ≤ year ∧ year ≤ 9999
  · have htext : (renderYear year).toList = padded 4 year.toNat := by
      rw [renderYear, if_pos hfour, toList_decimalPadded]
    have hwidth : year.toNat < Nat.pow 10 4 := by
      have hpow : Nat.pow 10 4 = 10000 := rfl
      omega
    have hlen := length_padded (by decide) hwidth
    have hnumber : (readNumber 4).run (padded 4 year.toNat ++ '-' :: rest) =
        .ok (year.toNat, '-' :: rest) := run_readNumber hlen.le (.inl hlen)
    have hdigit : ∀ c ∈ (padded 4 year.toNat ++ '-' :: rest).head?, c.isDigit = true :=
      fun c => isDigit_of_mem_head
    rw [htext, run_bind_ok (run_skipBlanks fun c hc => isBlank_of_isDigit (hdigit c hc)),
      run_bind_ok (run_get _)]
    split
    · next hsign => exact absurd (hdigit '-' (by rw [hsign]; rfl)) (by decide)
    · next hsign => exact absurd (hdigit '+' (by rw [hsign]; rfl)) (by decide)
    · rw [run_bind_ok hnumber]
      have hyear : (year.toNat : Int) = year := by omega
      rw [hyear]
      rfl
  · -- there is a sign, and all the digits that follow it are read
    rcases Int.lt_or_le year 0 with hneg | hpos
    · have htext : (renderYear year).toList = '-' :: padded 4 year.natAbs := by
        simp [renderYear, hfour, hneg, toList_decimalPadded]
      have hsmall : ¬ 0x80000000 < year.natAbs := by omega
      have hyear : -(year.natAbs : Int) = year := by omega
      rw [htext, List.cons_append, run_bind_ok (run_skipBlanks (by simp; rfl)),
        run_bind_ok (run_get _)]
      simp only
      rw [run_bind_ok (run_set _ _), run_bind_ok (hsigned _), if_neg hsmall, hyear]
      rfl
    · have htext : (renderYear year).toList = '+' :: padded 4 year.natAbs := by
        simp [renderYear, hfour, Int.not_lt.2 hpos, toList_decimalPadded]
      have hsmall : ¬ 0x80000000 ≤ year.natAbs := by omega
      have hyear : (year.natAbs : Int) = year := by omega
      rw [htext, List.cons_append, run_bind_ok (run_skipBlanks (by simp; rfl)),
        run_bind_ok (run_get _)]
      simp only
      rw [run_bind_ok (run_set _ _), run_bind_ok (hsigned _), if_neg hsmall, hyear]
      rfl

/-- Digits behind a point count as the first of nine. -/
lemma run_readFraction_point {width : Nat} (hpos : 0 < width) (hle : width ≤ 9)
    (hn : n < Nat.pow 10 width) :
    readFraction.run ('.' :: padded width n ++ ['Z']) =
      .ok (n * Nat.pow 10 (9 - width), ['Z']) := by
  have hlen := length_padded hpos hn
  have hnumber : (readNumber 9).run (padded width n ++ ['Z']) = .ok (n, ['Z']) :=
    run_readNumber (hlen.le.trans hle) (.inr (by simp))
  have hused : (padded width n ++ ['Z']).length - ['Z'].length = width := by simp [hlen]
  unfold readFraction
  rw [List.cons_append, run_bind_ok (run_get _)]
  simp only
  rw [run_bind_ok (run_set _ _), run_bind_ok hnumber, run_bind_ok (run_get _), hused]
  rfl

/-- A fraction of a second is read up to the letter behind it. -/
lemma run_readFraction {nanos : Nat} (h : nanos < 1000000000) :
    readFraction.run ((renderFraction nanos).toList ++ ['Z']) = .ok (nanos, ['Z']) := by
  -- the groups that are not written are zeros
  have hpoint : ∀ width unit, 0 < width → width ≤ 9 → Nat.pow 10 (9 - width) = unit →
      Nat.pow 10 width * unit = 1000000000 → nanos % unit = 0 →
      readFraction.run (("." ++ decimalPadded width (nanos / unit)).toList ++ ['Z']) =
        .ok (nanos, ['Z']) := by
    intro width unit hpos hle hunit hall hgroups
    have hn : nanos / unit < Nat.pow 10 width := by
      apply Nat.div_lt_of_lt_mul
      rwa [Nat.mul_comm, hall]
    have hread := run_readFraction_point hpos hle hn
    rw [hunit, Nat.div_mul_cancel (Nat.dvd_of_mod_eq_zero hgroups)] at hread
    simpa [toList_decimalPadded] using hread
  unfold renderFraction
  split
  · next hzero =>
    subst hzero
    rfl
  split
  · next hmillis => exact hpoint 3 _ (by decide) (by decide) rfl rfl hmillis
  split
  · next hmicros => exact hpoint 6 _ (by decide) (by decide) rfl rfl hmicros
  · simpa using hpoint 9 1 (by decide) (by decide) rfl rfl (Nat.mod_one _)

/-- The letter of universal time. -/
lemma run_readOffset : readOffset.run ['Z'] = .ok (0, []) := by
  rfl

lemma run_readDateEnd : readDateEnd.run ('T' :: rest) = .ok ((), rest) := rfl

lemma run_requireMore (h : cs ≠ []) : requireMore.run cs = .ok ((), cs) := by
  obtain ⟨c, rest, rfl⟩ := List.exists_cons_of_ne_nil h
  rfl

end Readers

/-! ### Whole texts -/

lemma toList_render (t : Timestamp) : t.render.toList =
    (renderYear t.year).toList ++ '-' :: (padded 2 t.month ++ '-' :: (padded 2 t.day ++
      'T' :: (padded 2 t.hour ++ ':' :: (padded 2 t.minute ++ ':' :: (padded 2 t.second ++
        ((renderFraction t.nanos).toList ++ ['Z'])))))) := by
  simp [render, toList_decimalPadded]

/-- What is written of a point in time on the calendar are its parts, in universal time. -/
lemma readDateTime_render {t : Timestamp} (h : t.IsValid) :
    readDateTime.run t.render.toList = .ok ((t, 0), []) := by
  have hpow : Nat.pow 10 2 = 100 := rfl
  have hdayLe := h.day.2.trans (daysInMonth_le t.year t.month)
  have hblank : isBlank '-' = false ∧ isBlank ':' = false ∧ isBlank 'Z' = false := by decide
  have hmonth := h.month
  have hday := h.day
  have hhour := h.hour
  have hminute := h.minute
  have hsecond := h.second
  rw [toList_render]
  unfold readDateTime
  rw [run_bind_ok (run_readYear h.year.1 h.year.2),
    run_bind_ok (run_readSeparator hblank.1),
    run_bind_ok (run_readWithin (by decide) (by omega) hmonth.1 hmonth.2),
    run_bind_ok (run_readSeparator hblank.1),
    run_bind_ok (run_readWithin (by decide) (by omega) hday.1 hdayLe),
    run_bind_ok (run_requireMore (by simp)),
    run_bind_ok run_readDateEnd,
    run_bind_ok (run_readWithin (by decide) (by omega) (Nat.zero_le _) hhour),
    run_bind_ok (run_readSeparator hblank.2.1),
    run_bind_ok (run_readWithin (by decide) (by omega) (Nat.zero_le _) hminute),
    run_bind_ok (run_readSeparator hblank.2.1),
    run_bind_ok (run_readWithin (by decide) (by omega) (Nat.zero_le _) hsecond),
    run_bind_ok (run_readFraction h.nanos),
    run_bind_ok (run_skipBlanks (by simpa using hblank.2.2)),
    run_bind_ok (run_requireMore (by simp)),
    run_bind_ok run_readOffset]
  rfl

/-- A point in time on the calendar is read back as it was written. -/
theorem parse_render {t : Timestamp} (h : t.IsValid) : parse t.render = .ok t := by
  have hyear : ¬ (t.year < firstYear ∨ lastYear < t.year) := by
    have hbounds := h.year
    omega
  have hdate : ¬ (t.year < firstYear ∨ lastYear < t.year ∨ daysInMonth t.year t.month < t.day) := by
    have hday := h.day
    omega
  have hahead : ¬ 1440 ≤ (0 : Int).natAbs := by decide
  unfold parse
  rw [readDateTime_render h]
  simp only [bind, Except.bind, hdate, hahead, if_false, fromLocal_zero h.hour h.minute, hyear]
  rfl

end Timestamp
end GuestHarness
