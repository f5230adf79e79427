import GuestHarness.Proofs.Search
import GuestHarness.Proofs.Text.Utf8

/-!
Where a text occurs in bytes. The first byte of a character is never one of the bytes that continue a
character, so whatever comes before a character, whole, cut short or ill-formed, is decoded as if
nothing came after it. And a character other than the replacement stands for the bytes of its
encoding, nothing more and nothing less. So a text without replacement characters occurs among
decoded bytes exactly where its own bytes occur.
-/

namespace GuestHarness.Text

/-! ### Characters that are begun -/

/-- The bytes open a character and leave it to be continued as the beginning says. -/
inductive Begun : Bytes → Partial → Prop
  | opens {b : UInt8} {p : Partial} (h : lead b = .opens p) : Begun [b] p
  | more {held : Bytes} {p : Partial} {b : UInt8} (h : Begun held p) (hlow : p.low ≤ b)
      (hhigh : b ≤ p.high) (hmissing : 1 < p.missing) :
      Begun (held ++ [b]) ⟨64 * p.bits + (b.toNat - 0x80), p.missing - 1, 0x80, 0xBF⟩

/-- What the first byte of a character of several bytes can be. -/
lemma lead_eq_opens {b : UInt8} {p : Partial} (h : lead b = .opens p) :
    (0xC2 ≤ b.toNat ∧ b.toNat < 0xE0 ∧ p = ⟨b.toNat - 0xC0, 1, 0x80, 0xBF⟩) ∨
    (0xE0 ≤ b.toNat ∧ b.toNat < 0xF0 ∧ p = ⟨b.toNat - 0xE0, 2,
      if b.toNat = 0xE0 then 0xA0 else 0x80, if b.toNat = 0xED then 0x9F else 0xBF⟩) ∨
    (0xF0 ≤ b.toNat ∧ b.toNat < 0xF5 ∧ p = ⟨b.toNat - 0xF0, 3,
      if b.toNat = 0xF0 then 0x90 else 0x80, if b.toNat = 0xF4 then 0x8F else 0xBF⟩) := by
  obtain ⟨n, hn, rfl⟩ : ∃ n, n < 0x100 ∧ b = UInt8.ofNat n :=
    ⟨b.toNat, b.toNat_lt, UInt8.ofNat_toNat.symm⟩
  have hin : 0xC2 ≤ n ∧ n < 0xF5 := by
    by_contra hout
    unfold lead at h
    rw [toNat_byte hn] at h
    dsimp only at h
    split_ifs at h <;> omega
  rw [toNat_byte hn]
  by_cases h2 : n < 0xE0
  · rw [lead_two hin.1 h2] at h
    exact .inl ⟨hin.1, h2, (Lead.opens.inj h).symm⟩
  · by_cases h3 : n < 0xF0
    · rw [lead_three (by omega) h3] at h
      exact .inr (.inl ⟨by omega, h3, (Lead.opens.inj h).symm⟩)
    · rw [lead_four (by omega) hin.2] at h
      exact .inr (.inr ⟨by omega, hin.2, (Lead.opens.inj h).symm⟩)

lemma lead_eq_single {b : UInt8} {c : Char} (h : lead b = .single c) :
    b.toNat < 0x80 ∧ c = Char.ofNat b.toNat := by
  unfold lead at h
  dsimp only at h
  split_ifs at h with h1
  exact ⟨h1, (Lead.single.inj h).symm⟩

/-! ### The bytes of a character -/

section Bytes

variable {w x y z : UInt8}

lemma val_ofNat {v : Nat} (h : v < 0xD800 ∨ 0xDFFF < v ∧ v < 0x110000) :
    (Char.ofNat v).val.toNat = v := by
  have hv : v.isValidChar := h
  rw [Char.ofNat, dif_pos hv]
  rfl

/-- A byte is known by its number. -/
lemma ofNat_eq {n : Nat} (h : n = x.toNat) : UInt8.ofNat n = x := by
  rw [h, UInt8.ofNat_toNat]

lemma encode_one (h : x.toNat < 0x80) : String.utf8EncodeChar (Char.ofNat x.toNat) = [x] := by
  unfold String.utf8EncodeChar
  dsimp only
  rw [val_ofNat (by omega), if_pos (by omega), UInt8.ofNat_toNat]

lemma encode_two (hx : 0xC2 ≤ x.toNat) (hx' : x.toNat < 0xE0) (hy : 0x80 ≤ y.toNat)
    (hy' : y.toNat ≤ 0xBF) :
    String.utf8EncodeChar (Char.ofNat (64 * (x.toNat - 0xC0) + (y.toNat - 0x80))) = [x, y] := by
  unfold String.utf8EncodeChar
  dsimp only
  rw [val_ofNat (by omega), if_neg (by omega), if_pos (by omega), ofNat_eq (x := x) (by omega),
    ofNat_eq (x := y) (by omega)]

/-- The bounds of the second byte keep out what two bytes can encode, and the surrogates. -/
lemma encode_three (hx : 0xE0 ≤ x.toNat) (hx' : x.toNat < 0xF0)
    (hy : (if x.toNat = 0xE0 then 0xA0 else 0x80) ≤ y.toNat)
    (hy' : y.toNat ≤ if x.toNat = 0xED then 0x9F else 0xBF)
    (hz : 0x80 ≤ z.toNat) (hz' : z.toNat ≤ 0xBF) :
    String.utf8EncodeChar (Char.ofNat
      (64 * (64 * (x.toNat - 0xE0) + (y.toNat - 0x80)) + (z.toNat - 0x80))) = [x, y, z] := by
  have hvalid : 64 * (64 * (x.toNat - 0xE0) + (y.toNat - 0x80)) + (z.toNat - 0x80) < 0xD800 ∨
      0xDFFF < 64 * (64 * (x.toNat - 0xE0) + (y.toNat - 0x80)) + (z.toNat - 0x80) := by
    split_ifs at hy hy' <;> omega
  have hlong : 0x800 ≤ 64 * (64 * (x.toNat - 0xE0) + (y.toNat - 0x80)) + (z.toNat - 0x80) := by
    split_ifs at hy <;> omega
  have hy₂ : 0x80 ≤ y.toNat ∧ y.toNat ≤ 0xBF := by
    split_ifs at hy hy' <;> omega
  unfold String.utf8EncodeChar
  dsimp only
  rw [val_ofNat (by omega), if_neg (by omega), if_neg (by omega), if_pos (by omega),
    ofNat_eq (x := x) (by omega), ofNat_eq (x := y) (by omega), ofNat_eq (x := z) (by omega)]

/-- The bounds of the second byte keep out what three bytes can encode, and what is no character. -/
lemma encode_four (hw : 0xF0 ≤ w.toNat) (hw' : w.toNat < 0xF5)
    (hx : (if w.toNat = 0xF0 then 0x90 else 0x80) ≤ x.toNat)
    (hx' : x.toNat ≤ if w.toNat = 0xF4 then 0x8F else 0xBF)
    (hy : 0x80 ≤ y.toNat) (hy' : y.toNat ≤ 0xBF) (hz : 0x80 ≤ z.toNat) (hz' : z.toNat ≤ 0xBF) :
    String.utf8EncodeChar (Char.ofNat
      (64 * (64 * (64 * (w.toNat - 0xF0) + (x.toNat - 0x80)) + (y.toNat - 0x80)) +
        (z.toNat - 0x80))) = [w, x, y, z] := by
  have hlong : 16 ≤ 64 * (w.toNat - 0xF0) + (x.toNat - 0x80) := by
    split_ifs at hx <;> omega
  have hshort : 64 * (w.toNat - 0xF0) + (x.toNat - 0x80) < 272 := by
    split_ifs at hx' <;> omega
  have hx₂ : 0x80 ≤ x.toNat ∧ x.toNat ≤ 0xBF := by
    split_ifs at hx hx' <;> omega
  unfold String.utf8EncodeChar
  dsimp only
  rw [val_ofNat (by omega), if_neg (by omega), if_neg (by omega), if_neg (by omega),
    ofNat_eq (x := w) (by omega), ofNat_eq (x := x) (by omega), ofNat_eq (x := y) (by omega),
    ofNat_eq (x := z) (by omega)]

end Bytes

section Begun

variable {b : UInt8} {p : Partial} {held : Bytes}

/-- A character is continued by bytes from 0x80 to 0xBF only. -/
lemma Begun.bounds (h : Begun held p) : 0x80 ≤ p.low.toNat ∧ p.high.toNat ≤ 0xBF := by
  cases h with
  | opens h =>
    obtain ⟨-, -, rfl⟩ | ⟨-, -, rfl⟩ | ⟨-, -, rfl⟩ := lead_eq_opens h
    · simp
    · dsimp only
      constructor <;> split_ifs <;> simp
    · dsimp only
      constructor <;> split_ifs <;> simp
  | more h hlow hhigh hmissing => simp

lemma Begun.length_le (h : Begun held p) : 1 ≤ held.length ∧ held.length + p.missing ≤ 4 := by
  induction h with
  | opens h =>
    obtain ⟨-, -, rfl⟩ | ⟨-, -, rfl⟩ | ⟨-, -, rfl⟩ := lead_eq_opens h <;> simp
  | more h hlow hhigh hmissing ih =>
    rw [List.length_append, List.length_singleton]
    dsimp only
    omega

/-- **A character that is completed is encoded by the bytes that began and completed it.** -/
lemma Begun.encoded (h : Begun held p) (hlow : p.low ≤ b) (hhigh : b ≤ p.high)
    (hmissing : p.missing ≤ 1) :
    String.utf8EncodeChar (Char.ofNat (64 * p.bits + (b.toNat - 0x80))) = held ++ [b] := by
  rw [UInt8.le_iff_toNat_le] at hlow hhigh
  cases h with
  | opens h =>
    obtain ⟨h1, h2, rfl⟩ | ⟨-, -, rfl⟩ | ⟨-, -, rfl⟩ := lead_eq_opens h
    · exact encode_two h1 h2 hlow hhigh
    · simp at hmissing
    · simp at hmissing
  | more h hlow₂ hhigh₂ hmissing₂ =>
    rw [UInt8.le_iff_toNat_le] at hlow₂ hhigh₂
    cases h with
    | opens h =>
      obtain ⟨-, -, rfl⟩ | ⟨h1, h2, rfl⟩ | ⟨-, -, rfl⟩ := lead_eq_opens h
      · simp at hmissing₂
      · simp only [apply_ite UInt8.toNat] at hlow₂ hhigh₂
        exact encode_three h1 h2 hlow₂ hhigh₂ hlow hhigh
      · simp at hmissing
    | more h hlow₁ hhigh₁ hmissing₁ =>
      rw [UInt8.le_iff_toNat_le] at hlow₁ hhigh₁
      cases h with
      | opens h =>
        obtain ⟨-, -, rfl⟩ | ⟨-, -, rfl⟩ | ⟨h1, h2, rfl⟩ := lead_eq_opens h
        · simp at hmissing₁
        · simp at hmissing₂
        · simp only [apply_ite UInt8.toNat] at hlow₁ hhigh₁
          exact encode_four h1 h2 hlow₁ hhigh₁ hlow₂ hhigh₂ hlow hhigh
      | more h _ _ hmissing₀ =>
        -- no character has a fifth byte
        have := h.length_le
        dsimp only at hmissing hmissing₂ hmissing₁
        omega

end Begun

/-! ### Cutting bytes -/

section Decoding

variable {b : UInt8} {p : Partial} {held : Bytes}

/-- A byte that does not continue a character ends it, and is decoded as if nothing came before. -/
lemma decodeFrom_some_of_out (rest : Bytes) (h : ¬ (p.low ≤ b ∧ b ≤ p.high)) :
    decodeFrom (some p) (b :: rest) = replacement :: decodeFrom none (b :: rest) := by
  simp only [decodeFrom, if_neg h]

/-- The bytes are over, or go on with a byte that does not continue a character. -/
def Apart (bs : Bytes) : Prop := ∀ b ∈ bs.head?, ¬ (0x80 ≤ b.toNat ∧ b.toNat ≤ 0xBF)

/-- **What comes before a character is decoded by itself.** -/
lemma decodeFrom_append {rest : Bytes} (hrest : Apart rest) (bs : Bytes) :
    decodeFrom none (bs ++ rest) = decodeFrom none bs ++ decodeFrom none rest ∧
    ∀ held p, Begun held p →
      decodeFrom (some p) (bs ++ rest) = decodeFrom (some p) bs ++ decodeFrom none rest := by
  induction bs with
  | nil =>
    refine ⟨rfl, fun held p hp => ?_⟩
    cases rest with
    | nil => rfl
    | cons b rest =>
      have hout : ¬ (p.low ≤ b ∧ b ≤ p.high) := by
        rw [UInt8.le_iff_toNat_le, UInt8.le_iff_toNat_le]
        have hb := hrest b rfl
        have := hp.bounds
        omega
      exact decodeFrom_some_of_out rest hout
  | cons b bs ih =>
    have hnone : decodeFrom none (b :: bs ++ rest) =
        decodeFrom none (b :: bs) ++ decodeFrom none rest := by
      rw [List.cons_append, decodeFrom, decodeFrom]
      cases hl : lead b with
      | single c => exact congrArg (c :: ·) ih.1
      | opens p => exact ih.2 _ p (.opens hl)
      | stray => exact congrArg (replacement :: ·) ih.1
    refine ⟨hnone, fun held p hp => ?_⟩
    by_cases hin : p.low ≤ b ∧ b ≤ p.high
    · rw [List.cons_append, decodeFrom, decodeFrom, if_pos hin, if_pos hin]
      dsimp only
      by_cases hm : p.missing ≤ 1
      · rw [if_pos hm, if_pos hm, ih.1]
        rfl
      · rw [if_neg hm, if_neg hm]
        exact ih.2 _ _ (hp.more hin.1 hin.2 (Nat.lt_of_not_le hm))
    · rw [List.cons_append, decodeFrom_some_of_out _ hin, decodeFrom_some_of_out _ hin,
        ← List.cons_append, hnone]
      rfl

/-- **A character stands for its own bytes.** The first of the decoded characters stands for some
bytes, the others for those after them; and unless it is a replacement, its bytes are the bytes of
its encoding. -/
lemma exists_of_decodeFrom_cons {c : Char} {cs : List Char} {bs : Bytes}
    (h : decodeFrom none bs = c :: cs) : ∃ own rest, bs = own ++ rest ∧ decodeFrom none rest = cs ∧
      (c ≠ replacement → own = String.utf8EncodeChar c) := by
  -- the bytes that are read while a character is open follow those that began it
  have hopen : ∀ (bs held : Bytes) (p : Partial), Begun held p → decodeFrom (some p) bs = c :: cs →
      ∃ own rest, bs = own ++ rest ∧ decodeFrom none rest = cs ∧
        (c ≠ replacement → held ++ own = String.utf8EncodeChar c) := by
    intro bs
    induction bs with
    | nil =>
      intro held p _ hbs
      obtain ⟨rfl, rfl⟩ := List.cons.inj hbs
      exact ⟨[], [], rfl, rfl, fun hc => absurd rfl hc⟩
    | cons b bs ih =>
      intro held p hp hbs
      by_cases hin : p.low ≤ b ∧ b ≤ p.high
      · rw [decodeFrom, if_pos hin] at hbs
        dsimp only at hbs
        by_cases hm : p.missing ≤ 1
        · rw [if_pos hm] at hbs
          obtain ⟨rfl, rfl⟩ := List.cons.inj hbs
          exact ⟨[b], bs, rfl, rfl, fun _ => (hp.encoded hin.1 hin.2 hm).symm⟩
        · rw [if_neg hm] at hbs
          obtain ⟨own, rest, rfl, hrest, hown⟩ :=
            ih _ _ (hp.more hin.1 hin.2 (Nat.lt_of_not_le hm)) hbs
          exact ⟨b :: own, rest, rfl, hrest, fun hc => by simpa using hown hc⟩
      · rw [decodeFrom_some_of_out _ hin] at hbs
        obtain ⟨rfl, rfl⟩ := List.cons.inj hbs
        exact ⟨[], b :: bs, rfl, rfl, fun hc => absurd rfl hc⟩
  cases bs with
  | nil => cases h
  | cons b bs =>
    rw [decodeFrom] at h
    cases hl : lead b with
    | single d =>
      rw [hl] at h
      obtain ⟨rfl, rfl⟩ := List.cons.inj h
      obtain ⟨hb, rfl⟩ := lead_eq_single hl
      exact ⟨[b], bs, rfl, rfl, fun _ => (encode_one hb).symm⟩
    | opens p =>
      rw [hl] at h
      obtain ⟨own, rest, rfl, hrest, hown⟩ := hopen bs [b] p (.opens hl) h
      exact ⟨b :: own, rest, rfl, hrest, hown⟩
    | stray =>
      rw [hl] at h
      obtain ⟨rfl, rfl⟩ := List.cons.inj h
      exact ⟨[b], bs, rfl, rfl, fun hc => absurd rfl hc⟩

/-- Decoded characters can be cut off at the front, and the rest stands for the rest of the bytes. -/
lemma exists_of_decodeFrom_append {cs : List Char} (before : List Char) {bs : Bytes}
    (h : decodeFrom none bs = before ++ cs) :
    ∃ skipped rest, bs = skipped ++ rest ∧ decodeFrom none rest = cs := by
  induction before generalizing bs with
  | nil => exact ⟨[], bs, rfl, h⟩
  | cons c before ih =>
    obtain ⟨own, rest, rfl, hrest, -⟩ := exists_of_decodeFrom_cons h
    obtain ⟨skipped, rest, rfl, hcs⟩ := ih hrest
    exact ⟨own ++ skipped, rest, (List.append_assoc ..).symm, hcs⟩

/-- Characters that are no replacements stand for their encoding. -/
lemma exists_of_decodeFrom_text {text cs : List Char} (htext : replacement ∉ text) {bs : Bytes}
    (h : decodeFrom none bs = text ++ cs) : ∃ rest, bs = encode text ++ rest := by
  induction text generalizing bs with
  | nil => exact ⟨bs, rfl⟩
  | cons c text ih =>
    rw [List.mem_cons, not_or] at htext
    obtain ⟨own, rest, rfl, hrest, hown⟩ := exists_of_decodeFrom_cons h
    obtain ⟨rest, rfl⟩ := ih htext.2 hrest
    rw [hown (Ne.symm htext.1)]
    exact ⟨rest, (List.append_assoc ..).symm⟩

end Decoding

/-! ### Occurrences -/

/-- The bytes of a character begin with one that does not continue a character. -/
lemma apart_encoded (c : Char) (rest : Bytes) : Apart (String.utf8EncodeChar c ++ rest) := by
  intro b hb
  unfold String.utf8EncodeChar at hb
  dsimp only at hb
  split_ifs at hb
  all_goals
    simp only [List.cons_append, List.head?_cons, Option.mem_def, Option.some.injEq] at hb
    rw [← hb, UInt8.toNat_ofNat']
    omega

/-- **A text occurs among decoded bytes exactly where its own bytes occur**, if it is not empty and has
no replacement characters. -/
theorem infix_decode_iff {text : List Char} (hne : text ≠ []) (htext : replacement ∉ text)
    {bs : Bytes} : text <:+: decode bs ↔ encode text <:+: bs := by
  constructor
  · rintro ⟨before, after, h⟩
    rw [List.append_assoc] at h
    obtain ⟨skipped, rest, rfl, hrest⟩ := exists_of_decodeFrom_append before h.symm
    obtain ⟨rest, rfl⟩ := exists_of_decodeFrom_text htext hrest
    exact ⟨skipped, rest, List.append_assoc ..⟩
  · rintro ⟨before, after, rfl⟩
    obtain ⟨c, text, rfl⟩ := List.exists_cons_of_ne_nil hne
    have hapart : Apart (encode (c :: text) ++ after) := by
      rw [encode, List.flatMap_cons, List.append_assoc]
      exact apart_encoded c _
    rw [decode, List.append_assoc, (decodeFrom_append hapart before).1, decodeFrom_encode]
    exact List.infix_append' _ _ _

end GuestHarness.Text
