import GuestHarness.Text.Lossy
import Mathlib.Tactic.Common

/-!
Bytes that stand for themselves, and the way back. In the encoding of a text, a byte below 0x80 is a
whole character and never a part of one, so it occurs among the bytes exactly where its character
occurs in the text. The first byte of a character tells how many follow and in which bounds the next
of them lies, so that decoding what was encoded gives the text back.
-/

namespace GuestHarness.Text

variable {b : UInt8}

lemma mem_utf8EncodeChar {c : Char} (hb : b.toNat < 0x80) :
    b ∈ String.utf8EncodeChar c ↔ c.toNat = b.toNat := by
  have hv : c.toNat = c.val.toNat := rfl
  have hbyte : ∀ n, b = UInt8.ofNat n ↔ b.toNat = n % 256 := fun n => by
    rw [← UInt8.toNat_inj, UInt8.toNat_ofNat']
  unfold String.utf8EncodeChar
  dsimp only
  -- the bytes of a longer character have their highest bit set
  split_ifs
  all_goals
    simp only [List.mem_cons, List.not_mem_nil, or_false, hbyte]
    omega

lemma mem_encode {cs : List Char} (hb : b.toNat < 0x80) :
    b ∈ encode cs ↔ ∃ c ∈ cs, c.toNat = b.toNat := by
  simp only [encode, List.mem_flatMap, mem_utf8EncodeChar hb]

/-- A byte below 0x80 occurs in the bytes of a text if its character occurs in the text. -/
lemma mem_bytes {s : String} {c : Char} (hc : c.toNat < 0x80) :
    UInt8.ofNat c.toNat ∈ bytes s ↔ c ∈ s.toList := by
  have hb : (UInt8.ofNat c.toNat).toNat = c.toNat := by
    rw [UInt8.toNat_ofNat']
    omega
  rw [bytes, mem_encode (by rwa [hb]), hb]
  constructor
  · rintro ⟨d, hd, hdc⟩
    rwa [← Char.toNat_inj.1 hdc]
  · exact fun h => ⟨c, h, rfl⟩

lemma bytes_eq_nil {s : String} : bytes s = [] ↔ s = "" := by
  rw [bytes, encode, List.flatMap_eq_nil_iff]
  constructor
  · intro h
    refine String.toList_eq_nil_iff.1 (List.eq_nil_iff_forall_not_mem.2 fun c hc => ?_)
    exact String.utf8EncodeChar_ne_nil (h c hc)
  · rintro rfl
    simp

/-! ### Reading back -/

lemma toNat_byte {n : Nat} (h : n < 0x100) : (UInt8.ofNat n).toNat = n := by
  rw [UInt8.toNat_ofNat']
  exact Nat.mod_eq_of_lt h

lemma lead_single {n : Nat} (h : n < 0x80) : lead (UInt8.ofNat n) = .single (Char.ofNat n) := by
  unfold lead
  rw [toNat_byte (by omega)]
  exact if_pos h

lemma lead_two {n : Nat} (h : 0xC2 ≤ n) (h' : n < 0xE0) :
    lead (UInt8.ofNat n) = .opens ⟨n - 0xC0, 1, 0x80, 0xBF⟩ := by
  unfold lead
  rw [toNat_byte (by omega)]
  dsimp only
  rw [if_neg (by omega), if_neg (by omega), if_pos h']

lemma lead_three {n : Nat} (h : 0xE0 ≤ n) (h' : n < 0xF0) :
    lead (UInt8.ofNat n) = .opens ⟨n - 0xE0, 2, if n = 0xE0 then 0xA0 else 0x80,
      if n = 0xED then 0x9F else 0xBF⟩ := by
  unfold lead
  rw [toNat_byte (by omega)]
  dsimp only
  rw [if_neg (by omega), if_neg (by omega), if_neg (by omega)]
  split_ifs <;> simp_all

lemma lead_four {n : Nat} (h : 0xF0 ≤ n) (h' : n < 0xF5) :
    lead (UInt8.ofNat n) = .opens ⟨n - 0xF0, 3, if n = 0xF0 then 0x90 else 0x80,
      if n = 0xF4 then 0x8F else 0xBF⟩ := by
  unfold lead
  rw [toNat_byte (by omega)]
  dsimp only
  rw [if_neg (by omega), if_neg (by omega), if_neg (by omega)]
  split_ifs <;> first | omega | simp_all

lemma decodeFrom_more {p : Partial} {n : Nat} (rest : Bytes) (hlow : p.low.toNat ≤ n)
    (hhigh : n ≤ p.high.toNat) (hm : 1 < p.missing) :
    decodeFrom (some p) (UInt8.ofNat n :: rest) =
      decodeFrom (some ⟨64 * p.bits + (n - 0x80), p.missing - 1, 0x80, 0xBF⟩) rest := by
  have hn : (UInt8.ofNat n).toNat = n := toNat_byte (Nat.lt_of_le_of_lt hhigh p.high.toNat_lt)
  have hbounds : p.low ≤ UInt8.ofNat n ∧ UInt8.ofNat n ≤ p.high := by
    rw [UInt8.le_iff_toNat_le, UInt8.le_iff_toNat_le, hn]
    exact ⟨hlow, hhigh⟩
  rw [decodeFrom, if_pos hbounds]
  dsimp only
  rw [if_neg (by omega), hn]

lemma decodeFrom_last {p : Partial} {n : Nat} (rest : Bytes) (hlow : p.low.toNat ≤ n)
    (hhigh : n ≤ p.high.toNat) (hm : p.missing ≤ 1) :
    decodeFrom (some p) (UInt8.ofNat n :: rest) =
      Char.ofNat (64 * p.bits + (n - 0x80)) :: decodeFrom none rest := by
  have hn : (UInt8.ofNat n).toNat = n := toNat_byte (Nat.lt_of_le_of_lt hhigh p.high.toNat_lt)
  have hbounds : p.low ≤ UInt8.ofNat n ∧ UInt8.ofNat n ≤ p.high := by
    rw [UInt8.le_iff_toNat_le, UInt8.le_iff_toNat_le, hn]
    exact ⟨hlow, hhigh⟩
  rw [decodeFrom, if_pos hbounds]
  dsimp only
  rw [if_pos hm, hn]

lemma decodeFrom_encoded (c : Char) (rest : Bytes) :
    decodeFrom none (String.utf8EncodeChar c ++ rest) = c :: decodeFrom none rest := by
  have hv : c.toNat = c.val.toNat := rfl
  have hc : Char.ofNat c.val.toNat = c := Char.ofNat_toNat c
  have hvalid : c.val.toNat < 0xD800 ∨ 0xDFFF < c.val.toNat ∧ c.val.toNat < 0x110000 := c.valid
  unfold String.utf8EncodeChar
  dsimp only
  generalize c.val.toNat = v at *
  split_ifs with h1 h2 h3
  · rw [List.singleton_append, decodeFrom, lead_single (by omega)]
    dsimp only
    rw [hc]
  · have hbits : 64 * (v / 64 % 0x20 + 0xC0 - 0xC0) + (v % 0x40 + 0x80 - 0x80) = v := by omega
    simp only [List.cons_append, List.nil_append]
    rw [decodeFrom, lead_two (by omega) (by omega)]
    dsimp only
    rw [decodeFrom_last rest (by simp) (by simp; omega) (by simp), hbits, hc]
  · have hbits : 64 * (64 * (v / 4096 % 0x10 + 0xE0 - 0xE0) + (v / 64 % 0x40 + 0x80 - 0x80)) +
        (v % 0x40 + 0x80 - 0x80) = v := by omega
    simp only [List.cons_append, List.nil_append]
    rw [decodeFrom, lead_three (by omega) (by omega)]
    dsimp only
    rw [decodeFrom_more _ (by dsimp only; split_ifs <;> simp; omega)
      (by dsimp only; split_ifs <;> simp <;> omega) (by simp)]
    rw [decodeFrom_last rest (by simp) (by simp; omega) (by simp), hbits, hc]
  · have hbits : 64 * (64 * (64 * (v / 262144 % 8 + 0xF0 - 0xF0) + (v / 4096 % 0x40 + 0x80 - 0x80)) +
        (v / 64 % 0x40 + 0x80 - 0x80)) + (v % 0x40 + 0x80 - 0x80) = v := by omega
    simp only [List.cons_append, List.nil_append]
    rw [decodeFrom, lead_four (by omega) (by omega)]
    dsimp only
    rw [decodeFrom_more _ (by dsimp only; split_ifs <;> simp; omega)
      (by dsimp only; split_ifs <;> simp <;> omega) (by simp)]
    rw [decodeFrom_more _ (by simp) (by simp; omega) (by simp)]
    rw [decodeFrom_last rest (by simp) (by simp; omega) (by simp), hbits, hc]

lemma decodeFrom_encode (cs : List Char) (rest : Bytes) :
    decodeFrom none (encode cs ++ rest) = cs ++ decodeFrom none rest := by
  induction cs with
  | nil => rfl
  | cons c cs ih =>
    rw [encode, List.flatMap_cons, List.append_assoc, decodeFrom_encoded]
    exact congrArg (c :: ·) ih

/-- **Decoding gives back what was encoded.** -/
theorem lossy_bytes (s : String) : lossy (bytes s) = s := by
  have h := decodeFrom_encode s.toList []
  rw [List.append_nil] at h
  rw [lossy, decode, bytes, h, decodeFrom, List.append_nil, String.ofList_toList]

end GuestHarness.Text
