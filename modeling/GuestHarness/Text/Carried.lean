import GuestHarness.Text.Lossy

/-!
Text that stands for any bytes. Bytes that are no part of a character are carried by characters
of their own at the end of the last private plane, so that nothing is lost on the way back.
-/

namespace GuestHarness.Text

/-- The characters that carry single bytes begin here. -/
def carrierBase : Nat := 0x10FF00

/-- The character that carries a byte. -/
def carrier (b : UInt8) : Char := Char.ofNat (carrierBase + b.toNat)

/-- The characters of bytes that follow the bytes of a character that is open, if one is. -/
def carriedFrom : Option (Partial × Bytes) → Bytes → List Char
  | none, [] => []
  | some (_, held), [] => held.map carrier
  | none, b :: rest =>
    match lead b with
    | .single c => c :: carriedFrom none rest
    | .opens p => carriedFrom (some (p, [b])) rest
    | .stray => carrier b :: carriedFrom none rest
  | some (p, held), b :: rest =>
    if p.low ≤ b ∧ b ≤ p.high then
      let bits := 64 * p.bits + (b.toNat - 0x80)
      if p.missing ≤ 1 then Char.ofNat bits :: carriedFrom none rest
      else carriedFrom (some (⟨bits, p.missing - 1, 0x80, 0xBF⟩, held ++ [b])) rest
    else
      held.map carrier ++ match lead b with
        | .single c => c :: carriedFrom none rest
        | .opens q => carriedFrom (some (q, [b])) rest
        | .stray => carrier b :: carriedFrom none rest

/-- The text that stands for bytes. -/
def carried (bs : Bytes) : String := String.ofList (carriedFrom none bs)

/-- The bytes that a character stands for. -/
def carriedByte (c : Char) : Bytes :=
  if carrierBase + 0x80 ≤ c.toNat then [(c.toNat - carrierBase).toUInt8]
  else String.utf8EncodeChar c

/-- The bytes that a text stands for. -/
def uncarried (s : String) : Bytes := s.toList.flatMap carriedByte

end GuestHarness.Text
