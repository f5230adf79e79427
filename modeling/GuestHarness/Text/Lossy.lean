/-!
Bytes as text. A text is encoded in UTF-8. Any bytes can be decoded: a character that is cut
short or ill-formed counts as one replacement character for each maximal part of it that could
have begun a character.
-/

namespace GuestHarness

/-- A string of bytes. -/
abbrev Bytes := List UInt8

namespace Text

/-! ### Encoding -/

/-- The bytes of a list of characters. -/
def encode (cs : List Char) : Bytes := cs.flatMap String.utf8EncodeChar

/-- The bytes of a text. -/
def bytes (s : String) : Bytes := encode s.toList

/-- The number of bytes of a text. -/
def byteLength (s : String) : Nat := (bytes s).length

/-! ### Decoding -/

/-- Stands for bytes that are no character. -/
def replacement : Char := '\uFFFD'

/-- The beginning of a character of several bytes: the bits so far, the number of bytes that are
missing, and the bounds of the next of them. -/
structure Partial where
  bits : Nat
  missing : Nat
  low : UInt8
  high : UInt8
deriving DecidableEq

/-- What a byte is at the start of a character. -/
inductive Lead where
  | single (c : Char)
  | opens (p : Partial)
  | stray
deriving DecidableEq

/-- A byte at the start of a character. The bounds of the second byte rule out overlong forms,
surrogates and values beyond the last character. -/
def lead (b : UInt8) : Lead :=
  let n := b.toNat
  if n < 0x80 then .single (Char.ofNat n)
  else if n < 0xC2 then .stray
  else if n < 0xE0 then .opens ⟨n - 0xC0, 1, 0x80, 0xBF⟩
  else if n = 0xE0 then .opens ⟨0, 2, 0xA0, 0xBF⟩
  else if n = 0xED then .opens ⟨0x0D, 2, 0x80, 0x9F⟩
  else if n < 0xF0 then .opens ⟨n - 0xE0, 2, 0x80, 0xBF⟩
  else if n = 0xF0 then .opens ⟨0, 3, 0x90, 0xBF⟩
  else if n < 0xF4 then .opens ⟨n - 0xF0, 3, 0x80, 0xBF⟩
  else if n = 0xF4 then .opens ⟨4, 3, 0x80, 0x8F⟩
  else .stray

/-- The characters of bytes that follow the beginning of a character, if one is open. -/
def decodeFrom : Option Partial → Bytes → List Char
  | none, [] => []
  | some _, [] => [replacement]
  | none, b :: rest =>
    match lead b with
    | .single c => c :: decodeFrom none rest
    | .opens p => decodeFrom (some p) rest
    | .stray => replacement :: decodeFrom none rest
  | some p, b :: rest =>
    if p.low ≤ b ∧ b ≤ p.high then
      let bits := 64 * p.bits + (b.toNat - 0x80)
      if p.missing ≤ 1 then Char.ofNat bits :: decodeFrom none rest
      else decodeFrom (some ⟨bits, p.missing - 1, 0x80, 0xBF⟩) rest
    else
      replacement :: match lead b with
        | .single c => c :: decodeFrom none rest
        | .opens q => decodeFrom (some q) rest
        | .stray => replacement :: decodeFrom none rest

/-- The characters of any bytes. -/
def decode (bs : Bytes) : List Char := decodeFrom none bs

/-- The text of any bytes. -/
def lossy (bs : Bytes) : String := String.ofList (decode bs)

/-- The text of bytes that are well-formed. -/
def fromUtf8? (bs : Bytes) : Option String :=
  let s := lossy bs
  if bytes s = bs then some s else none

end Text
end GuestHarness
