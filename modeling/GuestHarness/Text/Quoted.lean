import GuestHarness.Text.Digits
import GuestHarness.Text.Printable

/-!
Quoted texts and byte strings, as they stand in messages: between double quotes, with whatever
has no visible form written as an escape.
-/

namespace GuestHarness.Text

/-- A character of a quoted text. -/
def quotedChar (c : Char) : String :=
  if c = '"' then "\\\""
  else if c = '\\' then "\\\\"
  else if c = '\n' then "\\n"
  else if c = '\r' then "\\r"
  else if c = '\t' then "\\t"
  else if c = '\x00' then "\\0"
  else if isPrintable c then String.singleton c
  else "\\u\x7b" ++ hexadecimal c.toNat ++ "\x7d"

/-- A text between double quotes. -/
def quoted (s : String) : String :=
  "\"" ++ String.join (s.toList.map quotedChar) ++ "\""

/-- A list of texts, each quoted, between brackets. -/
def quotedList (ss : List String) : String :=
  "[" ++ ", ".intercalate (ss.map quoted) ++ "]"

/-- A byte in visible ASCII: itself if it is printable, an escape if not. -/
def escapedByte (b : UInt8) : String :=
  if b = 9 then "\\t"
  else if b = 10 then "\\n"
  else if b = 13 then "\\r"
  else if b = 34 then "\\\""
  else if b = 39 then "\\'"
  else if b = 92 then "\\\\"
  else if 32 ≤ b && b < 127 then String.singleton (Char.ofNat b.toNat)
  else
    let ds := Nat.toDigits 16 b.toNat
    "\\x" ++ String.ofList (List.replicate (2 - ds.length) '0' ++ ds)

end GuestHarness.Text
