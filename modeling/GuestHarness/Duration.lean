import GuestHarness.Text.Blank
import GuestHarness.Text.Digits

/-!
Spans of time, exact to the nanosecond. A span is written in a configuration as a whole number
with a unit (milliseconds, seconds or minutes), and in messages with as many digits of a fraction
as it needs.
-/

namespace GuestHarness

/-- A span of time: fewer than 2^64 seconds, counted in nanoseconds. -/
@[ext]
structure Duration where
  nanos : Nat
  nanos_lt : nanos < 0x10000000000000000 * 1000000000
deriving DecidableEq

namespace Duration

instance : LE Duration := ⟨fun a b => a.nanos ≤ b.nanos⟩
instance : LT Duration := ⟨fun a b => a.nanos < b.nanos⟩
instance (a b : Duration) : Decidable (a ≤ b) := inferInstanceAs (Decidable (a.nanos ≤ b.nanos))
instance (a b : Duration) : Decidable (a < b) := inferInstanceAs (Decidable (a.nanos < b.nanos))

/-- No time at all. -/
def zero : Duration := ⟨0, by decide⟩

instance : Inhabited Duration := ⟨zero⟩

/-- The whole seconds of a span. -/
def seconds (d : Duration) : Nat := d.nanos / 1000000000

/-- The nanoseconds of a span beyond its whole seconds. -/
def subNanos (d : Duration) : Nat := d.nanos % 1000000000

/-- The whole milliseconds of a span. -/
def millis (d : Duration) : Nat := d.nanos / 1000000

/-- The span of so many seconds, which stay below 2^64, and nanoseconds. -/
def ofParts (secs nanos : Nat) : Duration :=
  ⟨secs % 0x10000000000000000 * 1000000000 + nanos % 1000000000, by
    have := Nat.mod_lt secs (show 0 < 0x10000000000000000 by decide)
    have := Nat.mod_lt nanos (show 0 < 1000000000 by decide)
    omega⟩

/-- The span of so many seconds, below 2^64. -/
def ofSeconds (n : Nat) : Duration := ofParts n 0

/-- The span of so many milliseconds, below 2^64. -/
def ofMillis (n : Nat) : Duration := ofParts (n / 1000) (n % 1000 * 1000000)

/-- The shorter of two spans. -/
def min (a b : Duration) : Duration := if a ≤ b then a else b

/-- The longer of two spans. -/
def max (a b : Duration) : Duration := if a ≤ b then b else a

/-! ### In messages -/

/-- A number with a fraction of so many digits, less the zeros at its end, and a unit. -/
def renderScaled (whole fraction digits : Nat) (unit : String) : String :=
  let ds := (Text.decimalPadded digits fraction).toList
  let kept := (ds.reverse.dropWhile (· = '0')).reverse
  Text.decimal whole ++ (if kept.isEmpty then "" else "." ++ String.ofList kept) ++ unit

/-- A span in the largest unit that it fills, with as many digits as needed. -/
def render (d : Duration) : String :=
  if 0 < d.seconds then renderScaled d.seconds d.subNanos 9 "s"
  else if 1000000 ≤ d.nanos then renderScaled (d.nanos / 1000000) (d.nanos % 1000000) 6 "ms"
  else if 1000 ≤ d.nanos then renderScaled (d.nanos / 1000) (d.nanos % 1000) 3 "µs"
  else renderScaled d.nanos 0 0 "ns"

/-! ### In configurations -/

/-- Whole seconds as such, any other span in whole milliseconds. -/
def toText (d : Duration) : String :=
  if d.subNanos = 0 then Text.decimal d.seconds ++ "s" else Text.decimal d.millis ++ "ms"

/-- Why a text is no span of time. -/
inductive ParseError where
  | noUnit (text : String)
  | badNumber (text : String)
  | tooLarge (text : String)
deriving DecidableEq, Repr

/-- The wording of a text that is no span of time. -/
def ParseError.message : ParseError → String
  | .noUnit s => "Duration must end with 'ms', 's', or 'm': " ++ s
  | .badNumber s => "Invalid duration: " ++ s
  | .tooLarge s => "Duration too large: " ++ s

/-- The number before a unit. -/
def parseAmount (text : String) (number : List Char) : Except ParseError Nat :=
  match Text.parseBelow? 0x10000000000000000 (Text.trim number) with
  | some n => .ok n
  | none => .error (.badNumber text)

/-- Reads a number and a unit. Milliseconds come before seconds, whose unit ends in the same
letter. -/
def parse (s : String) : Except ParseError Duration :=
  let cs := Text.trim s.toList
  let text := String.ofList cs
  match Text.dropSuffix? ['m', 's'] cs with
  | some number => ofMillis <$> parseAmount text number
  | none =>
    match Text.dropSuffix? ['s'] cs with
    | some number => ofSeconds <$> parseAmount text number
    | none =>
      match Text.dropSuffix? ['m'] cs with
      | some number => do
        let minutes ← parseAmount text number
        if 60 * minutes < 0x10000000000000000 then return ofSeconds (60 * minutes)
        throw (.tooLarge text)
      | none => .error (.noUnit text)

end Duration
end GuestHarness
