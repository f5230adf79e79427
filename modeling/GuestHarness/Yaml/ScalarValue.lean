import GuestHarness.Decimal
import GuestHarness.Yaml.Token

/-!
What a plain scalar stands for: nothing, a truth value, a whole number, a floating point number,
or, if it looks like none of these, a text.
-/

namespace GuestHarness.Yaml

/-- What a scalar stands for. Floating point numbers are given by the text that shows them. -/
inductive ScalarValue where
  | null
  | bool (b : Bool)
  | integer (n : Int)
  | float (shown : String)
  | text (s : String)
deriving DecidableEq

/-! ### Numbers -/

/-- The value of a digit in a base of at most sixteen. -/
def digitIn? (base : Nat) (c : Char) : Option Nat :=
  let n :=
    if c.isDigit then c.toNat - '0'.toNat
    else if 'a' ≤ c ∧ c ≤ 'f' then c.toNat - 'a'.toNat + 10
    else if 'A' ≤ c ∧ c ≤ 'F' then c.toNat - 'A'.toNat + 10
    else base
  if n < base then some n else none

/-- The number that digits in a base stand for. -/
def numberIn? (base : Nat) (cs : List Char) : Option Nat :=
  if cs = [] then none else cs.foldlM (fun n c => (base * n + ·) <$> digitIn? base c) 0

/-- Leading zeros: such digits are a text. -/
def isZeroPadded (cs : List Char) : Bool :=
  let cs := match cs with
    | '-' :: rest => rest
    | '+' :: rest => rest
    | _ => cs
  match cs with
  | '0' :: rest => rest ≠ [] && rest.all Char.isDigit
  | _ => false

/-- The whole number that a text without sign stands for: decimal, or in base 16, 8 or 2. -/
def magnitude? (cs : List Char) : Option Nat :=
  match cs with
  | '0' :: 'x' :: ds => numberIn? 16 ds
  | '0' :: 'o' :: ds => numberIn? 8 ds
  | '0' :: 'b' :: ds => numberIn? 2 ds
  | ds => numberIn? 10 ds

/-- The whole number that a text stands for. -/
def integer? (cs : List Char) : Option Int :=
  if isZeroPadded cs then none
  else
    match cs with
    | '-' :: rest => (magnitude? rest).map fun n => -(n : Int)
    | '+' :: rest => (magnitude? rest).map fun n => (n : Int)
    | _ => (magnitude? cs).map fun n => (n : Int)

/-- The numbers that are told apart as whole numbers take at most 128 bits. -/
def isWide (n : Int) : Bool :=
  -0x80000000000000000000000000000000 ≤ n && n < 0x100000000000000000000000000000000

/-- The floating point number that a text stands for, as the text that shows it. -/
def float? (cs : List Char) : Option (List Char) :=
  let name := match cs with
    | '+' :: rest => rest
    | _ => cs
  if [".inf", ".Inf", ".INF"].any (·.toList = name) then some "inf".toList
  else if ["-.inf", "-.Inf", "-.INF"].any (·.toList = cs) then some "-inf".toList
  else if [".nan", ".NaN", ".NAN"].any (·.toList = cs) then some "NaN".toList
  else if cs.head? = some '+' && (name.head? = some '+' || name.head? = some '-') then none
  else do
    let d ← Decimal.read? cs
    let b ← d.toBinary?
    return ({ b.toDecimal with negative := d.negative } : Decimal).render

/-! ### All scalars -/

/-- The text stands for nothing. -/
def isNull (cs : List Char) : Bool := ["null", "Null", "NULL", "~"].any (·.toList = cs)

/-- The truth value that a text stands for. -/
def bool? (cs : List Char) : Option Bool :=
  if ["true", "True", "TRUE"].any (·.toList = cs) then some true
  else if ["false", "False", "FALSE"].any (·.toList = cs) then some false
  else none

/-- What a plain scalar stands for. -/
def ScalarValue.ofPlain (cs : List Char) : ScalarValue :=
  if cs = [] || isNull cs then .null
  else
    match bool? cs with
    | some b => .bool b
    | none =>
      match (integer? cs).filter isWide with
      | some n => .integer n
      | none =>
        match if isZeroPadded cs then none else float? cs with
        | some shown => .float (String.ofList shown)
        | none => .text (String.ofList cs)

end GuestHarness.Yaml
