import GuestHarness.Text.Digits

/-!
Decimal numbers as 64-bit floating point numbers: the nearest one to a decimal, and the shortest
decimal that is nearest to it. All arithmetic is exact, on natural numbers.
-/

namespace GuestHarness

/-- A decimal number: a sign, digits, and a power of ten. -/
structure Decimal where
  negative : Bool
  digits : Nat
  power : Int
deriving DecidableEq, Repr

/-- The size of a finite 64-bit floating point number, as a multiple of a power of two. -/
structure Binary where
  mantissa : Nat
  power : Int
deriving DecidableEq, Repr

/-! ### Reading decimals -/

/-- Reads the digits of an exponent. -/
def exponent? (cs : List Char) : Option Int :=
  match cs with
  | '+' :: ds => if Text.isDigits ds then some (Text.digitsValue ds) else none
  | '-' :: ds => if Text.isDigits ds then some (-(Text.digitsValue ds : Int)) else none
  | ds => if Text.isDigits ds then some (Text.digitsValue ds) else none

/-- Reads a decimal: digits with a point among or around them, and an exponent. -/
def Decimal.read? (cs : List Char) : Option Decimal :=
  let (negative, cs) := match cs with
    | '-' :: cs => (true, cs)
    | '+' :: cs => (false, cs)
    | cs => (false, cs)
  let whole := cs.takeWhile Char.isDigit
  let cs := cs.drop whole.length
  let (fraction, cs) := match cs with
    | '.' :: cs => (cs.takeWhile Char.isDigit, cs.dropWhile Char.isDigit)
    | cs => ([], cs)
  if whole = [] && fraction = [] then none
  else
    let decimal := fun (e : Int) =>
      (⟨negative, Text.digitsValue (whole ++ fraction), e - fraction.length⟩ : Decimal)
    match cs with
    | [] => some (decimal 0)
    | c :: cs => if c = 'e' || c = 'E' then (exponent? cs).map decimal else none

/-! ### The nearest binary number -/

/-- The quotient rounded to the nearest whole number, halves to the even one. -/
def roundQuotient (num den : Nat) : Nat :=
  let q := num / den
  let r := num % den
  if den < 2 * r || (den = 2 * r && q % 2 = 1) then q + 1 else q

/-- A fraction as a multiple of a power of two, rounded. -/
def scaled (num den : Nat) (power : Int) : Nat :=
  if 0 ≤ power then roundQuotient num (den * Nat.pow 2 power.toNat)
  else roundQuotient (num * Nat.pow 2 (-power).toNat) den

/-- The number nearest to a fraction. There is none if the fraction is too large. -/
def Binary.nearest? (num den : Nat) : Option Binary :=
  if num = 0 then some ⟨0, -1074⟩
  else
    let guess := (num.log2 : Int) - den.log2 - 53
    let power := max (if scaled num den guess < 0x20000000000000 then guess else guess + 1) (-1074)
    let mantissa := scaled num den power
    let b : Binary :=
      if mantissa = 0x20000000000000 then ⟨0x10000000000000, power + 1⟩ else ⟨mantissa, power⟩
    if 971 < b.power then none else some b

/-- The number nearest to a decimal, if it is finite. -/
def Decimal.toBinary? (d : Decimal) : Option Binary :=
  let magnitude := d.power + (Text.decimal d.digits).length
  if d.digits = 0 || magnitude < -400 then some ⟨0, -1074⟩
  else if 400 < magnitude then none
  else if 0 ≤ d.power then Binary.nearest? (d.digits * Nat.pow 10 d.power.toNat) 1
  else Binary.nearest? d.digits (Nat.pow 10 (-d.power).toNat)

/-! ### The shortest decimal -/

namespace Binary

/-- The number as a fraction, with both parts multiplied by four. -/
def fraction (b : Binary) : Nat × Nat :=
  if 0 ≤ b.power then (4 * b.mantissa * Nat.pow 2 b.power.toNat, 4)
  else (4 * b.mantissa, 4 * Nat.pow 2 (-b.power).toNat)

/-- The decimals on the grid of a power of ten that are nearest to the number. -/
def neighbours (b : Binary) (power : Int) : List Decimal :=
  let (num, den) := b.fraction
  let low := if 0 ≤ power then num / (den * Nat.pow 10 power.toNat)
    else num * Nat.pow 10 (-power).toNat / den
  [⟨false, low, power⟩, ⟨false, low + 1, power⟩]

/-- The distance between the number and a decimal, over the denominator of the number and the
power of ten of the decimal. -/
def distance (b : Binary) (d : Decimal) : Nat :=
  let (num, den) := b.fraction
  let (n, m) := if 0 ≤ d.power then (num, d.digits * Nat.pow 10 d.power.toNat * den)
    else (num * Nat.pow 10 (-d.power).toNat, d.digits * den)
  if n ≤ m then m - n else n - m

/-- The decimal with the fewest digits that is nearest to this number, searched from a coarse
grid to finer ones. -/
def shortest (b : Binary) : Nat → Int → Decimal
  | 0, power => ⟨false, 0, power⟩
  | fuel + 1, power =>
    match (b.neighbours power).filter fun d => d.toBinary? = some b with
    | [d] => d
    | d :: e :: _ => if b.distance e < b.distance d then e else d
    | [] => shortest b fuel (power - 1)

/-- The shortest decimal that reads back as the number. -/
def toDecimal (b : Binary) : Decimal :=
  if b.mantissa = 0 then ⟨false, 0, 0⟩
  else
    let (num, den) := b.fraction
    let digits := (Text.decimal (num / den)).length
    let start : Int := if den ≤ num then digits else 0
    b.shortest 400 start

end Binary

/-- The text of a decimal without an exponent. There is always a point in it. -/
def Decimal.render (d : Decimal) : List Char :=
  let ds := (Text.decimal d.digits).toList
  let sign := if d.negative then ['-'] else []
  if 0 ≤ d.power then sign ++ ds ++ List.replicate d.power.toNat '0' ++ ['.', '0']
  else
    let places := (-d.power).toNat
    let ds := List.replicate (places + 1 - ds.length) '0' ++ ds
    sign ++ ds.take (ds.length - places) ++ ['.'] ++ ds.drop (ds.length - places)

end GuestHarness
