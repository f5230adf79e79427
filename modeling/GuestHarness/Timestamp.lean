import GuestHarness.Text.Blank
import GuestHarness.Text.Digits

/-!
Points in time as calendar dates with a time of day, in universal time. They are read in the
form of RFC 3339, with some freedom in blanks and separators and with any offset, and written
back in one form: without an offset, and with as many thousandths as needed.
-/

namespace GuestHarness

/-- A date and a time of day in universal time. Second 60 is a leap second. -/
structure Timestamp where
  year : Int
  month : Nat
  day : Nat
  hour : Nat
  minute : Nat
  second : Nat
  nanos : Nat
deriving DecidableEq, Repr

namespace Timestamp

/-- The beginning of the year 1970. -/
def epoch : Timestamp := ⟨1970, 1, 1, 0, 0, 0, 0⟩

instance : Inhabited Timestamp := ⟨epoch⟩

/-! ### The calendar -/

/-- The year has a 29th of February. -/
def isLeapYear (year : Int) : Bool := year % 4 = 0 && (year % 100 ≠ 0 || year % 400 = 0)

/-- The length of a month. -/
def daysInMonth (year : Int) (month : Nat) : Nat :=
  if month = 2 then (if isLeapYear year then 29 else 28)
  else if month = 4 ∨ month = 6 ∨ month = 9 ∨ month = 11 then 30
  else 31

/-- The same time on the day after. -/
def nextDay (t : Timestamp) : Timestamp :=
  if t.day < daysInMonth t.year t.month then { t with day := t.day + 1 }
  else if t.month < 12 then { t with month := t.month + 1, day := 1 }
  else { t with year := t.year + 1, month := 1, day := 1 }

/-- The same time on the day before. -/
def previousDay (t : Timestamp) : Timestamp :=
  if 1 < t.day then { t with day := t.day - 1 }
  else if 1 < t.month then
    { t with month := t.month - 1, day := daysInMonth t.year (t.month - 1) }
  else { t with year := t.year - 1, month := 12, day := 31 }

/-- The first year of the calendar. -/
def firstYear : Int := -262143
/-- The last year of the calendar. -/
def lastYear : Int := 262142

/-- The point in time so many nanoseconds after the epoch. -/
def afterEpoch (nanos : Nat) : Timestamp :=
  let seconds := nanos / 1000000000
  let ofDay := seconds % 86400
  let day := Nat.repeat nextDay (seconds / 86400) epoch
  { day with
    hour := ofDay / 3600, minute := ofDay / 60 % 60, second := ofDay % 60
    nanos := nanos % 1000000000 }

/-- The point in universal time of a local time that is so many minutes ahead. -/
def fromLocal (t : Timestamp) (ahead : Int) : Timestamp :=
  let minutes : Int := t.hour * 60 + t.minute - ahead
  let ofDay := (minutes % 1440).toNat
  let moved := if minutes < 0 then previousDay t else if 1440 ≤ minutes then nextDay t else t
  { moved with hour := ofDay / 60, minute := ofDay % 60 }

/-! ### Writing -/

/-- A year: four digits, or a sign and at least four digits outside the years 0 to 9999. -/
def renderYear (year : Int) : String :=
  if 0 ≤ year ∧ year ≤ 9999 then Text.decimalPadded 4 year.toNat
  else (if year < 0 then "-" else "+") ++ Text.decimalPadded 4 year.natAbs

/-- A fraction of a second in groups of three digits, as many as needed. -/
def renderFraction (nanos : Nat) : String :=
  if nanos = 0 then ""
  else if nanos % 1000000 = 0 then "." ++ Text.decimalPadded 3 (nanos / 1000000)
  else if nanos % 1000 = 0 then "." ++ Text.decimalPadded 6 (nanos / 1000)
  else "." ++ Text.decimalPadded 9 nanos

/-- A point in time as text. -/
def render (t : Timestamp) : String :=
  renderYear t.year ++ "-" ++ Text.decimalPadded 2 t.month ++ "-" ++ Text.decimalPadded 2 t.day ++
    "T" ++ Text.decimalPadded 2 t.hour ++ ":" ++ Text.decimalPadded 2 t.minute ++ ":" ++
    Text.decimalPadded 2 t.second ++ renderFraction t.nanos ++ "Z"

/-! ### Reading -/

/-- Why a text is no point in time. -/
inductive ParseError where
  | outOfRange
  | impossible
  | invalid
  | tooShort
  | tooLong
deriving DecidableEq, Repr

/-- The wording of a text that is no point in time. -/
def ParseError.message : ParseError → String
  | .outOfRange => "input is out of range"
  | .impossible => "no possible date and time matching input"
  | .invalid => "input contains invalid characters"
  | .tooShort => "premature end of input"
  | .tooLong => "trailing input"

/-- A reader takes what it reads off the front of a text. -/
abbrev Reader (α : Type) := StateT (List Char) (Except ParseError) α

/-- Skips blanks. -/
def skipBlanks : Reader Unit := modify Text.trimStart

/-- A number of at least one and at most so many digits. -/
def readNumber (most : Nat) : Reader Nat := do
  let cs ← get
  let digits := (cs.take most).takeWhile Char.isDigit
  match cs, digits with
  | [], _ => throw .tooShort
  | _, [] => throw .invalid
  | _, _ =>
    set (cs.drop digits.length)
    return Text.digitsValue digits

/-- A number within bounds, after blanks. -/
def readWithin (most low high : Nat) : Reader Nat := do
  skipBlanks
  let n ← readNumber most
  if low ≤ n ∧ n ≤ high then return n
  throw .outOfRange

/-- A year: four digits, or any number of them after a sign. -/
def readYear : Reader Int := do
  skipBlanks
  let cs ← get
  match cs with
  | '-' :: rest =>
    set rest
    let n ← readNumber rest.length
    if 0x80000000 < n then throw .outOfRange
    return -(n : Int)
  | '+' :: rest =>
    set rest
    let n ← readNumber rest.length
    if 0x80000000 ≤ n then throw .outOfRange
    return n
  | _ => return (← readNumber 4 : Nat)

/-- The given character, after blanks. -/
def readSeparator (c : Char) : Reader Unit := do
  skipBlanks
  match ← get with
  | [] => throw .tooShort
  | d :: rest => if d = c then set rest else throw .invalid

/-- A fraction of a second; digits beyond the ninth are dropped. -/
def readFraction : Reader Nat := do
  match ← get with
  | '.' :: rest =>
    set rest
    let n ← readNumber 9
    let used := rest.length - (← get).length
    modify (·.dropWhile Char.isDigit)
    return n * Nat.pow 10 (9 - used)
  | _ => return 0

/-- The minutes of an offset, which are two digits. -/
def offsetMinutes : Reader Nat := do
  match ← get with
  | a :: b :: rest =>
    if ¬ a.isDigit ∨ ¬ b.isDigit then throw .invalid
    if '5' < a then throw .outOfRange
    set rest
    return Text.digitsValue [a, b]
  | _ => throw .tooShort

/-- The hours and minutes of an offset, with or without colons or blanks between them. -/
def offsetDigits : Reader Nat := do
  match ← get with
  | a :: b :: rest =>
    if ¬ a.isDigit ∨ ¬ b.isDigit then throw .invalid
    set (rest.dropWhile fun c => c = ':' || Text.isBlank c)
    return 60 * Text.digitsValue [a, b] + (← offsetMinutes)
  | _ => throw .tooShort

/-- By how many minutes local time is ahead. -/
def readOffset : Reader Int := do
  skipBlanks
  match ← get with
  | u :: t :: c :: rest =>
    if u.toUpper = 'U' ∧ t.toUpper = 'T' ∧ c.toUpper = 'C' then
      set rest
      return 0
  | _ => pure ()
  match ← get with
  | [] => throw .tooShort
  | c :: rest =>
    if c = 'Z' ∨ c = 'z' then
      set rest
      return 0
    else if c = '+' then
      set rest
      return (← offsetDigits : Nat)
    else if c = '-' ∨ c = '−' then
      set rest
      return -((← offsetDigits : Nat) : Int)
    else throw .invalid

/-- More of the text has to follow. -/
def requireMore : Reader Unit := do
  if (← get).isEmpty then throw .tooShort

/-- The letter or blank between date and time. -/
def readDateEnd : Reader Unit := do
  match ← get with
  | [] => throw .tooShort
  | c :: rest => if c = 't' ∨ c = 'T' ∨ c = ' ' then set rest else throw .invalid

/-- Blanks and nothing else up to the end. -/
def requireEnd : Reader Unit := do
  skipBlanks
  unless (← get).isEmpty do throw .tooLong

/-- A date and a time of day with its offset. -/
def readDateTime : Reader (Timestamp × Int) := do
  let y ← readYear
  readSeparator '-'
  let month ← readWithin 2 1 12
  readSeparator '-'
  let day ← readWithin 2 1 31
  requireMore
  readDateEnd
  let hour ← readWithin 2 0 23
  readSeparator ':'
  let minute ← readWithin 2 0 59
  readSeparator ':'
  let second ← readWithin 2 0 60
  let nanos ← readFraction
  skipBlanks
  requireMore
  let ahead ← readOffset
  requireEnd
  return (⟨y, month, day, hour, minute, second, nanos⟩, ahead)

/-- Reads a point in time. -/
def parse (s : String) : Except ParseError Timestamp := do
  let ((t, ahead), _) ← readDateTime.run s.toList
  if t.year < firstYear ∨ lastYear < t.year ∨ daysInMonth t.year t.month < t.day then
    throw .outOfRange
  if 1440 ≤ ahead.natAbs then throw .outOfRange
  let moved := fromLocal t ahead
  if moved.year < firstYear ∨ lastYear < moved.year then throw .impossible
  return moved

end Timestamp
end GuestHarness
