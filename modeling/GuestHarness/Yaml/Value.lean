import GuestHarness.Yaml.ScalarValue

/-!
Data as it is written to a YAML text, and the text itself. A text is written plain where it reads
back as the same text, between quotes where it would not, and as a block of lines where it has
several.
-/

namespace GuestHarness.Yaml

/-- Data to be written. Records keep the order of their fields. -/
inductive Value where
  | null
  | bool (b : Bool)
  | integer (n : Int)
  | text (s : String)
  | list (items : List Value)
  | record (fields : List (String × Value))
  | tagged (tag : String) (v : Value)

/-! ### Characters -/

/-- May be written as it is. Of the control characters only a line feed may. -/
def isShown (c : Char) : Bool :=
  let n := c.toNat
  n = 0x0A || (0x20 ≤ n && n ≤ 0x7E) ||
    (0xA0 ≤ n && n ≠ 0xFEFF && n ≠ 0xFFFE && n ≠ 0xFFFF)

/-- An escape with a number of so many digits. -/
def numericEscape (letter : Char) (digits n : Nat) : List Char :=
  let ds := (Nat.toDigits 16 n).map Char.toUpper
  '\\' :: letter :: (List.replicate (digits - ds.length) '0' ++ ds)

/-- A character between double quotes. -/
def escaped (c : Char) : List Char :=
  if c = '"' || c = '\\' then ['\\', c]
  else if isShown c && !isBreak c then [c]
  else if c = '\x00' then ['\\', '0']
  else if c = '\x07' then ['\\', 'a']
  else if c = '\x08' then ['\\', 'b']
  else if c = '\t' then ['\\', 't']
  else if c = '\n' then ['\\', 'n']
  else if c = '\x0b' then ['\\', 'v']
  else if c = '\x0c' then ['\\', 'f']
  else if c = '\r' then ['\\', 'r']
  else if c = '\x1b' then ['\\', 'e']
  else if c = '\u0085' then ['\\', 'N']
  else if c = '\u2028' then ['\\', 'L']
  else if c = '\u2029' then ['\\', 'P']
  else if c.toNat ≤ 0xFF then numericEscape 'x' 2 c.toNat
  else if c.toNat ≤ 0xFFFF then numericEscape 'u' 4 c.toNat
  else numericEscape 'U' 8 c.toNat

/-! ### How a text may be written -/

/-- A pair of neighbours of which the first and the second are so. -/
def hasNeighbours (first second : Char → Bool) : List Char → Bool
  | a :: b :: rest => (first a && second b) || hasNeighbours first second (b :: rest)
  | _ => false

/-- A blank that is a space. -/
def isSpace (c : Char) : Bool := c = ' '

/-- All characters can be written in some other way than by escapes, and no line ends with a
space. -/
def isClean (cs : List Char) : Bool :=
  cs.all isShown && !hasNeighbours isSpace isBreak cs

/-- The text can be written between single quotes. -/
def allowsSingle (cs : List Char) : Bool := isClean cs && !hasNeighbours isBreak isSpace cs

/-- The text can be written as a block of lines. -/
def allowsBlock (cs : List Char) : Bool :=
  isClean cs && cs ≠ [] && cs.getLast? ≠ some ' '

/-- The text has a colon or a number sign that would end a plain scalar. -/
def endsPlain : List Char → Bool
  | [] => false
  | ':' :: rest => Cursor.endsWord rest.head? || endsPlain rest
  | c :: '#' :: rest => isGap c || isBreak c || endsPlain ('#' :: rest)
  | _ :: rest => endsPlain rest

/-- The text begins in a way that a plain scalar does not. -/
def beginsOtherwise : List Char → Bool
  | [] => false
  | c :: rest =>
    ['#', ',', '[', ']', '{', '}', '&', '*', '!', '|', '>', '\'', '"', '%', '@', '`'].contains c ||
      (['?', ':', '-'].contains c && Cursor.endsWord rest.head?)

/-- The text begins like a document marker. -/
def beginsLikeMarker (cs : List Char) : Bool :=
  cs.take 3 = ['-', '-', '-'] || cs.take 3 = ['.', '.', '.']

/-- The text can be written plain. -/
def allowsPlain (cs : List Char) : Bool :=
  allowsSingle cs && !cs.any isBreak && cs.head? ≠ some ' ' && cs.getLast? ≠ some ' ' &&
    !beginsLikeMarker cs && !beginsOtherwise cs && !endsPlain cs

/-! ### Scalars -/

/-- Spaces at the start of a line. -/
def margin (n : Nat) : List Char := List.replicate n ' '

/-- The characters between single quotes. Line breaks are doubled as far as reading drops one,
and the line behind them is indented. -/
def singleQuotedFrom (indent : Nat) : Bool → List Char → List Char
  | _, [] => []
  | broken, c :: rest =>
    if isBreak c then
      (if c = '\n' && !broken then ['\n'] else []) ++ c :: singleQuotedFrom indent true rest
    else if isSpace c then c :: singleQuotedFrom indent broken rest
    else
      (if broken then margin indent else []) ++ (if c = '\'' then ['\'', c] else [c]) ++
        singleQuotedFrom indent false rest

/-- A text between single quotes. -/
def singleQuoted (indent : Nat) (cs : List Char) : List Char :=
  '\'' :: singleQuotedFrom indent false cs ++ ['\'']

/-- A text between double quotes. -/
def doubleQuoted (cs : List Char) : List Char := '"' :: cs.flatMap escaped ++ ['"']

/-- The lines of a block, each indented unless it is empty. -/
def blockLines (indent : Nat) : Bool → List Char → List Char
  | _, [] => []
  | broken, c :: rest =>
    if isBreak c then c :: blockLines indent true rest
    else (if broken then margin indent else []) ++ c :: blockLines indent false rest

/-- The indicators of a block: its indentation if the text begins with a blank, and what becomes
of the line breaks at the end. -/
def blockHeader (cs : List Char) : List Char :=
  (if cs.head?.any (fun c => isSpace c || isBreak c) then ['2'] else []) ++
    match cs.reverse with
    | c :: rest =>
      if !isBreak c then ['-'] else if rest.head?.all isBreak then ['+'] else []
    | [] => ['-']

/-- A text as a block of lines. -/
def block (indent : Nat) (cs : List Char) : List Char :=
  '|' :: blockHeader cs ++ '\n' :: blockLines indent true cs

/-- A text that reads back as this text. Digits behind leading zeros are put between quotes, since
not everyone takes them for a text. -/
def textScalar (indent : Nat) (s : String) : List Char :=
  let cs := s.toList
  let quoted := if allowsSingle cs then singleQuoted indent cs else doubleQuoted cs
  if cs.contains '\n' then if allowsBlock cs then block indent cs else doubleQuoted cs
  else
    match ScalarValue.ofPlain cs with
    | .text _ => if allowsPlain cs && !isZeroPadded cs then cs else quoted
    | _ => quoted

/-! ### Collections -/

/-- Ends the line, unless it ended before. -/
def endLine (cs : List Char) : List Char :=
  if cs.getLast?.any isBreak then cs else cs ++ ['\n']

/-- A key with its colon. A key that is too long or has line breaks stands on lines of its own. -/
def keyText (indent : Nat) (key : String) : List Char :=
  if key.utf8ByteSize ≤ 128 && !key.toList.any isBreak then
    textScalar (indent + 2) key ++ [':']
  else
    ['?', ' '] ++ endLine (textScalar (indent + 2) key) ++ margin indent ++ [':']

namespace Value

mutual
/-- The text of data, without the end of its last line: at the given column, or behind the key of
a field at that column. -/
def body (field : Bool) (indent : Nat) : Value → List Char
  | .list items =>
    if items.isEmpty then (if field then [' '] else []) ++ ['[', ']']
    else (if field then '\n' :: margin indent else []) ++ itemLines indent true items
  | .record fields =>
    if fields.isEmpty then (if field then [' '] else []) ++ ['{', '}']
    else if field then '\n' :: margin (indent + 2) ++ fieldLines (indent + 2) true fields
    else fieldLines indent true fields
  | .tagged tag v =>
    (if field then [' '] else []) ++ '!' :: tag.toList ++
      if field then body true indent v else '\n' :: margin indent ++ body false indent v
  | .text s =>
    if field then ' ' :: textScalar (indent + 2) s else textScalar indent s
  | .null => (if field then [' '] else []) ++ "null".toList
  | .bool b => (if field then [' '] else []) ++ (if b then "true" else "false").toList
  | .integer n =>
    (if field then [' '] else []) ++ (if n < 0 then ['-'] else []) ++
      (Text.decimal n.natAbs).toList

/-- The items of a list, each on a line of its own. -/
def itemLines (indent : Nat) (first : Bool) : List Value → List Char
  | [] => []
  | v :: rest =>
    let line := (if first then [] else margin indent) ++ ['-', ' '] ++ body false (indent + 2) v
    (if rest.isEmpty then line else endLine line) ++ itemLines indent false rest

/-- The fields of a record, each on a line of its own. -/
def fieldLines (indent : Nat) (first : Bool) : List (String × Value) → List Char
  | [] => []
  | (key, v) :: rest =>
    let line := (if first then [] else margin indent) ++ keyText indent key ++ body true indent v
    (if rest.isEmpty then line else endLine line) ++ fieldLines indent false rest
end

/-- The text of data as a document. -/
def render : Value → String
  | .text s => String.ofList (endLine (textScalar 2 s))
  | v => String.ofList (endLine (body false 0 v))

end Value
end GuestHarness.Yaml
