/-!
The tokens of a YAML text, and the place in a text up to which it has been taken apart.
-/

namespace GuestHarness.Yaml

/-- How a scalar is written. -/
inductive ScalarStyle where
  | plain
  | singleQuoted
  | doubleQuoted
  | literal
  | folded
deriving DecidableEq, Repr

/-- A piece of a YAML text. Block collections have no marks of their own in the text: their
beginnings and ends follow from the indentation. -/
inductive Token where
  | streamEnd
  | version (major minor : Nat)
  | tagDirective (handle expansion : List Char)
  | documentStart
  | documentEnd
  | blockSequenceStart
  | blockMappingStart
  | blockEnd
  | flowSequenceStart
  | flowSequenceEnd
  | flowMappingStart
  | flowMappingEnd
  | blockEntry
  | flowEntry
  | key
  | value
  | alias (name : List Char)
  | anchor (name : List Char)
  | tag (handle suffix : List Char)
  | scalar (style : ScalarStyle) (content : List Char)
deriving DecidableEq

/-! ### Classes of characters -/

/-- Ends a line. -/
def isBreak (c : Char) : Bool :=
  c = '\n' || c = '\r' || c = '\u0085' || c = '\u2028' || c = '\u2029'

/-- Separates words within a line. -/
def isGap (c : Char) : Bool := c = ' ' || c = '\t'

/-- Stands in names of anchors, handles and directives. -/
def isWord (c : Char) : Bool := c.isAlphanum || c = '_' || c = '-'

/-- May stand in a YAML text at all. -/
def isAllowed (c : Char) : Bool :=
  let n := c.toNat
  n = 9 || n = 10 || n = 13 || (0x20 ≤ n && n ≤ 0x7E) || n = 0x85 || (0xA0 ≤ n && n ≤ 0xD7FF) ||
    (0xE000 ≤ n && n ≤ 0xFFFD) || 0x10000 ≤ n

/-! ### Places in a text -/

/-- The rest of a text, and how many characters and lines stand before it. -/
structure Cursor where
  rest : List Char
  index : Nat := 0
  line : Nat := 0
  column : Nat := 0
deriving DecidableEq

namespace Cursor

/-- The next character, or one of those after it. -/
def at? (c : Cursor) (n : Nat) : Option Char := c.rest[n]?

/-- The next character. -/
def peek? (c : Cursor) : Option Char := c.rest.head?

/-- The next character is the given one. -/
def sees (c : Cursor) (ch : Char) : Bool := c.peek? == some ch

/-- The text ends here. -/
def atEnd (c : Cursor) : Bool := c.rest.isEmpty

/-- The line or the text ends at a character. -/
def endsLine (ch : Option Char) : Bool := ch.all isBreak

/-- A word, the line or the text ends at a character. -/
def endsWord (ch : Option Char) : Bool := ch.all fun c => isGap c || isBreak c

/-- Goes on by characters of the same line. -/
def advance (c : Cursor) (n : Nat) : Cursor :=
  { c with rest := c.rest.drop n, index := c.index + n, column := c.column + n }

/-- Goes on by one character. -/
def next (c : Cursor) : Cursor := c.advance 1

/-- Goes on to the next line, if a line ends here. A carriage return and a line feed end one line
together. -/
def nextLine (c : Cursor) : Cursor :=
  match c.rest with
  | '\r' :: '\n' :: rest => ⟨rest, c.index + 2, c.line + 1, 0⟩
  | ch :: rest => if isBreak ch then ⟨rest, c.index + 1, c.line + 1, 0⟩ else c
  | [] => c

/-- The end of a line as it counts in the content of a scalar. -/
def lineBreak (c : Cursor) : List Char :=
  match c.peek? with
  | some '\u2028' => ['\u2028']
  | some '\u2029' => ['\u2029']
  | some ch => if isBreak ch then ['\n'] else []
  | none => []

/-- The characters up to the end of the line. -/
def restOfLine (c : Cursor) : List Char := c.rest.takeWhile fun ch => !isBreak ch

/-- Goes on over blanks within the line. -/
def skipGaps (c : Cursor) : Cursor := c.advance (c.rest.takeWhile isGap).length

/-- Goes on over a comment, if one begins here. -/
def skipComment (c : Cursor) : Cursor := if c.sees '#' then c.advance c.restOfLine.length else c

/-- A document marker stands here, alone at the start of a line. -/
def atMarker (c : Cursor) (ch : Char) : Bool :=
  c.column == 0 && c.rest.take 3 == [ch, ch, ch] && endsWord (c.at? 3)

/-- Some document marker stands here. -/
def atAnyMarker (c : Cursor) : Bool := c.atMarker '-' || c.atMarker '.'

end Cursor
end GuestHarness.Yaml
