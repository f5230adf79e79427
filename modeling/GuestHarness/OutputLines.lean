import GuestHarness.Search
import GuestHarness.Text.Lossy

/-!
Captured output as lines of text, and the questions that a test asks of them: whether a pattern
occurs, on which lines, and whether several patterns occur one after the other.
-/

namespace GuestHarness

/-! ### Lines of a text -/

/-- A line without the carriage return at its end. -/
def stripReturn (line : List Char) : List Char :=
  if line.getLast? = some '\r' then line.dropLast else line

/-- Cuts a text after every line feed. What follows the last one is a line if it is not empty,
and keeps its carriage return. The line begun so far is given in reverse. -/
def splitLines (begun : List Char) : List Char → List (List Char)
  | [] => if begun.isEmpty then [] else [begun.reverse]
  | '\n' :: rest => stripReturn begun.reverse :: splitLines [] rest
  | c :: rest => splitLines (c :: begun) rest

/-- The lines of captured output. -/
structure OutputLines where
  lines : List (List Char)
deriving DecidableEq

namespace OutputLines

/-- The lines of bytes, decoded as text. -/
def ofBytes (output : Bytes) : OutputLines := ⟨splitLines [] (Text.decode output)⟩

/-! ### Patterns -/

/-- Some line holds the pattern. -/
def contains (o : OutputLines) (pattern : List Char) : Bool := o.lines.any (occurs pattern)

/-- The lines that hold the pattern. -/
def matching (o : OutputLines) (pattern : List Char) : List (List Char) :=
  o.lines.filter (occurs pattern)

/-- The number of lines that hold the pattern. -/
def count (o : OutputLines) (pattern : List Char) : Nat := (o.matching pattern).length

/-- The patterns that are left when as many as possible have been found one after the other in
the line, each at the first place where it occurs. -/
def consume : List (List Char) → List Char → List (List Char)
  | [], _ => []
  | p :: ps, line =>
    match afterFirst p line with
    | some rest => consume ps rest
    | none => p :: ps

/-- The patterns can be found one after the other in the lines. -/
def findsAll : List (List Char) → List (List Char) → Bool
  | [], _ => true
  | _ :: _, [] => false
  | ps, line :: rest => findsAll (consume ps line) rest

/-- The patterns occur one after the other; one line may hold several of them. -/
def containsSequence (o : OutputLines) (patterns : List (List Char)) : Bool :=
  findsAll patterns o.lines

end OutputLines
end GuestHarness
