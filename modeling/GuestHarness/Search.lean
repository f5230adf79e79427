/-!
Looking for a pattern in a sequence: whether it occurs, and what follows its first occurrence.
-/

namespace GuestHarness

variable {α : Type} [DecidableEq α]

/-- The pattern occurs somewhere in the sequence. The empty pattern occurs everywhere. -/
def occurs (pattern : List α) : List α → Bool
  | [] => pattern.isEmpty
  | a :: rest => pattern.isPrefixOf (a :: rest) || occurs pattern rest

/-- What follows the first occurrence of the pattern. -/
def afterFirst (pattern : List α) : List α → Option (List α)
  | [] => if pattern.isEmpty then some [] else none
  | a :: rest =>
    if pattern.isPrefixOf (a :: rest) then some ((a :: rest).drop pattern.length)
    else afterFirst pattern rest

end GuestHarness
