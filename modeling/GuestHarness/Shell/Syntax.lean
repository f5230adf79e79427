/-!
The commands of a shell script. Words keep their parts as they are written: what they stand for
is only known when the command runs.
-/

namespace GuestHarness.Shell

/-! ### Words -/

/-- A part of a word: text, the value of a parameter with what stands in for a missing one, the
output of a script, or the value of an expression. Each may stand between double quotes. -/
inductive Part where
  | literal (quoted : Bool) (text : List Char)
  | parameter (quoted : Bool) (name : String) (operator default : List Char)
  | output (quoted : Bool) (script : List Char)
  | value (quoted : Bool) (expression : List Char)
deriving DecidableEq

/-- A word of a command. -/
abbrev Word := List Part

/-! ### Redirections -/

/-- Where a descriptor of a command leads to. -/
inductive Redirection where
  | read (w : Word)
  | write (w : Word)
  | append (w : Word)
  | copy (w : Word)
  | text (w : Word)
deriving DecidableEq

/-- A descriptor and where it leads to. -/
abbrev Redirect := Nat × Redirection

/-! ### Commands -/

/-- A command of a script. -/
inductive Command where
  | simple (line : Nat) (assigned : List (String × Word)) (words : List Word)
      (redirects : List Redirect)
  | pipeline (cs : List Command)
  | inverted (c : Command)
  | both (a b : Command)
  | either (a b : Command)
  | series (cs : List Command)
  | background (c : Command)
  | subshell (c : Command) (redirects : List Redirect)
  | group (c : Command) (redirects : List Redirect)
  | branch (test yes no : Command) (redirects : List Redirect)
  | loop (negated : Bool) (test body : Command) (redirects : List Redirect)
  | each (name : String) (words : Option (List Word)) (body : Command)
      (redirects : List Redirect)
  | choose (w : Word) (arms : List (List Word × Command)) (redirects : List Redirect)
  | function (name : String) (body : Command)
deriving Inhabited

/-- A command that does nothing. -/
def Command.nothing : Command := .series []

/-- A script: its commands up to the first that is malformed, and the complaint about that one
with its line. -/
structure Script where
  commands : List Command
  complaint : Option (Nat × String) := none

end GuestHarness.Shell
