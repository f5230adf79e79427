import GuestHarness.Shell.Expansion
import GuestHarness.Text.Lossy

/-!
The state of a shell that runs a script. What is left to do is a stack of tasks, of which the
first is the next; a command turns into the tasks of its parts.
-/

namespace GuestHarness.Shell

/-- Something that a shell has to do. -/
inductive Task where
  | run (c : Command) (filled : Bool)
  | invert
  | onSuccess (c : Command)
  | onFailure (c : Command)
  | decide (yes no : Command)
  | loop (negated : Bool) (test body : Command)
  | tested (negated : Bool) (test body : Command) (last : Nat)
  | each (name : String) (values : List String) (body : Command)
  | restore (saved : List (Nat × Option Nat))
  | leave (params : List String) (locals : List (String × Option String))
  | await (pids : List Nat)
  | join (pids : List Nat)
  | collect (child source : Nat) (got : Bytes) (c : Command)
  | write (target : Nat) (bs : Bytes)
  | readLine (raw : Bool) (separators : String) (names : List String) (got : Bytes)
  | readScript (line : Nat) (got : Bytes)
  | resume (status : Nat)
  | complain (line : Nat) (what : String)
  | check
  | exit
deriving Inhabited

/-- A shell: what its words refer to, its functions, the scripts to run on signals (and, under
the number zero, at the end), its tasks, whether the program of the last command may take the
place of the shell, its children in the background, the options that are set, and the variables
that keep their values. -/
structure State where
  scope : Scope
  functions : List (String × Command) := []
  traps : List (Nat × String) := []
  tasks : List Task := []
  mayBecome : Bool := true
  children : List Nat := []
  options : List Char := []
  fixed : List String := []

end GuestHarness.Shell
