import GuestHarness.Text.Digits

/-!
How a process ended: the exit code or signal in the wait status that the operating system
reports, and the status of a session's target, which adds whether it ended by itself.
-/

namespace GuestHarness

/-! ### Exit information -/

/-- The exit code of a process that ended by itself, or the signal that ended it. -/
structure ExitInfo where
  code : Option Int
  signal : Option Int
deriving DecidableEq, Repr

namespace ExitInfo

/-- Reads a wait status: the low seven bits hold the signal, zero for a normal end, and the eight
bits above them the exit code. A stopped process has ended in neither way. -/
def ofWaitStatus (raw : Int) : ExitInfo :=
  let low := (raw % 128).toNat
  if low = 0 then ⟨some (raw / 256 % 256), none⟩
  else if low < 127 then ⟨none, some low⟩
  else ⟨none, none⟩

/-- A normal end with the given code. -/
def exited (code : Nat) : ExitInfo := ⟨some (code % 256 : Nat), none⟩

/-- An end by the given signal. -/
def killed (signal : Nat) : ExitInfo := ⟨none, some signal⟩

/-- The process ended normally with code zero. -/
def success (e : ExitInfo) : Bool := e.code == some 0

/-- The wording of an exit; the code goes before the signal. -/
def render (e : ExitInfo) : String :=
  match e.code, e.signal with
  | some code, _ => "exit code " ++ toString code
  | none, some signal => "signal " ++ toString signal
  | none, none => "unknown exit"

end ExitInfo

/-! ### Session status -/

/-- How the target of a session ended. -/
inductive SessionStatus where
  | exitedBeforeSignal (exit : ExitInfo)
  | exitedAfterSignal (exit : ExitInfo)
  | forceKilled
  | timedOut
deriving DecidableEq, Repr

namespace SessionStatus

/-- The exit of a target that was not killed. -/
def exitInfo? : SessionStatus → Option ExitInfo
  | exitedBeforeSignal exit => some exit
  | exitedAfterSignal exit => some exit
  | forceKilled => none
  | timedOut => none

/-- The harness had to kill the target. -/
def wasKilled : SessionStatus → Bool
  | forceKilled => true
  | timedOut => true
  | _ => false

/-- The name of a status. -/
def name : SessionStatus → String
  | exitedBeforeSignal _ => "exited_before_signal"
  | exitedAfterSignal _ => "exited_after_signal"
  | forceKilled => "force_killed"
  | timedOut => "timed_out"

/-- The name of a status, with the exit if there is one. -/
def render (s : SessionStatus) : String :=
  match s.exitInfo? with
  | some exit => s.name ++ " (" ++ exit.render ++ ")"
  | none => s.name

end SessionStatus
end GuestHarness
