import GuestHarness.Error
import GuestHarness.Signal

/-!
Process numbers as they are given to the operating system. It takes a whole number with a sign and
gives some of them a meaning of their own, so a number without a sign may address others than the
process that it counts.
-/

namespace GuestHarness

/-! ### Addressees -/

/-- To whom a signal goes. -/
inductive Addressee where
  | process (number : Nat)
  | group (number : Nat)
  | ownGroup
  | everyone
deriving DecidableEq, Repr

/-- Whom a whole number addresses. -/
def Addressee.ofInt (n : Int) : Addressee :=
  if n = 0 then ownGroup
  else if n = -1 then everyone
  else if n < 0 then group n.natAbs
  else process n.toNat

/-- A process number of 32 bits as it is given to the operating system. -/
def signalArgument (pid : UInt32) : Int := Int.bmod pid.toNat 0x100000000

/-- Whom a signal to a process number reaches. -/
def Addressee.ofPid (pid : UInt32) : Addressee := ofInt (signalArgument pid)

/-! ### Requests -/

/-- Why a signal did not go out: the error number of the operating system and its words. -/
structure SignalError where
  number : Nat
  text : String
deriving DecidableEq, Repr

namespace SignalError

/-- The words of the operating system if nobody is addressed. -/
def unknown : SignalError := ⟨3, "ESRCH: No such process"⟩

/-- Nobody is addressed. -/
def isUnknown (e : SignalError) : Bool := e.number = 3

/-- Those who are addressed belong to somebody else. -/
def isDenied (e : SignalError) : Bool := e.number = 1

end SignalError

/-- How a signal is given to the operating system: whom it addresses, as a whole number, and which
signal it is. Without one there is only the question whether it would go out. -/
abbrev SignalCall (m : Type → Type) := Int → Option Signal → m (Except SignalError Unit)

section Requests

variable {m : Type → Type} [Monad m] (call : SignalCall m) (pid : UInt32)

/-- Asks a process to end, and tells whether the request reached somebody. -/
def requestEnd : m (Except HarnessError Bool) := do
  match ← call (signalArgument pid) (some Signal.term) with
  | .ok () => return .ok true
  | .error e =>
    if e.isUnknown then return .ok false
    else return .error (.signal pid.toNat e.text)

/-- Tells whether there is a process with a number, as far as a signal can tell. One that belongs to
somebody else is there too. -/
def requestExistence : m (Except HarnessError Bool) := do
  match ← call (signalArgument pid) none with
  | .ok () => return .ok true
  | .error e =>
    if e.isUnknown then return .ok false
    else if e.isDenied then return .ok true
    else return .error (.signal pid.toNat ("Failed to check process: " ++ e.text))

end Requests

/-! ### Tables -/

/-- The numbers of the processes and of the groups that there are. -/
structure ProcessTable where
  processes : List Nat
  groups : List Nat

namespace ProcessTable

/-- A signal reaches somebody. -/
def reaches (t : ProcessTable) : Addressee → Bool
  | .process n => t.processes.contains n
  | .group n => t.groups.contains n
  | .ownGroup => true
  | .everyone => true

/-- A signal goes out if it reaches somebody. -/
def deliver (t : ProcessTable) : SignalCall Id := fun n _ =>
  if t.reaches (Addressee.ofInt n) then .ok () else .error .unknown

/-- There is a process with a number, as far as a signal can tell. -/
def processExists (t : ProcessTable) (pid : UInt32) : Bool :=
  (requestExistence t.deliver pid).run.toOption = some true

/-- Asks a process to end, and tells whether the request reached somebody. -/
def askToEnd (t : ProcessTable) (pid : UInt32) : Bool :=
  (requestEnd t.deliver pid).run.toOption = some true

end ProcessTable
end GuestHarness
