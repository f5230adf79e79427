import GuestHarness.Error
import GuestHarness.Timestamp

/-!
The life of a session as a machine of six states, and the history of its moves. A move that is
not allowed is refused and changes nothing.
-/

namespace GuestHarness

/-- Where a session stands. -/
inductive SessionState where
  | created
  | launched
  | sequencing
  | terminating
  | done
  | failed
deriving DecidableEq, Repr

namespace SessionState

/-- The name of a state. -/
def name : SessionState → String
  | created => "created"
  | launched => "launched"
  | sequencing => "sequencing"
  | terminating => "terminating"
  | done => "done"
  | failed => "failed"

/-- All states, in the order in which a session meets them. -/
def all : List SessionState := [created, launched, sequencing, terminating, done, failed]

/-- The moves of a session. One whose deadline is already gone ends without a script. -/
def allows : SessionState → SessionState → Bool
  | created, launched => true
  | created, failed => true
  | launched, sequencing => true
  | launched, terminating => true
  | sequencing, terminating => true
  | terminating, done => true
  | _, _ => false

end SessionState

/-- One move of a session. -/
structure Transition where
  source : SessionState
  target : SessionState
  timestamp : Timestamp
  reason : Option String
deriving DecidableEq

/-- A session's state and the moves that led to it, oldest first. -/
structure Lifecycle where
  state : SessionState := .created
  history : List Transition := []
deriving DecidableEq

namespace Lifecycle

/-- A session that has not moved. -/
def fresh : Lifecycle := {}

/-- The session can still be run. -/
def canRun (l : Lifecycle) : Bool := l.state == .created

/-- The states that can be reached in one move. -/
def reachable (l : Lifecycle) : List SessionState := SessionState.all.filter l.state.allows

/-- The error of a move that is not allowed. -/
def refusal (l : Lifecycle) (target : SessionState) : HarnessError :=
  .invalidState ("a state that can move to " ++ target.name) l.state.name

/-- Moves to a state, if that is allowed. -/
def moveTo (l : Lifecycle) (target : SessionState) (timestamp : Timestamp)
    (reason : Option String) : Except HarnessError Lifecycle :=
  if l.state.allows target then
    .ok ⟨target, l.history ++ [⟨l.state, target, timestamp, reason⟩]⟩
  else .error (l.refusal target)

/-- Moves on when the target was started. -/
def toLaunched (l : Lifecycle) (timestamp : Timestamp) (pid : Nat) :
    Except HarnessError Lifecycle :=
  l.moveTo .launched timestamp (some ("Target spawned with pid " ++ Text.decimal pid))

/-- Moves on when the script begins. -/
def toSequencing (l : Lifecycle) (timestamp : Timestamp) (steps : Nat) :
    Except HarnessError Lifecycle :=
  l.moveTo .sequencing timestamp (some ("Running " ++ Text.decimal steps ++ " command steps"))

/-- Moves on when the target is to be stopped. -/
def toTerminating (l : Lifecycle) (timestamp : Timestamp) (reason : String) :
    Except HarnessError Lifecycle :=
  l.moveTo .terminating timestamp (some reason)

/-- Moves on when all is over. -/
def toDone (l : Lifecycle) (timestamp : Timestamp) (outcome : String) :
    Except HarnessError Lifecycle :=
  l.moveTo .done timestamp (some outcome)

/-- Moves to the end of a session that could not start. -/
def toFailed (l : Lifecycle) (timestamp : Timestamp) (reason : String) :
    Except HarnessError Lifecycle :=
  l.moveTo .failed timestamp (some reason)

end Lifecycle
end GuestHarness
