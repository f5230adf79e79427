import GuestHarness.Duration
import GuestHarness.OsError
import GuestHarness.Text.Lossy

/-!
Errors of the harness. They follow the life of a session: a target that cannot be started, an
input that breaks in mid-script, an output that fails, a deadline that passes. Those after the
start carry the output captured so far.
-/

namespace GuestHarness

/-- A failed operation of the harness. -/
inductive HarnessError where
  | spawn (executable reason : String)
  | commandWrite (step : Nat) (reason : String) (captured : Bytes)
  | read (reason : String)
  | timedOut (phase : String) (elapsed : Duration) (captured : Bytes)
  | signal (pid : Nat) (reason : String)
  | configuration (reason : String)
  | invalidState (expected actual : String)
  | io (error : IoError)
deriving DecidableEq

namespace HarnessError

/-- The wording of an error. -/
def message : HarnessError → String
  | spawn executable reason => "Spawn failed: " ++ executable ++ " - " ++ reason
  | commandWrite step reason _ =>
    "Command write failed at step " ++ Text.decimal step ++ ": " ++ reason
  | read reason => "Output read error: " ++ reason
  | timedOut phase elapsed _ =>
    "Session timed out during " ++ phase ++ " after " ++ elapsed.render
  | signal pid reason => "Signal delivery failed: pid " ++ Text.decimal pid ++ " - " ++ reason
  | configuration reason => "Configuration error: " ++ reason
  | invalidState expected actual =>
    "Invalid session state: expected " ++ expected ++ ", got " ++ actual
  | io error => "I/O error: " ++ error.message

/-- The output captured before the failure, if the error carries it. -/
def captured? : HarnessError → Option Bytes
  | commandWrite _ _ captured => some captured
  | timedOut _ _ captured => some captured
  | _ => none

end HarnessError
end GuestHarness
