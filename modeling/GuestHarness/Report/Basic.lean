import GuestHarness.Exit
import GuestHarness.Lifecycle
import GuestHarness.OutputLines
import GuestHarness.Text.Quoted

/-!
What a session leaves behind: how the target ended, the failure if there is one, everything that
was captured, and the report made of it. Expectations on a result tell in words why they fail.
-/

namespace GuestHarness

/-- Why a session that ran to its end is a failed test all the same. -/
inductive SessionFailure where
  | commandWrite (step : Nat) (reason : String)
  | deadlineExceeded (phase : String)
deriving DecidableEq

/-- The wording of a failure. -/
def SessionFailure.render : SessionFailure → String
  | commandWrite step reason =>
    "command write failed at step " ++ Text.decimal step ++ ": " ++ reason
  | deadlineExceeded phase => "session deadline exceeded during " ++ phase

/-- The result of a session. -/
structure SessionResult where
  id : String
  status : SessionStatus
  output : Bytes
  duration : Duration
  startedAt : Timestamp
  stepsCompleted : Nat
  failure : Option SessionFailure := none
  readErrors : List String := []
  transitions : List Transition := []

/-- A summary of a result. -/
structure SessionReport where
  id : String
  status : SessionStatus
  startedAt : Timestamp
  durationMillis : Nat
  stepsCompleted : Nat
  failure : Option SessionFailure
  outputBytes : Nat
  readErrors : List String
  transitions : List Transition
  output : String
deriving DecidableEq

namespace SessionResult

/-- The output as text. -/
def outputText (r : SessionResult) : String := Text.lossy r.output

/-- There is no failure. -/
def isSuccess (r : SessionResult) : Bool := r.failure.isNone

/-- The failure as an error of the harness, if there is one. -/
def intoResult (r : SessionResult) : Except HarnessError SessionResult :=
  match r.failure with
  | none => .ok r
  | some (.commandWrite step reason) => .error (.commandWrite step reason r.output)
  | some (.deadlineExceeded phase) => .error (.timedOut phase r.duration r.output)

/-- The summary of a result. Milliseconds are counted in 64 bits. -/
def report (r : SessionResult) : SessionReport :=
  { id := r.id, status := r.status, startedAt := r.startedAt
    durationMillis := r.duration.millis % 0x10000000000000000
    stepsCompleted := r.stepsCompleted, failure := r.failure, outputBytes := r.output.length
    readErrors := r.readErrors, transitions := r.transitions, output := r.outputText }

end SessionResult

/-! ### Expectations -/

/-- What a test may expect of a result. -/
inductive Expected where
  | sequence (patterns : List String)
  | graceful
  | killed
  | within (bound : Duration)

namespace Expected

/-- The result is as expected. -/
def holds (r : SessionResult) : Expected → Bool
  | sequence patterns =>
    (OutputLines.ofBytes r.output).containsSequence (patterns.map String.toList)
  | graceful => match r.status with
    | .exitedAfterSignal _ => true
    | _ => false
  | killed => r.status = .forceKilled
  | within bound => r.duration.nanos ≤ bound.nanos

/-- The wording of a disappointed expectation. -/
def complaint (r : SessionResult) : Expected → String
  | sequence patterns =>
    "Output of session '" ++ r.id ++ "' does not contain " ++ Text.quotedList patterns ++
      " in order"
  | graceful =>
    "Session '" ++ r.id ++ "' expected to exit after the signal, got " ++ r.status.render
  | killed => "Session '" ++ r.id ++ "' expected to be force killed, got " ++ r.status.render
  | within bound =>
    "Session '" ++ r.id ++ "' took " ++ r.duration.render ++ ", expected at most " ++ bound.render

/-- Checks a result. -/
def check (e : Expected) (r : SessionResult) : Except String Unit :=
  if e.holds r then .ok () else .error (e.complaint r)

end Expected
end GuestHarness
