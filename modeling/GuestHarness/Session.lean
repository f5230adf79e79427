import GuestHarness.Config.Basic
import GuestHarness.Lifecycle
import GuestHarness.Output.Pump
import GuestHarness.Report.Basic
import GuestHarness.Target

/-!
A session: a target is started, a script is written to it while its output is captured, and it is
brought to its end, all before a deadline. A session runs once. Only a target that cannot be
started is an error of the run; whatever goes wrong afterwards stands in the result.
-/

namespace GuestHarness

/-! ### Sessions -/

/-- A session: its name, what is started, what is written to it, the time limits, where the output
goes besides the buffer, its life so far, and the buffer. -/
structure TestSession where
  id : String
  spec : LaunchSpec
  steps : List CommandStep := []
  timing : SessionTiming := {}
  sinks : List Output.Sink := []
  lifecycle : Lifecycle := .fresh
  buffer : OutputBuffer := .empty

namespace TestSession

/-- A field of a record as it is shown. -/
def shownField (name value : String) : String := name ++ ": " ++ value

/-- A record as it is shown. -/
def shownRecord (name : String) (fields : List String) : String :=
  name ++ " \x7b " ++ ", ".intercalate fields ++ " \x7d"

/-- A command line as it is shown inside a session. -/
def shownSpec (spec : LaunchSpec) : String :=
  shownRecord "LaunchSpec" [
    shownField "executable" (Text.quoted spec.executable),
    shownField "args" (Text.quotedList spec.args),
    shownField "working_directory" (match spec.workingDirectory with
      | some dir => "Some(" ++ Text.quoted dir ++ ")"
      | none => "None"),
    shownField "environment" ("\x7b" ++ ", ".intercalate (spec.environment.map fun v =>
      Text.quoted v.1 ++ ": " ++ Text.quoted v.2) ++ "\x7d")]

/-- Time limits as they are shown inside a session. -/
def shownTiming (t : SessionTiming) : String :=
  shownRecord "SessionTiming" [shownField "timeout" t.timeout.render,
    shownField "grace_window" t.graceWindow.render,
    shownField "drain_timeout" t.drainTimeout.render]

/-- The name of a state with a capital letter. -/
def shownState (s : SessionState) : String :=
  match s.name.toList with
  | c :: rest => String.ofList (c.toUpper :: rest)
  | [] => ""

/-- A session as it is shown. -/
def render (s : TestSession) : String :=
  shownRecord "TestSession" [shownField "id" (Text.quoted s.id),
    shownField "spec" (shownSpec s.spec), shownField "steps" (Text.decimal s.steps.length),
    shownField "timing" (shownTiming s.timing),
    shownField "state" (shownState s.lifecycle.state)]

/-- The session that a configuration describes. Its transcript is opened. -/
def ofConfig (files : FileTree) (c : HarnessConfig) :
    Except ConfigFault (TestSession × FileTree) := do
  let spec ← c.launchSpec
  let steps ← c.commandSteps
  let session : TestSession :=
    { id := c.session.id, spec := spec, steps := steps, timing := c.timing }
  let echo := if c.capture.echo then [Output.Sink.echo []] else []
  match c.capture.outputFile with
  | none => return ({ session with sinks := echo }, files)
  | some path =>
    let (transcript, files) ← (Output.Transcript.openAt files path).mapError .noTranscript
    return ({ session with sinks := .transcript transcript :: echo }, files)

end TestSession

/-! ### Runs -/

/-- Where sessions run: the moment, the calendar, the files, and how a command line is started. -/
structure Site (τ : Type) where
  now : Instant
  calendar : Instant → Timestamp
  files : FileTree
  launch : Instant → FileTree → LaunchSpec → Except HarnessError τ

/-- A run of a session: the session afterwards, what the run comes to, its end, the files and the
sinks as it leaves them, and the child if there was one. -/
structure SessionRun (τ : Type) where
  session : TestSession
  result : Except HarnessError SessionResult
  moment : Instant
  files : FileTree
  sinks : List Output.Sink
  child : Option (Child τ) := none

/-- The least time for which output is waited for at the end. -/
def minDrainWindow : Duration := .ofMillis 100

/-- The time for which output is waited for at the end: what is left up to the deadline, but never
less than a least time and never more than is asked for. -/
def drainWindow (drain : Duration) (deadline now : Instant) : Duration :=
  Duration.min drain (Duration.max (Clock.elapsed now deadline) minDrainWindow)

namespace TestSession

variable {τ : Type} [Target τ]

/-- What the script comes to as a failure of the session. -/
def scriptFailure : Sequencer.Outcome → Option SessionFailure
  | .ok _ => none
  | .failed step e _ => some (.commandWrite step e.message)
  | .cut => some (.deadlineExceeded SessionState.sequencing.name)

/-- The failure of a session: that of the script, or a deadline that passed later. -/
def failureAfter (script : Option SessionFailure) (status : SessionStatus) :
    Option SessionFailure :=
  match script with
  | some f => some f
  | none =>
    if status = .timedOut then some (.deadlineExceeded SessionState.terminating.name) else none

/-- Why the target is brought to its end. -/
def endingReason (script : Option SessionFailure) (completed : Nat) : String :=
  match script with
  | some f => f.render
  | none => Text.decimal completed ++ " steps completed"

/-- Runs a session with a target that was started at the given moment. -/
def runTarget (site : Site τ) (s : TestSession) (deadline : Instant) (target : τ) :
    Except Clock.Overflow (SessionRun τ) := do
  let start := site.now
  let (outcome, sequencer, target) :=
    ({} : Sequencer).run (some deadline) s.steps target
  let script := scriptFailure outcome
  let ending := InputStream.now target
  let (status, child) ← Child.terminate { target := target } s.timing.graceWindow deadline
  let called := child.now
  let drain ← Clock.deadline called (drainWindow s.timing.drainTimeout deadline called)
  let late := InputStream.sleep drain child.target
  let pump := Output.finishBy s.buffer (Target.traces late)
    { now := start, sinks := s.sinks, files := Target.files late } called drain site.calendar
  let lifecycle : Except HarnessError Lifecycle := do
    let l ← s.lifecycle.toLaunched (site.calendar start) (Target.pid target).toNat
    let l ← l.toSequencing (site.calendar start) s.steps.length
    let l ← l.toTerminating (site.calendar ending) (endingReason script sequencer.completed)
    l.toDone (site.calendar pump.moment) status.render
  return {
    session := { s with
      sinks := [], buffer := pump.state.buffer, lifecycle := lifecycle.toOption.getD s.lifecycle }
    result := lifecycle.map fun l =>
      { id := s.id, status := status, output := pump.state.buffer.data
        duration := Clock.elapsed start pump.moment, startedAt := site.calendar start
        stepsCompleted := sequencer.completed, failure := failureAfter script status
        readErrors := pump.status.readErrors, transitions := l.history }
    moment := pump.moment, files := pump.worker.files, sinks := pump.worker.sinks
    child := some child }

/-- Runs a session. One that has run is refused. -/
def run (site : Site τ) (s : TestSession) : Except Clock.Overflow (SessionRun τ) := do
  let stopped := fun (s : TestSession) (e : HarnessError) =>
    ({ session := s, result := .error e, moment := site.now, files := site.files
       sinks := s.sinks } : SessionRun τ)
  if !s.lifecycle.canRun then
    return stopped s (.invalidState SessionState.created.name s.lifecycle.state.name)
  let deadline ← Clock.deadline site.now s.timing.timeout
  match site.launch site.now site.files s.spec with
  | .error e =>
    match s.lifecycle.toFailed (site.calendar site.now) e.message with
    | .ok l => return stopped { s with lifecycle := l } e
    | .error refusal => return stopped s refusal
  | .ok target => s.runTarget site deadline target

end TestSession
end GuestHarness
