import GuestHarness.Output.Pump
import GuestHarness.Report.Basic
import GuestHarness.Yaml.Content
import GuestHarness.Yaml.Value

/-!
Results and reports as data: how they are read from a YAML document and what is written for them.
What may be of several kinds tells its kind in an entry of its own.
-/

namespace GuestHarness

open Yaml

/-- An optional text as data. -/
def optionalText (s : Option String) : Value := (s.map Value.text).getD .null

/-- An optional number as data. -/
def optionalInteger (n : Option Int) : Value := (n.map Value.integer).getD .null

/-- The data of a kind with further fields. -/
def kindData (name : String) (fields : List (String × Value)) : Value :=
  .record ((kindKey, .text name) :: fields)

/-! ### Exits and statuses -/

namespace ExitInfo

/-- The fields of an exit. -/
def fields {β : Type} (integer : β → Read (Option Int)) : Fields β ExitInfo :=
  ExitInfo.mk <$> .withDefault "code" integer none <*> .withDefault "signal" integer none

/-- What an exit is called where something else is found. -/
def expected : String := "struct ExitInfo"

/-- Reads an exit. -/
def read : Place → Read ExitInfo := Place.record expected (fields (Place.optional Place.integer32))

/-- Reads an exit from content. -/
def ofContent : Content → Read ExitInfo :=
  Content.record expected (fields (Content.readOptional Content.readInteger32))

/-- An exit as data. -/
def data (e : ExitInfo) : Value :=
  .record [("code", optionalInteger e.code), ("signal", optionalInteger e.signal)]

end ExitInfo

namespace SessionStatus

/-- The kinds of statuses. -/
def kinds : List (String × (Content → Read SessionStatus)) :=
  [("exited_before_signal",
      Content.record "struct variant SessionStatus::ExitedBeforeSignal"
        (exitedBeforeSignal <$> .required "exit" ExitInfo.ofContent)),
    ("exited_after_signal",
      Content.record "struct variant SessionStatus::ExitedAfterSignal"
        (exitedAfterSignal <$> .required "exit" ExitInfo.ofContent)),
    ("force_killed", Content.bare forceKilled),
    ("timed_out", Content.bare timedOut)]

/-- Reads a status. -/
def read : Place → Read SessionStatus := Place.byKind "internally tagged enum SessionStatus" kinds

/-- A status as data. -/
def data (s : SessionStatus) : Value :=
  kindData s.name (match s.exitInfo? with
    | some exit => [("exit", exit.data)]
    | none => [])

end SessionStatus

namespace SessionFailure

/-- The kinds of failures. -/
def kinds : List (String × (Content → Read SessionFailure)) :=
  [("command_write",
      Content.record "struct variant SessionFailure::CommandWrite"
        (commandWrite <$> .required "step_index" Content.readSize <*>
          .required "reason" Content.readText)),
    ("deadline_exceeded",
      Content.record "struct variant SessionFailure::DeadlineExceeded"
        (deadlineExceeded <$> .required "phase" Content.readText))]

/-- Reads a failure. -/
def read : Place → Read SessionFailure :=
  Place.byKind "internally tagged enum SessionFailure" kinds

/-- A failure as data. -/
def data : SessionFailure → Value
  | commandWrite step reason =>
    kindData "command_write" [("step_index", .integer step), ("reason", .text reason)]
  | deadlineExceeded phase => kindData "deadline_exceeded" [("phase", .text phase)]

end SessionFailure

/-! ### States and moments -/

/-- Reads a state. -/
def SessionState.read : Place → Read SessionState :=
  Place.choice (SessionState.all.map fun s => (s.name, s))

/-- A state as data. -/
def SessionState.data (s : SessionState) : Value := .text s.name

/-- Reads a point in time. -/
def Timestamp.read (p : Place) : Read Timestamp := do
  let s ← p.textAs "an RFC 3339 formatted date and time string"
  match Timestamp.parse s with
  | .ok t => return t
  | .error e => p.fail (.other e.message)

/-- A point in time as data. -/
def Timestamp.data (t : Timestamp) : Value := .text t.render

namespace Transition

/-- The fields of a transition. -/
def fields : Fields Place Transition :=
  Transition.mk <$>
    .required "from_state" SessionState.read <*>
    .required "to_state" SessionState.read <*>
    .required "timestamp" Timestamp.read <*>
    .withDefault "reason" (Place.optional Place.text) none

/-- Reads a transition. -/
def read : Place → Read Transition := Place.record "struct StateTransition" fields

/-- A transition as data. -/
def data (t : Transition) : Value :=
  .record [("from_state", t.source.data), ("to_state", t.target.data),
    ("timestamp", t.timestamp.data), ("reason", optionalText t.reason)]

end Transition

/-! ### Pumps -/

namespace Output.PumpStatus

/-- The fields of the status of a pump. -/
def fields : Fields Place PumpStatus :=
  PumpStatus.mk <$>
    .required "bytes_captured" (Place.natural 0x10000000000000000 "u64") <*>
    .required "chunks" (Place.natural 0x10000000000000000 "u64") <*>
    .required "read_errors" (Place.sequence Place.text) <*>
    .required "sink_errors" (Place.sequence Place.text) <*>
    .required "reached_eof" Place.flag <*>
    .required "cancelled" Place.flag <*>
    .withDefault "last_activity" (Place.optional Timestamp.read) none

/-- Reads the status of a pump. -/
def read : Place → Read PumpStatus := Place.record "struct PumpStatus" fields

/-- The status of a pump as data. -/
def data (s : PumpStatus) : Value :=
  .record [("bytes_captured", .integer s.bytesCaptured), ("chunks", .integer s.chunks),
    ("read_errors", .list (s.readErrors.map .text)),
    ("sink_errors", .list (s.sinkErrors.map .text)),
    ("reached_eof", .bool s.reachedEof), ("cancelled", .bool s.cancelled),
    ("last_activity", (s.lastActivity.map Timestamp.data).getD .null)]

end Output.PumpStatus

/-! ### Reports -/

namespace SessionReport

/-- The fields of a report. -/
def fields : Fields Place SessionReport :=
  SessionReport.mk <$>
    .required "session_id" Place.text <*>
    .required "status" SessionStatus.read <*>
    .required "started_at" Timestamp.read <*>
    .required "duration_ms" (Place.natural 0x10000000000000000 "u64") <*>
    .required "steps_completed" (Place.natural 0x10000000000000000 "usize") <*>
    .withDefault "failure" (Place.optional SessionFailure.read) none <*>
    .required "output_bytes" (Place.natural 0x10000000000000000 "usize") <*>
    .withDefault "read_errors" (Place.sequence Place.text) [] <*>
    .required "transitions" (Place.sequence Transition.read) <*>
    .required "output" Place.text

/-- Reads a report. -/
def read : Place → Read SessionReport := Place.record "struct SessionReport" fields

/-- A report as data. -/
def data (r : SessionReport) : Value :=
  .record ([("session_id", .text r.id), ("status", r.status.data),
    ("started_at", r.startedAt.data), ("duration_ms", .integer r.durationMillis),
    ("steps_completed", .integer r.stepsCompleted)] ++
    (match r.failure with
      | some f => [("failure", f.data)]
      | none => []) ++
    [("output_bytes", .integer r.outputBytes)] ++
    (if r.readErrors.isEmpty then [] else [("read_errors", .list (r.readErrors.map .text))]) ++
    [("transitions", .list (r.transitions.map Transition.data)), ("output", .text r.output)])

/-- The text of a report. -/
def render (r : SessionReport) : String := r.data.render

end SessionReport
end GuestHarness
