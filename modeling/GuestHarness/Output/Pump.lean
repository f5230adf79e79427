import GuestHarness.Error
import GuestHarness.Output.Buffer
import GuestHarness.Output.Reader
import GuestHarness.Output.Sink
import GuestHarness.Text.Quoted
import GuestHarness.Timestamp

/-!
The pump moves what the output streams of a target deliver into the buffer and to the sinks. Its
readers share one state, which each of their events changes in one step; so any order of the
readers' steps that keeps the order within each reader is a run of the pump. The pump is done
when all readers have ended, by themselves or because the time to drain the streams is over.
-/

namespace GuestHarness.Output

/-! ### The shared state -/

/-- What the readers of a pump share: the buffer, the counters, the errors, the number of readers
that have not ended, and the chunks sent on to the sinks. -/
structure PumpState where
  buffer : OutputBuffer
  bytes : Nat := 0
  chunks : Nat := 0
  readErrors : List String := []
  openStreams : Nat
  cancelled : Bool := false
  sent : List (Instant × Bytes) := []
  channelOpen : Bool := true
deriving DecidableEq

namespace PumpState

/-- The end of all streams: no more chunks are sent, and the buffer is closed. -/
def allClosed (s : PumpState) : PumpState :=
  { s with channelOpen := false, buffer := s.buffer.close }

/-- The state of a pump that is to read so many streams. -/
def start (buffer : OutputBuffer) (streams : Nat) : PumpState :=
  let s : PumpState := { buffer := buffer, openStreams := streams }
  if streams = 0 then s.allClosed else s

/-- Adds a chunk to the buffer and counts it. -/
def append (s : PumpState) (chunk : Bytes) : PumpState :=
  { s with
    buffer := s.buffer.append chunk, bytes := s.bytes + chunk.length, chunks := s.chunks + 1 }

/-- Sends a chunk on to the sinks. -/
def send (s : PumpState) (moment : Instant) (chunk : Bytes) : PumpState :=
  if s.channelOpen then { s with sent := s.sent ++ [(moment, chunk)] } else s

/-- Records the error of a read. -/
def addError (s : PumpState) (reason : String) : PumpState :=
  { s with readErrors := s.readErrors ++ [(HarnessError.read reason).message] }

/-- One reader has ended; the last one closes the buffer. -/
def streamClosed (s : PumpState) : PumpState :=
  let s' := { s with openStreams := s.openStreams - 1 }
  if s.openStreams = 1 then s'.allClosed else s'

/-- The state after an event of a reader. A reader that came down leaves no trace by itself. -/
def record (s : PumpState) (moment : Instant) : ReadEvent → PumpState
  | .chunk bs => (s.append bs).send moment bs
  | .failed reason => s.addError reason
  | .ended => s.streamClosed
  | .cancelled => { s with cancelled := true }.streamClosed
  | .crashed _ => s

/-- The state after several events. -/
def recordAll (s : PumpState) (events : List Tagged) : PumpState :=
  events.foldl (fun s e => s.record e.moment e.event) s

/-- All streams were read to their end. -/
def reachedEof (s : PumpState) : Bool := !s.cancelled && s.openStreams == 0

end PumpState

/-! ### Finishing -/

/-- What a pump has to say at its end. -/
structure PumpStatus where
  bytesCaptured : Nat
  chunks : Nat
  readErrors : List String
  sinkErrors : List String
  reachedEof : Bool
  cancelled : Bool
  lastActivity : Option Timestamp
deriving DecidableEq

/-- What a pump has to say in a state, given the errors of its sinks and the time of its last
chunk. -/
def PumpState.status (s : PumpState) (sinkErrors : List String)
    (lastActivity : Option Timestamp) : PumpStatus :=
  { bytesCaptured := s.bytes, chunks := s.chunks, readErrors := s.readErrors
    sinkErrors := sinkErrors, reachedEof := s.reachedEof, cancelled := s.cancelled
    lastActivity := lastActivity }

/-- The words for a task that came down with a message. -/
def crashText (message : String) : String := "task N panicked with message " ++ Text.quoted message

/-- The moment of the last event of a trace. -/
def endOf (default : Instant) (t : Trace) : Instant := (t.getLast?.map (·.1)).getD default

/-- The moments at which readers that are awaited in turn, from the given moment on, have all
ended up to each of them. -/
def joinMoments (now : Instant) : List Trace → List (Instant × Trace)
  | [] => []
  | t :: rest =>
    let joined := max now (endOf now t)
    (joined, t) :: joinMoments joined rest

/-- The errors of the readers that came down, which are noticed when they are awaited. -/
def joinErrors (joins : List (Instant × Trace)) : List Tagged :=
  joins.filterMap fun (joined, t) =>
    match t.getLast? with
    | some (_, .crashed message) =>
      some ⟨joined, 0, .failed ("pump task failed: " ++ crashText message)⟩
    | _ => none

/-- The errors of the sinks at the moment when they are no longer waited for. -/
def sinkErrorsAt (deadline : Instant) (w : SinkWorker) : List String :=
  let reported := (w.errors.filter (·.1 ≤ deadline)).map (·.2)
  if w.held || deadline < w.now then
    reported ++ ["sink worker did not finish within the drain timeout"]
  else
    match w.crash with
    | some message => reported ++ ["sink worker failed: " ++ crashText message]
    | none => reported

/-- The moment up to which a worker is waited for: its last, or the deadline if that comes first
or a sink holds the worker. -/
def waitedFor (deadline : Instant) (w : SinkWorker) : Instant :=
  if w.held then deadline else min deadline w.now

/-- The end of a pump: its status, its state, the moment, and the worker of the sinks. -/
structure PumpEnd where
  status : PumpStatus
  state : PumpState
  moment : Instant
  worker : SinkWorker

/-- Awaits the readers of a pump. Those that have not ended by the deadline are cancelled, then
the buffer is closed, and the sinks have what is left of the time. -/
def finishBy (buffer : OutputBuffer) (traces : List Trace) (worker : SinkWorker)
    (called deadline : Instant) (wallClock : Instant → Timestamp) : PumpEnd :=
  let traces := traces.map (cancelAt deadline)
  let joins := joinMoments called traces
  let joined := (joins.getLast?.map (·.1)).getD called
  let events := merge (mergeFrom 0 traces) (joinErrors joins)
  let state := ((PumpState.start buffer traces.length).recordAll events).allClosed
  let worker := worker.run state.sent joined
  let last := (events.filter fun e => e.event matches .chunk _).getLast?
  { status := state.status (if worker.sinks.isEmpty then [] else sinkErrorsAt deadline worker)
      (last.map fun e => wallClock e.moment)
    state := state
    moment := if worker.sinks.isEmpty then joined else max joined (waitedFor deadline worker)
    worker := worker }

/-- Finishes a pump within the given time. -/
def finish (buffer : OutputBuffer) (traces : List Trace) (worker : SinkWorker)
    (called : Instant) (drain : Duration) (wallClock : Instant → Timestamp) :
    Except Clock.Overflow PumpEnd := do
  let deadline ← Clock.deadline called drain
  return finishBy buffer traces worker called deadline wallClock

/-- The state of a pump at a moment, before anything happens at that moment. -/
def stateBefore (buffer : OutputBuffer) (traces : List Trace) (moment : Instant) : PumpState :=
  (PumpState.start buffer traces.length).recordAll
    ((mergeFrom 0 traces).filter fun e => e.moment < moment)

/-- The state of a pump whose handle is dropped at the given moment, when its readers have
ended. -/
def dropAt (buffer : OutputBuffer) (traces : List Trace) (moment : Instant) : PumpState :=
  let traces := traces.map (cancelAt moment)
  (PumpState.start buffer traces.length).recordAll (mergeFrom 0 traces)

end GuestHarness.Output
