import GuestHarness.Clock
import GuestHarness.Error
import GuestHarness.Output.Transcript

/-!
Sinks receive the captured chunks in the order of capture, one after the other, and are flushed
at the end. A sink that fails is asked again with the next chunk, and no failure of one sink
keeps a chunk from another.
-/

namespace GuestHarness.Output

/-! ### Sinks -/

/-- What a call on a sink comes to. One that hangs never comes back. -/
inductive SinkReply where
  | ok
  | failed (error : HarnessError)
  | crashed (message : String)
  | hangs
deriving DecidableEq

/-- The reply of a sink that writes to a file. -/
def SinkReply.ofError : Option IoError → SinkReply
  | none => .ok
  | some e => .failed (.io e)

/-- A sink whose replies are given: those to its writes by their number, and that to its flush.
Each write takes some time. -/
structure ScriptedSink where
  name : String
  onWrite : Nat → SinkReply
  onFlush : SinkReply
  delay : Nat
  writes : Nat := 0
  accepted : Bytes := []

/-- Where captured output goes besides the buffer: to a transcript file, to the console, or to a
sink whose replies are given. -/
inductive Sink where
  | transcript (t : Transcript)
  | echo (shown : Bytes)
  | scripted (s : ScriptedSink)

namespace Sink

/-- The name under which the errors of a sink are reported. -/
def name : Sink → String
  | transcript t => t.name
  | echo _ => "console"
  | scripted s => s.name

/-- The time that a write takes. -/
def delay : Sink → Nat
  | scripted s => s.delay
  | _ => 0

/-- Writes a chunk. -/
def write (chunk : Bytes) (files : FileTree) : Sink → SinkReply × Sink × FileTree
  | transcript t =>
    let (error, t, files) := t.write chunk files
    (.ofError error, transcript t, files)
  | echo shown => (.ok, echo (shown ++ chunk), files)
  | scripted s =>
    let reply := s.onWrite s.writes
    let accepted := if reply = .ok then s.accepted ++ chunk else s.accepted
    (reply, scripted { s with writes := s.writes + 1, accepted := accepted }, files)

/-- Flushes a sink. -/
def flush (files : FileTree) : Sink → SinkReply × Sink × FileTree
  | transcript t =>
    let (error, t, files) := t.flush files
    (.ofError error, transcript t, files)
  | echo shown => (.ok, echo shown, files)
  | scripted s => (s.onFlush, scripted s, files)

end Sink

/-! ### The worker -/

/-- The worker that serves the sinks: its clock, the sinks and files, the errors so far with
their moments, the message with which it came down, if it did, and whether a sink holds it for
ever. -/
structure SinkWorker where
  now : Instant
  sinks : List Sink
  files : FileTree
  errors : List (Instant × String) := []
  crash : Option String := none
  held : Bool := false

namespace SinkWorker

/-- The worker makes no more calls. -/
def isOut (w : SinkWorker) : Bool := w.crash.isSome || w.held

/-- Makes one call on each sink in turn, until one of them brings the worker down or holds it. -/
def serve (call : FileTree → Sink → SinkReply × Sink × FileTree) (cost : Sink → Nat)
    (w : SinkWorker) : SinkWorker :=
  go w w.sinks []
where
  /-- Serves the sinks that are left; those that were served are given in reverse. -/
  go (w : SinkWorker) : List Sink → List Sink → SinkWorker
    | [], served => { w with sinks := served.reverse }
    | sink :: rest, served =>
      let now := w.now + cost sink
      match call w.files sink with
      | (.ok, sink', files) => go { w with now := now, files := files } rest (sink' :: served)
      | (.failed e, sink', files) =>
        go { w with
              now := now, files := files
              errors := w.errors ++ [(now, sink.name ++ ": " ++ e.message)] }
          rest (sink' :: served)
      | (.crashed message, sink', files) =>
        { w with
          now := now, files := files, sinks := served.reverse ++ sink' :: rest
          crash := some message }
      | (.hangs, sink', files) =>
        { w with
          now := now, files := files, sinks := served.reverse ++ sink' :: rest, held := true }

/-- Hands a chunk to every sink, not before it was captured. -/
def takeChunk (w : SinkWorker) (moment : Instant) (chunk : Bytes) : SinkWorker :=
  if w.isOut then w
  else serve (fun files s => s.write chunk files) Sink.delay { w with now := max w.now moment }

/-- Flushes every sink, not before the last chunk could have come. -/
def finish (w : SinkWorker) (moment : Instant) : SinkWorker :=
  if w.isOut then w
  else serve (fun files s => s.flush files) (fun _ => 0) { w with now := max w.now moment }

/-- The worker's whole life: the chunks with the moments of their capture, and the moment after
which no more can come. -/
def run (w : SinkWorker) (chunks : List (Instant × Bytes)) (closed : Instant) : SinkWorker :=
  (chunks.foldl (fun w c => w.takeChunk c.1 c.2) w).finish closed

end SinkWorker
end GuestHarness.Output
