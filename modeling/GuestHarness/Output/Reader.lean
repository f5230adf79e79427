import GuestHarness.Clock
import GuestHarness.OsError
import GuestHarness.Text.Lossy

/-!
Reading an output stream to its end. What a stream delivers, and when, is a script; what its
reader makes of it is a trace of events. An interrupted read is made again at once, any other
failure is recorded and followed by a short delay, and only the end of the stream, a
cancellation or the loss of the reader ends a trace.
-/

namespace GuestHarness.Output

/-! ### Streams -/

/-- What a stream does when it is read: it delivers bytes, fails, is not ready for some time or
for ever, ends, or brings its reader down. A stream that has nothing more to do ends. -/
inductive StreamItem where
  | data (bytes : Bytes)
  | failure (error : IoError)
  | wait (nanos : Nat)
  | hang
  | eof
  | crash (message : String)
deriving DecidableEq

/-- What a stream does, in order. -/
abbrev StreamScript := List StreamItem

/-! ### Traces -/

/-- What a reader does: it records a chunk or a failed read, or it ends. -/
inductive ReadEvent where
  | chunk (bytes : Bytes)
  | failed (reason : String)
  | ended
  | cancelled
  | crashed (message : String)
deriving DecidableEq

namespace ReadEvent

/-- The event is the last of its reader. -/
def isFinal : ReadEvent → Bool
  | chunk _ => false
  | failed _ => false
  | ended => true
  | cancelled => true
  | crashed _ => true

end ReadEvent

/-- The events of a reader and their moments. -/
abbrev Trace := List (Instant × ReadEvent)

/-- The most bytes that one read takes. -/
def readChunkSize : Nat := 8192

/-- The delay after a failed read. -/
def readErrorBackoff : Nat := milliseconds 10

/-- The chunks in which bytes are read. -/
def chunksOf (bs : Bytes) : List Bytes :=
  if bs = [] then []
  else bs.take readChunkSize :: chunksOf (bs.drop readChunkSize)
termination_by bs.length
decreasing_by
  cases bs with
  | nil => contradiction
  | cons a rest => simp only [List.length_drop, List.length_cons, readChunkSize]; omega

/-- The trace of a reader that is left alone from the given moment on. -/
def trace (now : Instant) : StreamScript → Trace
  | [] => [(now, .ended)]
  | .data bs :: rest => (chunksOf bs).map (fun c => (now, .chunk c)) ++ trace now rest
  | .failure e :: rest =>
    if e.isInterrupted then trace now rest
    else (now, .failed e.message) :: trace (now + readErrorBackoff) rest
  | .wait nanos :: rest => trace (now + nanos) rest
  | .hang :: _ => []
  | .eof :: _ => [(now, .ended)]
  | .crash message :: _ => [(now, .crashed message)]

/-- The trace of a reader that is cancelled at the given moment, if it has not ended before. -/
def cancelAt (moment : Instant) : Trace → Trace
  | [] => [(moment, .cancelled)]
  | (t, e) :: rest =>
    if t < moment then
      if e.isFinal then [(t, e)] else (t, e) :: cancelAt moment rest
    else [(moment, .cancelled)]

/-! ### Several readers -/

/-- An event of one of several readers. -/
structure Tagged where
  moment : Instant
  stream : Nat
  event : ReadEvent
deriving DecidableEq

/-- The events of one reader, marked with the number of its stream. -/
def tag (stream : Nat) (t : Trace) : List Tagged := t.map fun e => ⟨e.1, stream, e.2⟩

/-- Merges two lists of events by their moments; of events of one moment those of the first list
come first. -/
def merge : List Tagged → List Tagged → List Tagged
  | [], ys => ys
  | xs, [] => xs
  | x :: xs, y :: ys =>
    if x.moment ≤ y.moment then x :: merge xs (y :: ys) else y :: merge (x :: xs) ys

/-- The events of readers whose streams are numbered from the given number on. -/
def mergeFrom (stream : Nat) : List Trace → List Tagged
  | [] => []
  | t :: rest => merge (tag stream t) (mergeFrom (stream + 1) rest)

end GuestHarness.Output
