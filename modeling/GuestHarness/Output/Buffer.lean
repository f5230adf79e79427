import GuestHarness.Clock
import GuestHarness.Search
import GuestHarness.Text.Lossy

/-!
The buffer of captured output. Bytes are only ever added to it, it is closed once, and an
observer can wait until a pattern has arrived.
-/

namespace GuestHarness

/-- The output captured so far, and whether more can come. -/
structure OutputBuffer where
  data : Bytes := []
  closed : Bool := false
deriving DecidableEq

namespace OutputBuffer

/-- A buffer that holds nothing. -/
def empty : OutputBuffer := {}

/-- Adds bytes at the end. -/
def append (b : OutputBuffer) (chunk : Bytes) : OutputBuffer := { b with data := b.data ++ chunk }

/-- Declares the output complete. -/
def close (b : OutputBuffer) : OutputBuffer := { b with closed := true }

/-- The number of bytes. -/
def length (b : OutputBuffer) : Nat := b.data.length

/-- The captured bytes as text. -/
def text (b : OutputBuffer) : String := Text.lossy b.data

/-- The pattern occurs in the captured bytes. -/
def contains (b : OutputBuffer) (pattern : Bytes) : Bool := occurs pattern b.data

/-- A short description. -/
def render (b : OutputBuffer) : String :=
  "OutputBuffer \x7b len: " ++ Text.decimal b.length ++ ", closed: " ++
    (if b.closed then "true" else "false") ++ " \x7d"

/-! ### Waiting for a pattern -/

/-- Something that is done to a buffer. -/
inductive Action where
  | append (chunk : Bytes)
  | close
deriving DecidableEq

/-- A buffer after an action. -/
def apply (b : OutputBuffer) : Action → OutputBuffer
  | .append chunk => b.append chunk
  | .close => b.close

/-- What others do to a buffer and when, in the order of the moments; what stands together
happens at one moment. -/
abbrev Schedule := List (Instant × List Action)

/-- Files single actions under their moments. An action that is listed late happens late. -/
def Schedule.ofList (start : Instant) : List (Instant × Action) → Schedule
  | [] => []
  | (t, a) :: rest =>
    let now := max start t
    match Schedule.ofList now rest with
    | (u, actions) :: later =>
      if u = now then (now, a :: actions) :: later else (now, [a]) :: (u, actions) :: later
    | [] => [(now, [a])]

/-- The end of a wait: the verdict, its moment, the buffer then, and what is still to happen. -/
structure Waited where
  found : Bool
  moment : Instant
  buffer : OutputBuffer
  later : Schedule
deriving DecidableEq

/-- Waits for a pattern until the deadline. The buffer is looked at now and after each moment at
which something was done to it; a closed buffer ends the wait. -/
def waitUntil (pattern : Bytes) (deadline : Instant) :
    Instant → OutputBuffer → Schedule → Waited
  | now, b, [] =>
    if b.contains pattern then ⟨true, now, b, []⟩
    else if b.closed then ⟨false, now, b, []⟩
    else ⟨false, max now deadline, b, []⟩
  | now, b, (t, actions) :: rest =>
    if b.contains pattern then ⟨true, now, b, (t, actions) :: rest⟩
    else if b.closed then ⟨false, now, b, (t, actions) :: rest⟩
    else if deadline ≤ t then ⟨false, max now deadline, b, (t, actions) :: rest⟩
    else waitUntil pattern deadline t (actions.foldl apply b) rest

/-- Waits for a pattern, at most as long as given. -/
def waitFor (b : OutputBuffer) (pattern : Bytes) (timeout : Duration) (now : Instant)
    (schedule : Schedule) : Except Clock.Overflow Waited := do
  let deadline ← Clock.deadline now timeout
  return waitUntil pattern deadline now b schedule

end OutputBuffer
end GuestHarness
