import GuestHarness.Guest
import GuestHarness.Output.Pump

/-!
A bench on which guests are tried out by hand, one at a time. The output of a guest is pumped into
a buffer from its start; the buffer stays when another guest is launched.
-/

namespace GuestHarness

/-- A bench: its clock, its files, the child on it, whether its output is being pumped, and the
buffer as it was when the pump was started. -/
structure Bench where
  now : Instant
  files : FileTree
  child : Option (Child Guest) := none
  pumping : Bool := false
  before : OutputBuffer := .empty

namespace Bench

/-- The events of the reader of the guest's output. -/
def traces (b : Bench) : List Output.Trace :=
  match b.child with
  | some c => if b.pumping then Target.traces c.target else []
  | none => []

/-- The buffer as it is now. -/
def buffer (b : Bench) : OutputBuffer :=
  if b.pumping then (Output.stateBefore b.before b.traces (b.now + 1)).buffer else b.before

/-- Puts a child on the bench, whose clock follows it. -/
def put (b : Bench) (c : Child Guest) : Bench := { b with child := some c, now := c.now }

/-- Launches a guest in the place of the one before it, whose output is given up. -/
def launch (b : Bench) (spec : LaunchSpec) : Except HarnessError Bench := do
  let guest ← Guest.launch b.now b.files spec
  let before := if b.pumping then b.buffer.close else b.before
  return { b with child := some { target := guest }, pumping := true, before := before }

/-- Lets a child run until a moment. -/
def advanced (c : Child Guest) (moment : Instant) : Child Guest :=
  { c with target := InputStream.sleep moment c.target }

/-- Waits until a pattern has arrived. -/
def waitForOutput (b : Bench) (pattern : Bytes) (timeout : Duration) :
    Except Clock.Overflow (Bool × Bench) := do
  let deadline ← Clock.deadline b.now timeout
  let late := match b.child with
    | some c => { b with child := some (advanced c deadline) }
    | none => b
  let schedule := late.traces.flatten.filterMap fun (t, e) =>
    if t ≤ b.now then none
    else
      match e with
      | .chunk bs => some (t, [OutputBuffer.Action.append bs])
      | .ended => some (t, [OutputBuffer.Action.close])
      | _ => none
  let waited := OutputBuffer.waitUntil pattern deadline b.now b.buffer schedule
  let b := match b.child with
    | some c => b.put (advanced c waited.moment)
    | none => { b with now := waited.moment }
  return (waited.found, b)

/-- Writes all of some bytes to the guest. There is no input if it was closed. -/
def write (b : Bench) (c : Child Guest) (bs : Bytes) : Option (Except IoError Unit) × Bench :=
  if !c.inputOpen then (none, b)
  else
    let (reply, g) := Sequencer.writePayload none bs c.target
    let b := b.put { c with target := g }
    match reply with
    | .failed e => (some (.error e), b)
    | _ => (some (.ok ()), b)

/-- Waits for the end of the guest. -/
def waitForExit (b : Bench) (c : Child Guest) (timeout : Duration) :
    Except Clock.Overflow Bench := do
  return b.put (c.waitUntil (← Clock.deadline b.now timeout))

/-- Brings the guest to its end, by a deadline that is so far away. -/
def terminate (b : Bench) (c : Child Guest) (graceWindow timeLeft : Duration) :
    Except Clock.Overflow (SessionStatus × Bench) := do
  let (status, c) ← c.terminate graceWindow (← Clock.deadline b.now timeLeft)
  return (status, b.put c)

/-- Finishes the pump. -/
def finish (b : Bench) (drain : Duration) :
    Except Clock.Overflow (Option Output.PumpStatus × Bench) := do
  match b.child with
  | none => return (none, b)
  | some c =>
    if !b.pumping then return (none, b)
    let deadline ← Clock.deadline b.now drain
    let late := { b with child := some (advanced c deadline) }
    let pump := Output.finishBy b.before late.traces { now := b.now, sinks := [], files := b.files }
      b.now deadline (fun _ => .epoch)
    let c := advanced c pump.moment
    let b := b.put { c with target := Target.stopReading c.target }
    return (some pump.status, { b with pumping := false, before := pump.state.buffer })

end Bench
end GuestHarness
