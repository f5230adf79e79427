import GuestHarness.Clock
import GuestHarness.Emulator
import GuestHarness.Exit
import GuestHarness.FileTree
import GuestHarness.Machine.Filter
import GuestHarness.Shell.Task
import GuestHarness.Signal

/-!
A machine with processes on it. Processes hold descriptors, which lead to files, to pipes and to
the console whose output is recorded; who holds an end of a pipe is asked of the descriptors, so
that a pipe is broken exactly when nobody holds its reading end.
-/

namespace GuestHarness

namespace Machine

/-! ### Descriptors -/

/-- What a descriptor leads to. -/
inductive Handle where
  | console
  | null
  | zero
  | reading (pipe : Nat)
  | writing (pipe : Nat)
  | file (number : Nat)
deriving DecidableEq

/-- An open file: its place and the position in it. What is added goes to the end. -/
structure OpenFile where
  place : List String
  position : Nat := 0
  adds : Bool := false

/-! ### Processes -/

/-- Something that a program other than a shell has to do. -/
inductive Work where
  | write (target : Nat) (bs : Bytes)
  | overflow (target : Nat) (bs : Bytes)
  | pause (nanos : Nat)
  | asleep
  | filter (f : Filter) (source : Nat) (copies : List Nat) (kept : Bytes)
  | serve (e : Emulator) (console : Console) (lines : Nat) (hasInput : Bool)
  | exit (code : Nat)

/-- What a process does: it starts a program, runs a script, or works. -/
inductive Activity where
  | starting (argv : List String)
  | shell (s : Shell.State)
  | working (todo : List Work)

/-- What a process waits for. A signal for which it has made arrangements may end the wait. -/
inductive Wait where
  | moment (t : Instant)
  | data (h : Handle) (attentive : Bool)
  | room (h : Handle)
  | children (pids : List Nat) (attentive : Bool)
  | signal

/-- A process: who started it, its descriptors, working directory and variables, the signals that
it ignores, those it has made arrangements for and those of them that have come, whether it is
stopped, what it does and waits for, and how it ended, if it has. -/
structure Process where
  pid : Nat
  parent : Nat
  descriptors : List (Nat × Handle)
  directory : List String
  environment : List (String × String)
  ignored : List Signal := []
  caught : List Signal := []
  pending : List Signal := []
  stopped : Bool := false
  activity : Activity
  wait : Wait
  ended : Option ExitInfo := none

end Machine

/-- A machine: its clock, the processes that are not forgotten yet, the pipes with what is in
them, the open files, the files, the next number to give away, the handles held from outside,
whether the console is listened to, what was said on it, latest first, and the moment at which
the last process let go of it. -/
structure Machine where
  now : Instant
  processes : List Machine.Process := []
  pipes : List (Nat × Bytes) := []
  openFiles : List (Nat × Machine.OpenFile) := []
  files : FileTree
  next : Nat := 1000
  held : List Machine.Handle := []
  listened : Bool := true
  said : List (Instant × Bytes) := []
  silentSince : Option Instant := none

namespace Machine

/-! ### Looking -/

/-- The process with a number. -/
def process? (m : Machine) (pid : Nat) : Option Process := m.processes.find? (·.pid = pid)

/-- The handle behind a descriptor. -/
def Process.handle? (p : Process) (n : Nat) : Option Handle := p.descriptors.lookup n

/-- Somebody holds a handle. -/
def isHeld (m : Machine) (h : Handle) : Bool :=
  m.held.contains h || m.processes.any fun p => p.descriptors.any (·.2 = h)

/-- The number of bytes that a pipe holds. -/
def pipeSize : Nat := 65536

/-- What is in a pipe. -/
def content (m : Machine) (pipe : Nat) : Bytes := (m.pipes.lookup pipe).getD []

/-- Reading from a handle does not block. -/
def isReadable (m : Machine) : Handle → Bool
  | .reading pipe => !(m.content pipe).isEmpty || !m.isHeld (.writing pipe)
  | .console => false
  | _ => true

/-- Writing to a handle does not block. -/
def isWritable (m : Machine) : Handle → Bool
  | .writing pipe => (m.content pipe).length < pipeSize || !m.isHeld (.reading pipe)
  | _ => true

/-- The process has ended. -/
def hasEnded (m : Machine) (pid : Nat) : Bool :=
  match m.process? pid with
  | some p => p.ended.isSome
  | none => true

/-! ### Changing -/

/-- Puts a process in its place. -/
def put (m : Machine) (p : Process) : Machine :=
  { m with processes := m.processes.map fun q => if q.pid = p.pid then p else q }

/-- Notes the moment at which nobody holds the console any more. -/
def noteSilence (m : Machine) : Machine :=
  if m.silentSince.isNone && !m.isHeld .console then { m with silentSince := some m.now } else m

/-- Ends a process. What it held is let go. -/
def finish (m : Machine) (p : Process) (exit : ExitInfo) : Machine :=
  (m.put { p with descriptors := [], ended := some exit, pending := [] }).noteSilence

/-- Forgets processes that have ended. -/
def forget (m : Machine) (pids : List Nat) : Machine :=
  { m with processes := m.processes.filter fun p => !pids.contains p.pid }

/-- Replaces what is in a pipe. -/
def setContent (m : Machine) (pipe : Nat) (bs : Bytes) : Machine :=
  { m with pipes := (pipe, bs) :: m.pipes.filter (·.1 ≠ pipe) }

/-- Makes a pipe. -/
def openPipe (m : Machine) : Nat × Machine :=
  (m.next, { m with pipes := (m.next, []) :: m.pipes, next := m.next + 1 })

/-- Opens a file that stands at a place. -/
def openPlace (m : Machine) (f : OpenFile) : Handle × Machine :=
  (.file m.next, { m with openFiles := (m.next, f) :: m.openFiles, next := m.next + 1 })

/-- Sets an open file. -/
def setOpen (m : Machine) (n : Nat) (f : OpenFile) : Machine :=
  { m with openFiles := (n, f) :: m.openFiles.filter (·.1 ≠ n) }

/-- Sets a descriptor. -/
def Process.connect (p : Process) (n : Nat) (h : Handle) : Process :=
  { p with descriptors := (n, h) :: p.descriptors.filter (·.1 ≠ n) }

/-- Lets go of a descriptor. -/
def Process.disconnect (p : Process) (n : Nat) : Process :=
  { p with descriptors := p.descriptors.filter (·.1 ≠ n) }

/-! ### Reading and writing -/

/-- What reading comes to. -/
inductive Got where
  | data (bs : Bytes)
  | ended
  | blocked
  | failed

/-- Reads at most so many bytes. -/
def read (m : Machine) (h : Handle) (most : Nat) : Got × Machine :=
  match h with
  | .console => (.blocked, m)
  | .null => (.ended, m)
  | .zero => (.data (List.replicate most 0), m)
  | .writing _ => (.failed, m)
  | .reading pipe =>
    match m.content pipe with
    | [] => (if m.isHeld (.writing pipe) then .blocked else .ended, m)
    | bs => (.data (bs.take most), m.setContent pipe (bs.drop most))
  | .file n =>
    match m.openFiles.lookup n with
    | none => (.failed, m)
    | some f =>
      match m.files.entryAt f.place with
      | some (.file content _) =>
        match (content.drop f.position).take most with
        | [] => (.ended, m)
        | bs => (.data bs, m.setOpen n { f with position := f.position + bs.length })
      | _ => (.failed, m)

/-- What writing comes to. -/
inductive Put where
  | done (n : Nat)
  | broken
  | blocked
  | failed

/-- Writes as many bytes as there is room for. -/
def write (m : Machine) (h : Handle) (bs : Bytes) : Put × Machine :=
  match h with
  | .console =>
    if m.listened then (.done bs.length, { m with said := (m.now, bs) :: m.said })
    else (.broken, m)
  | .null => (.done bs.length, m)
  | .zero => (.done bs.length, m)
  | .reading _ => (.failed, m)
  | .writing pipe =>
    let room := pipeSize - (m.content pipe).length
    if !m.isHeld (.reading pipe) then (.broken, m)
    else if room = 0 then (.blocked, m)
    else (.done (min room bs.length), m.setContent pipe (m.content pipe ++ bs.take room))
  | .file n =>
    match m.openFiles.lookup n with
    | none => (.failed, m)
    | some f =>
      match m.files.entryAt f.place with
      | some (.file content executable) =>
        let start := if f.adds then content.length else f.position
        let gap := List.replicate (start - content.length) 0
        let content := content.take start ++ gap ++ bs ++ content.drop (start + bs.length)
        let m := { m with files := m.files.insert f.place (.file content executable) }
        (.done bs.length, m.setOpen n { f with position := start + bs.length })
      | _ => (.failed, m)

/-! ### Signals -/

/-- A signal does to a process what it does if no arrangements are made, or is kept for it. -/
def deliver (m : Machine) (p : Process) (n : Signal) : Machine :=
  if n = Signal.kill then m.finish p (.killed n)
  else if p.ignored.contains n && !Signal.isFirm n then m.put p
  else if p.caught.contains n && !Signal.isFirm n then
    m.put { p with pending := if p.pending.contains n then p.pending else p.pending ++ [n] }
  else if Signal.isHarmless n then m.put p
  else if Signal.isStop n then m.put { p with stopped := true }
  else m.finish p (.killed n)

/-- A signal arrives at a process. One that is stopped only obeys those that cannot be put off and
the one that lets it go on; the others are kept until then. -/
def signalProcess (m : Machine) (p : Process) (n : Signal) : Machine :=
  if p.ended.isSome then m
  else if n = Signal.cont then
    let kept := p.pending
    let p := { p with stopped := false, pending := [] }
    (n :: kept).foldl (fun m k =>
      match m.process? p.pid with
      | some p => if p.ended.isSome then m else m.deliver p k
      | none => m) (m.put p)
  else if p.stopped && n ≠ Signal.kill then m.put { p with pending := p.pending ++ [n] }
  else m.deliver p n

/-- Sends a signal to the process with a number, if there is one. Zero only asks for it. -/
def signal (m : Machine) (pid : Nat) (n : Signal) : Bool × Machine :=
  match m.process? pid with
  | none => (false, m)
  | some p => (true, if n = 0 then m else m.signalProcess p n)

/-! ### New processes -/

/-- The time that a new process takes to begin. -/
def forkCost : Nat := 300000

/-- The time that a program takes to begin. -/
def startCost : Nat := 1000000

/-- The time that a small step takes. -/
def stepCost : Nat := 10000

/-- Starts a process that does something, with given descriptors. -/
def spawn (m : Machine) (parent : Process) (descriptors : List (Nat × Handle))
    (activity : Activity) : Nat × Machine :=
  let child : Process :=
    { pid := m.next, parent := parent.pid, descriptors := descriptors
      directory := parent.directory, environment := parent.environment
      ignored := parent.ignored, activity := activity, wait := .moment (m.now + forkCost) }
  (m.next, { m with processes := m.processes ++ [child], next := m.next + 1 })

/-! ### Readiness -/

/-- The moment at which a process can go on, if it is in sight. -/
def Process.ready? (m : Machine) (p : Process) : Option Instant :=
  if p.ended.isSome || p.stopped then none
  else
    let onceIf := fun (b : Bool) => if b then some m.now else none
    match p.wait with
    | .moment t => some (max m.now t)
    | .data h attentive => onceIf (m.isReadable h || (attentive && !p.pending.isEmpty))
    | .room h => onceIf (m.isWritable h)
    | .children pids attentive =>
      onceIf (pids.all m.hasEnded || (attentive && !p.pending.isEmpty))
    | .signal => onceIf (!p.pending.isEmpty)

end Machine
end GuestHarness
