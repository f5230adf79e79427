import GuestHarness.Host
import GuestHarness.Launch
import GuestHarness.Machine.Schedule
import GuestHarness.Target

/-!
Guests: targets that run on a machine. The machine runs while its guest is waited for or written
to; the guest reads from a pipe, and everything that is said on the console of the machine is its
output.
-/

namespace GuestHarness

/-- A machine and the number of the process on it that was launched. -/
structure Guest where
  machine : Machine
  pid : Nat

namespace Guest

open Machine (Handle)

/-! ### Launching -/

/-- The longest word, in bytes, that a command line or a variable may have. -/
def maxWord : Nat := 131071

/-- The number of the pipe that a guest reads. -/
def inputPipe : Nat := 0

/-- The words of a command line and its variables. -/
def words (spec : LaunchSpec) : List String :=
  spec.executable :: spec.args ++ spec.workingDirectory.toList ++
    spec.environment.map fun v => v.1 ++ "=" ++ v.2

/-- Finds out whether a program can be started. -/
def startable (files : FileTree) (spec : LaunchSpec) : Except String Unit := do
  (spec.check files).mapError fun f => f.toError.message
  if (words spec).any fun w => w.toList.contains '\x00' then
    throw "nul byte found in provided data"
  let path := (spec.environment.lookup "PATH").getD Machine.defaultPath
  match Machine.programFile files path spec.executable with
  | .error e => throw e.message
  | .ok _ =>
    if (words spec).any fun w => maxWord < Text.byteLength w then
      throw Errno.argumentsTooLong.message

/-- Starts a command line on a machine of its own. -/
def launch (now : Instant) (files : FileTree) (spec : LaunchSpec) : Except HarnessError Guest := do
  (startable files spec).mapError (.spawn spec.executable)
  let directory := match spec.workingDirectory with
    | some dir => (files.locate dir).toOption.getD files.cwd
    | none => files.cwd
  let own := Host.environment.filter fun v => !spec.environment.any (·.1 = v.1)
  let p : Machine.Process :=
    { pid := 1000, parent := 1
      descriptors := [(0, .reading inputPipe), (1, .console), (2, .console)]
      directory := directory, environment := own ++ spec.environment
      activity := .starting (spec.executable :: spec.args)
      wait := .moment (now + Machine.startCost) }
  return ⟨{ now := now, processes := [p], pipes := [(inputPipe, [])], files := files, next := 1001
            held := [.writing inputPipe] }, 1000⟩

/-! ### Running -/

/-- How the process that was launched ended, if it has. -/
def exit? (g : Guest) : Option ExitInfo := (g.machine.process? g.pid).bind (·.ended)

/-- Lets the machine run until a moment, or until it is as it is wanted. -/
def runUntil (g : Guest) (wanted : Machine → Bool) (limit : Instant) : Guest :=
  { g with machine := g.machine.runUntil wanted limit }

/-- The latest moment for which a machine is run without a limit. -/
def horizon (g : Guest) : Instant := g.machine.now + Clock.farFuture

/-- The input takes bytes, or refuses them. -/
def takesInput (m : Machine) : Bool := m.isWritable (.writing inputPipe)

/-- Writes to the guest's input as much as it takes at once. -/
def offer (g : Guest) (bs : Bytes) : Reply Nat × Guest :=
  match g.machine.write (.writing inputPipe) bs with
  | (.done n, m) => (.done n, { g with machine := m })
  | (.blocked, _) => (.cut, g)
  | (_, _) => (.failed Errno.brokenPipe, g)

theorem offer_failed {bs : Bytes} {g g' : Guest} {e : IoError}
    (h : g.offer bs = (.failed e, g')) : e = Errno.brokenPipe := by
  simp only [offer] at h
  split at h <;> simp_all

/-- Writes to the guest's input, by a moment if one is given. -/
def write (limit : Option Instant) (bs : Bytes) (g : Guest) : Reply Nat × Guest :=
  (g.runUntil takesInput (limit.getD g.horizon)).offer bs

/-- Lets the machine run until its guest has ended, or until a moment. -/
def untilEnd (limit : Instant) (g : Guest) : Guest := g.runUntil (fun m => m.hasEnded g.pid) limit

/-- Sends a signal to whom a whole number addresses. Nobody but single processes is known here. -/
def signal : SignalCall (StateM Guest) := fun n s g =>
  match Addressee.ofInt n with
  | .process number =>
    match g.machine.signal number (s.getD 0) with
    | (true, m) => (.ok (), { g with machine := m })
    | (false, _) => (.error .unknown, g)
  | _ => (.error .unknown, g)

/-- The output that was delivered up to now. -/
def trace (g : Guest) : Output.Trace :=
  (g.machine.said.reverse.flatMap fun (t, bs) =>
    (Output.chunksOf bs).map fun c => (t, .chunk c)) ++
    (g.machine.silentSince.map fun t => (t, Output.ReadEvent.ended)).toList

/-- The bytes of the output. -/
def output (g : Guest) : Bytes := g.machine.said.reverse.flatMap (·.2)

instance : Target Guest where
  now g := g.machine.now
  captured := output
  write := write
  flush _ g := (.done (), g)
  sleep moment g := g.runUntil (fun _ => false) moment
  interruptions _ := 0
  interrupted_lt _ _ _ _ _ h i := by rw [offer_failed h] at i; exact absurd i (by decide)
  pid g := UInt32.ofNat g.pid
  exit? := exit?
  pollExit g := (.ok g.exit?, g)
  awaitExit limit g := (.ok (g.untilEnd limit).exit?, g.untilEnd limit)
  signal := signal
  kill g := (.ok (), { g with machine := (g.machine.signal g.pid Signal.kill).2 })
  closeInput g := { g with machine := { g.machine with held := [] } }
  traces g := [g.trace]
  stopReading g := { g with machine := { g.machine with listened := false } }
  files g := g.machine.files

end Guest
end GuestHarness
