import GuestHarness.Exit
import GuestHarness.FileTree
import GuestHarness.Output.Reader
import GuestHarness.ProcessNumber
import GuestHarness.Sequencer

/-!
Targets: what a session talks to. A target is written to like any input stream; besides it has an
end, reacts to signals and to the end of its input, and delivers output. A child is a target whose
end is recorded once, and which is left alone from then on. The system may refuse to send a signal
and fail to tell the end; a child goes on without.
-/

namespace GuestHarness

/-! ### Targets -/

/-- A running program: its number, its end if it has come, what the system answers when it is asked
for the end, when somebody waits for the end and when a signal is to go to a number, what killing
the program and the end of its input come to, the output that was delivered up to now, the loss of
whoever reads it, and the files around it. -/
class Target (τ : Type) extends InputStream τ where
  pid : τ → UInt32
  exit? : τ → Option ExitInfo
  pollExit : τ → Except IoError (Option ExitInfo) × τ
  awaitExit : Instant → τ → Except IoError (Option ExitInfo) × τ
  signal : SignalCall (StateM τ)
  kill : τ → Except IoError Unit × τ
  closeInput : τ → τ
  traces : τ → List Output.Trace
  stopReading : τ → τ
  files : τ → FileTree

/-! ### Children -/

/-- A target together with its end, if that was noticed, and whether its input is still open. -/
structure Child (τ : Type) where
  target : τ
  exit : Option ExitInfo := none
  inputOpen : Bool := true

namespace Child

variable {τ : Type} [Target τ]

/-- The moment up to which the target has run. -/
def now (c : Child τ) : Instant := InputStream.now c.target

/-- What a call for the end of the target comes to. An end that it finds is recorded. -/
def record (c : Child τ) :
    Except IoError (Option ExitInfo) × τ → Except HarnessError (Option ExitInfo) × Child τ
  | (.ok exit, t) => (.ok exit, { c with target := t, exit := exit })
  | (.error e, t) => (.error (.io e), { c with target := t })

/-- Looks whether the target has ended. -/
def lookForExit (c : Child τ) : Except HarnessError (Option ExitInfo) × Child τ :=
  if c.exit.isSome then (.ok c.exit, c) else c.record (Target.pollExit c.target)

/-- Waits for the end of the target, until a moment at most. An end at that moment counts. -/
def awaitExit (c : Child τ) (deadline : Instant) :
    Except HarnessError (Option ExitInfo) × Child τ :=
  if c.exit.isSome then (.ok c.exit, c) else c.record (Target.awaitExit deadline c.target)

/-- Kills the target, unless it is known to have ended. -/
def requestKill (c : Child τ) : Except HarnessError Unit × Child τ :=
  if c.exit.isSome then (.ok (), c)
  else
    let (reply, t) := Target.kill c.target
    (reply.mapError fun e => .signal (Target.pid c.target).toNat ("kill failed: " ++ e.message),
      { c with target := t })

/-- Asks the target to end by its number, and tells whether the request reached somebody. -/
def requestEnd (c : Child τ) : Except HarnessError Bool × Child τ :=
  let (reply, t) := (GuestHarness.requestEnd Target.signal (Target.pid c.target)).run c.target
  (reply, { c with target := t })

/-- Asks whether there is a process with the number of the target. -/
def requestExistence (c : Child τ) : Except HarnessError Bool × Child τ :=
  let (reply, t) := (GuestHarness.requestExistence Target.signal (Target.pid c.target)).run c.target
  (reply, { c with target := t })

/-- The child when somebody has looked whether its target has ended. -/
def tryReap (c : Child τ) : Child τ := c.lookForExit.2

/-- The child when somebody has waited for the end of its target. -/
def waitUntil (c : Child τ) (deadline : Instant) : Child τ := (c.awaitExit deadline).2

/-- The child when its target was killed. -/
def startKill (c : Child τ) : Child τ := c.requestKill.2

/-- The child when its target was asked to end. -/
def askToEnd (c : Child τ) : Child τ := c.requestEnd.2

/-- Closes the input of the target. -/
def closeInput (c : Child τ) : Child τ :=
  if c.inputOpen then { c with target := Target.closeInput c.target, inputOpen := false } else c

end Child

/-! ### Termination -/

/-- How long a target that was killed is waited for. -/
def forceKillTimeout : Duration := .ofSeconds 3

namespace Child

variable {τ : Type} [Target τ]

/-- Kills the target and waits for its end. -/
def forceKill (c : Child τ) : Except Clock.Overflow (Child τ) := do
  let c := c.startKill
  return c.waitUntil (← Clock.deadline c.now forceKillTimeout)

/-- Asks the target to end, and tells whether the system took the request, also if nobody was there
to get it. If it was refused, the system is asked whether there is such a process; nothing hangs on
what it answers. -/
def signalEnd (c : Child τ) : Bool × Child τ :=
  match c.requestEnd with
  | (.ok _, c) => (true, c)
  | (.error _, c) => (false, c.requestExistence.2)

/-- Brings a target to its end. One that has ended is left alone, and one whose deadline has passed
is killed. Any other is asked to end, and killed if it has not done so when the grace window or the
time up to the deadline is over. If it cannot be asked, it is killed without being waited for. -/
def terminate (c : Child τ) (graceWindow : Duration) (deadline : Instant) :
    Except Clock.Overflow (SessionStatus × Child τ) := do
  let c := c.tryReap
  match c.exit with
  | some exit => return (.exitedBeforeSignal exit, c)
  | none =>
    if deadline ≤ c.now then return (.timedOut, ← c.forceKill)
    let (signalled, c) := c.signalEnd
    let c := c.closeInput
    let graceEnd ← Clock.deadline c.now graceWindow
    let c := if signalled then c.waitUntil (min deadline graceEnd) else c
    match c.exit with
    | some exit => return (.exitedAfterSignal exit, c)
    | none => return (if deadline ≤ c.now then .timedOut else .forceKilled, ← c.forceKill)

end Child
end GuestHarness
