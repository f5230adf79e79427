import GuestHarness.Identifier
import GuestHarness.Launch
import GuestHarness.Script
import GuestHarness.Yaml.Problem

/-!
The configuration of a session: its name and time limits, what is launched, the monitor protocol,
the script, and where the output goes. A configuration determines a command line, a protocol and
a list of steps; a valid one has all of them.
-/

namespace GuestHarness

/-! ### Time limits -/

/-- The time limits of a session: for all of it up to the end of the target, for the target's
reaction to the polite signal, and for the last output. -/
structure SessionTiming where
  timeout : Duration := .ofSeconds 60
  graceWindow : Duration := .ofSeconds 2
  drainTimeout : Duration := .ofSeconds 1
deriving DecidableEq

/-! ### Sections -/

/-- The name and the time limits of a session. -/
structure SessionOptions where
  id : String
  timing : SessionTiming := {}
deriving DecidableEq

/-- The command line of an emulator, by its parts. -/
structure EmulatorConfig where
  executable : String := "qemu-system-riscv64"
  machine : String := "virt"
  cpu : String := "rv64,h=true"
  bios : String := "default"
  smp : Nat := 1
  memory : String := "128M"
  kernel : String
  nographic : Bool := true
  serial : String := "mon:stdio"
  noReboot : Bool := true
  extraArgs : List String := []
  workingDirectory : Option String := none
  environment : Environment := []
deriving DecidableEq

/-- A step of a script as it is configured. -/
inductive StepConfig where
  | pause (duration : Duration)
  | escape (settle : Duration)
  | command (text : String) (settle : Duration)
  | send (text : String) (settle : Duration)
deriving DecidableEq

/-- The text that switches between console and monitor. -/
structure ProtocolConfig where
  escape : String := "\x01c"
deriving DecidableEq

/-- Where the output goes while the session runs. -/
structure CaptureConfig where
  outputFile : Option String := none
  echo : Bool := false
deriving DecidableEq

/-- The configuration of a session. The launch is given by an emulator or by a plain command line;
without a script the default one runs. -/
structure HarnessConfig where
  session : SessionOptions
  emulator : Option EmulatorConfig := none
  launch : Option LaunchSpec := none
  protocol : ProtocolConfig := {}
  steps : Option (List StepConfig) := none
  capture : CaptureConfig := {}
deriving DecidableEq

/-! ### Faults -/

/-- Why a configuration cannot be used. -/
inductive ConfigFault where
  | unreadable (path : String) (reason : String)
  | malformed (e : Yaml.ReadError)
  | invalidId (f : IdentifierFault)
  | zeroTimeout
  | zeroGraceWindow
  | graceWindowTooLong (graceWindow timeout : Duration)
  | bothLaunches
  | noLaunch
  | notOneLaunch
  | blankLaunchExecutable
  | blankEmulatorExecutable
  | blankKernel
  | noProcessors
  | blankMemory
  | emptyEscape
  | emptyCommand (index : Nat)
  | brokenCommand (index : Nat) (text : String)
  | emptySend (index : Nat)
  | invalidProtocol (e : HarnessError)
  | noTranscript (e : IoError)

namespace ConfigFault

/-- The wording of a fault in a step. -/
def ofStep (index : Nat) (what : String) : String := "Step " ++ Text.decimal index ++ ": " ++ what

/-- The wording of a fault. -/
def message : ConfigFault → String
  | unreadable path _ => "Failed to read config file: " ++ path
  | malformed _ => "Failed to parse YAML configuration"
  | invalidId _ => "Invalid session id"
  | zeroTimeout => "Session timeout must be greater than 0"
  | zeroGraceWindow => "Grace window must be greater than 0"
  | graceWindowTooLong graceWindow timeout =>
    "Grace window (" ++ graceWindow.render ++ ") must be shorter than the session timeout (" ++
      timeout.render ++ ")"
  | bothLaunches => "Only one of `emulator` or `launch` should be specified"
  | noLaunch => "Either `emulator` or `launch` must be specified"
  | notOneLaunch => "Exactly one of `emulator` or `launch` must be configured"
  | blankLaunchExecutable => "Launch executable cannot be empty"
  | blankEmulatorExecutable => "Emulator executable cannot be empty"
  | blankKernel => "Emulator kernel image cannot be empty"
  | noProcessors => "Emulator smp must be at least 1"
  | blankMemory => "Emulator memory size cannot be empty"
  | emptyEscape => "Monitor escape sequence cannot be empty"
  | emptyCommand index => ofStep index "command text cannot be empty"
  | brokenCommand index text =>
    ofStep index "command text must not contain a newline (one is appended): " ++ Text.quoted text
  | emptySend index => ofStep index "send text cannot be empty"
  | invalidProtocol _ => "Invalid protocol configuration"
  | noTranscript e => (HarnessError.io e).message

/-- The wording of what caused a fault, outermost first. There is no wording for a fault of the
text itself. -/
def causes : ConfigFault → List (Option String)
  | unreadable _ reason => [some reason]
  | malformed e => [e.message?]
  | invalidId f => [some f.toError.message]
  | invalidProtocol e => [some e.message]
  | noTranscript e => [some e.message]
  | _ => []

end ConfigFault

/-! ### What a configuration stands for -/

namespace EmulatorConfig

/-- The arguments of an emulator. -/
def args (e : EmulatorConfig) : List String :=
  ["-machine", e.machine, "-cpu", e.cpu, "-bios", e.bios, "-smp", Text.decimal e.smp,
    "-m", e.memory] ++
  (if e.nographic then ["-nographic"] else []) ++
  ["-serial", e.serial] ++
  (if e.noReboot then ["--no-reboot"] else []) ++
  e.extraArgs ++
  ["-kernel", e.kernel]

/-- The command line of an emulator. -/
def launchSpec (e : EmulatorConfig) : LaunchSpec :=
  { executable := e.executable, args := e.args
    workingDirectory := e.workingDirectory, environment := e.environment }

end EmulatorConfig

/-- The step of a script that a configured step stands for. -/
def StepConfig.toStep (p : MonitorProtocol) : StepConfig → CommandStep
  | pause d => .pause d
  | escape settle => .breakIntoMonitor p settle
  | command text settle => .monitorCommand text settle
  | send text settle => .send (Text.bytes text) settle

namespace HarnessConfig

/-- The time limits. -/
def timing (c : HarnessConfig) : SessionTiming := c.session.timing

/-- The command line. -/
def launchSpec (c : HarnessConfig) : Except ConfigFault LaunchSpec :=
  match c.emulator, c.launch with
  | some emulator, none => .ok emulator.launchSpec
  | none, some launch => .ok launch
  | _, _ => .error .notOneLaunch

/-- The monitor protocol. -/
def monitorProtocol (c : HarnessConfig) : Except ConfigFault MonitorProtocol :=
  (MonitorProtocol.withEscape (Text.bytes c.protocol.escape)).mapError .invalidProtocol

/-- The script. -/
def commandSteps (c : HarnessConfig) : Except ConfigFault (List CommandStep) := do
  let protocol ← c.monitorProtocol
  match c.steps with
  | some steps => return steps.map (·.toStep protocol)
  | none => return defaultScript protocol

end HarnessConfig

/-! ### Validity -/

/-- Demands that something holds. -/
def demand (b : Bool) (f : ConfigFault) : Except ConfigFault Unit := if b then .ok () else .error f

/-- The name is well formed, the limits are positive, and the grace window is the shorter one. -/
def SessionOptions.validate (s : SessionOptions) : Except ConfigFault Unit := do
  (checkIdentifier s.id).mapError .invalidId
  demand (s.timing.timeout.nanos ≠ 0) .zeroTimeout
  demand (s.timing.graceWindow.nanos ≠ 0) .zeroGraceWindow
  demand (s.timing.graceWindow.nanos < s.timing.timeout.nanos)
    (.graceWindowTooLong s.timing.graceWindow s.timing.timeout)

/-- The parts that no emulator can do without are given. -/
def EmulatorConfig.validate (e : EmulatorConfig) : Except ConfigFault Unit := do
  demand (!Text.isBlankText e.executable) .blankEmulatorExecutable
  demand (!Text.isBlankText e.kernel) .blankKernel
  demand (e.smp ≠ 0) .noProcessors
  demand (!Text.isBlankText e.memory) .blankMemory

/-- A command is a line, and what is sent is not empty. -/
def StepConfig.validate (index : Nat) : StepConfig → Except ConfigFault Unit
  | command text _ => do
    demand (text ≠ "") (.emptyCommand index)
    demand (!text.toList.contains '\n') (.brokenCommand index text)
  | send text _ => demand (text ≠ "") (.emptySend index)
  | _ => .ok ()

/-- All steps are valid; they are numbered from the given number on. -/
def validateSteps (index : Nat) : List StepConfig → Except ConfigFault Unit
  | [] => .ok ()
  | s :: rest => do
    s.validate index
    validateSteps (index + 1) rest

namespace HarnessConfig

/-- There is exactly one launch, and it is valid. -/
def validateLaunch (c : HarnessConfig) : Except ConfigFault Unit :=
  match c.emulator, c.launch with
  | some emulator, none => emulator.validate
  | none, some launch => demand (!Text.isBlankText launch.executable) .blankLaunchExecutable
  | some _, some _ => .error .bothLaunches
  | none, none => .error .noLaunch

/-- Everything that is needed to run the session is given. -/
def validate (c : HarnessConfig) : Except ConfigFault Unit := do
  c.session.validate
  c.validateLaunch
  demand (c.protocol.escape ≠ "") .emptyEscape
  validateSteps 0 (c.steps.getD [])

/-- Replaces time limits. -/
def withTiming (c : HarnessConfig) (timeout graceWindow : Option Duration) : HarnessConfig :=
  let t := c.session.timing
  { c with session := { c.session with timing := { t with
      timeout := timeout.getD t.timeout, graceWindow := graceWindow.getD t.graceWindow } } }

/-- Replaces time limits and validates the configuration that results, which stays as it is
also if it is not valid. -/
def override (c : HarnessConfig) (timeout graceWindow : Option Duration) :
    HarnessConfig × Except ConfigFault Unit :=
  let c := c.withTiming timeout graceWindow
  (c, c.validate)

end HarnessConfig
end GuestHarness
