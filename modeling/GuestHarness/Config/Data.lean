import GuestHarness.Config.Basic
import GuestHarness.Yaml.Record
import GuestHarness.Yaml.Value

/-!
Configurations as data: how they are read from a YAML document and what is written for them.
Durations are texts with a unit, and fields at their default may be left out.
-/

namespace GuestHarness

open Yaml

/-! ### Durations and collections of texts -/

/-- Reads a duration. A text that is none is a problem of the record around it. -/
def Duration.read (p : Place) : Read Duration := do
  let s ← p.text
  match Duration.parse s with
  | .ok d => return d
  | .error e => throw (.problem none (.other e.message))

/-- A duration as data. -/
def Duration.data (d : Duration) : Value := .text d.toText

/-- Reads an environment. -/
def Environment.read (p : Place) : Read Environment := Environment.ofList <$> p.texts

/-- An environment as data. -/
def Environment.data (env : Environment) : Value := .record (env.map fun kv => (kv.1, .text kv.2))

/-- Texts as data. -/
def textsData (ss : List String) : Value := .list (ss.map .text)

/-- A field that is left out if there is nothing in it. -/
def optionalField (name : String) (v : Option String) : List (String × Value) :=
  match v with
  | some s => [(name, .text s)]
  | none => []

/-! ### Session options -/

namespace SessionOptions

/-- The fields of the session options. -/
def fields : Fields Place SessionOptions :=
  (fun id timeout grace drain => ⟨id, ⟨timeout, grace, drain⟩⟩) <$>
    .required "id" Place.text <*>
    .withDefault "timeout" Duration.read ({} : SessionTiming).timeout <*>
    .withDefault "grace_window" Duration.read ({} : SessionTiming).graceWindow <*>
    .withDefault "drain_timeout" Duration.read ({} : SessionTiming).drainTimeout

/-- Reads session options. -/
def read : Place → Read SessionOptions := Place.record "struct SessionOptions" fields

/-- Session options as data. -/
def data (s : SessionOptions) : Value :=
  .record [("id", .text s.id), ("timeout", s.timing.timeout.data),
    ("grace_window", s.timing.graceWindow.data), ("drain_timeout", s.timing.drainTimeout.data)]

end SessionOptions

/-! ### Launches -/

namespace EmulatorConfig

/-- An emulator with nothing but defaults. -/
def standard : EmulatorConfig := { kernel := "" }

/-- The fields of an emulator. -/
def fields : Fields Place EmulatorConfig :=
  EmulatorConfig.mk <$>
    .withDefault "executable" Place.text standard.executable <*>
    .withDefault "machine" Place.text standard.machine <*>
    .withDefault "cpu" Place.text standard.cpu <*>
    .withDefault "bios" Place.text standard.bios <*>
    .withDefault "smp" (Place.natural 0x100000000 "u32") standard.smp <*>
    .withDefault "memory" Place.text standard.memory <*>
    .required "kernel" Place.text <*>
    .withDefault "nographic" Place.flag standard.nographic <*>
    .withDefault "serial" Place.text standard.serial <*>
    .withDefault "no_reboot" Place.flag standard.noReboot <*>
    .withDefault "extra_args" (Place.sequence Place.text) standard.extraArgs <*>
    .withDefault "working_directory" (Place.optional Place.filePath) standard.workingDirectory <*>
    .withDefault "environment" Environment.read standard.environment

/-- Reads an emulator. -/
def read : Place → Read EmulatorConfig := Place.record "struct EmulatorConfig" fields

/-- An emulator as data. -/
def data (e : EmulatorConfig) : Value :=
  .record ([("executable", .text e.executable), ("machine", .text e.machine), ("cpu", .text e.cpu),
    ("bios", .text e.bios), ("smp", .integer e.smp), ("memory", .text e.memory),
    ("kernel", .text e.kernel), ("nographic", .bool e.nographic), ("serial", .text e.serial),
    ("no_reboot", .bool e.noReboot), ("extra_args", textsData e.extraArgs)] ++
    optionalField "working_directory" e.workingDirectory ++
    [("environment", e.environment.data)])

end EmulatorConfig

namespace LaunchSpec

/-- The fields of a plain command line. -/
def fields : Fields Place LaunchSpec :=
  LaunchSpec.mk <$>
    .required "executable" Place.text <*>
    .withDefault "args" (Place.sequence Place.text) [] <*>
    .withDefault "working_directory" (Place.optional Place.filePath) none <*>
    .withDefault "environment" Environment.read []

/-- Reads a plain command line. -/
def read : Place → Read LaunchSpec := Place.record "struct RawLaunchConfig" fields

/-- A plain command line as data. -/
def data (l : LaunchSpec) : Value :=
  .record ([("executable", .text l.executable), ("args", textsData l.args)] ++
    optionalField "working_directory" l.workingDirectory ++
    [("environment", l.environment.data)])

end LaunchSpec

/-! ### Protocol and capture -/

namespace ProtocolConfig

/-- The field of the protocol. -/
def fields : Fields Place ProtocolConfig :=
  ProtocolConfig.mk <$> .withDefault "escape" Place.text ({} : ProtocolConfig).escape

/-- Reads the protocol. -/
def read : Place → Read ProtocolConfig := Place.record "struct ProtocolConfig" fields

/-- The protocol as data. -/
def data (c : ProtocolConfig) : Value := .record [("escape", .text c.escape)]

end ProtocolConfig

namespace CaptureConfig

/-- The fields of the capture options. -/
def fields : Fields Place CaptureConfig :=
  CaptureConfig.mk <$>
    .withDefault "output_file" (Place.optional Place.filePath) none <*>
    .withDefault "echo" Place.flag false

/-- Reads capture options. -/
def read : Place → Read CaptureConfig := Place.record "struct CaptureConfig" fields

/-- Capture options as data. -/
def data (c : CaptureConfig) : Value :=
  .record (optionalField "output_file" c.outputFile ++ [("echo", .bool c.echo)])

end CaptureConfig

/-! ### Steps -/

namespace StepConfig

/-- The kinds of steps with the fields of each. -/
def kinds : List (String × String × Fields Place StepConfig) :=
  [("pause", "Pause", pause <$> .required "duration" Duration.read),
    ("escape", "Escape", escape <$> .withDefault "settle" Duration.read (.ofMillis 100)),
    ("command", "Command", command <$> .required "text" Place.text <*>
      .withDefault "settle" Duration.read (.ofMillis 500)),
    ("send", "Send", send <$> .required "text" Place.text <*>
      .withDefault "settle" Duration.read (.ofMillis 100))]

/-- Reads the fields of a step of some kind. -/
def readFields (kind : String × Fields Place StepConfig) : Place → Read StepConfig :=
  Place.record ("struct variant StepConfig::" ++ kind.1) kind.2

/-- The problem of a step with a kind but without fields. -/
def noFields : Problem := .wrongType .plainVariant "struct variant"

/-- Reads a step whose kind is given by a tag. -/
def readTagged (p : Place) : Read StepConfig := do
  let (name, tagged) ← p.variantName
  match variant kinds name with
  | .error problem => p.fail problem
  | .ok kind => if tagged then readFields kind p else p.fail noFields

/-- What is expected of a step that is a mapping. -/
def singleKey : Problem := .wrongValue .mapping "map with a single key"

/-- Reads a step whose kind is the only key of a mapping. -/
def readKeyed (p : Place) : Read StepConfig :=
  if (localTag? p.node.tag?).isSome then p.fail (.wrongType .variant "enum StepConfig")
  else
    match p.node with
    | .scalar s =>
      match s.value with
      | .ok (.text name) =>
        match variant kinds name with
        | .error problem => p.fail problem
        | .ok _ => p.fail noFields
      | _ => p.mismatch "enum StepConfig"
    | .mapping .. => do
      match ← p.entries "enum StepConfig" with
      | [] => p.fail singleKey
      | (key, value, _) :: rest =>
        let name ← key.textAs "variant identifier"
        match variant kinds name with
        | .error problem => p.fail problem
        | .ok kind =>
          let step ← (readFields kind value).mapError (·.locate p.path)
          match rest with
          | [] => return step
          | (key, _, _) :: _ => if key.node.faulty then throw .faulty else p.fail singleKey
    | _ => p.mismatch "enum StepConfig"

/-- The kind of a step, and its fields as data. -/
def parts : StepConfig → String × Value
  | pause d => ("pause", .record [("duration", d.data)])
  | escape settle => ("escape", .record [("settle", settle.data)])
  | command text settle => ("command", .record [("text", .text text), ("settle", settle.data)])
  | send text settle => ("send", .record [("text", .text text), ("settle", settle.data)])

/-- A step as data, with its kind as a tag. -/
def taggedData (s : StepConfig) : Value := .tagged s.parts.1 s.parts.2

/-- A step as data, with its kind as a key. -/
def data (s : StepConfig) : Value := .record [s.parts]

end StepConfig

/-! ### Whole configurations -/

namespace HarnessConfig

/-- The fields of a configuration. -/
def fields : Fields Place HarnessConfig :=
  HarnessConfig.mk <$>
    .required "session" SessionOptions.read <*>
    .withDefault "emulator" (Place.optional EmulatorConfig.read) none <*>
    .withDefault "launch" (Place.optional LaunchSpec.read) none <*>
    .withDefault "protocol" ProtocolConfig.read {} <*>
    .withDefault "steps" (Place.optional (Place.sequence StepConfig.readKeyed)) none <*>
    .withDefault "capture" CaptureConfig.read {}

/-- Reads a configuration. -/
def read : Place → Read HarnessConfig := Place.record "struct HarnessConfig" fields

/-- A section that is left out if it is not there. -/
def optionalSection {α : Type} (name : String) (data : α → Value) (v : Option α) :
    List (String × Value) :=
  match v with
  | some a => [(name, data a)]
  | none => []

/-- A configuration as data. -/
def data (c : HarnessConfig) : Value :=
  .record ([("session", c.session.data)] ++
    optionalSection "emulator" EmulatorConfig.data c.emulator ++
    optionalSection "launch" LaunchSpec.data c.launch ++
    [("protocol", c.protocol.data)] ++
    optionalSection "steps" (fun steps => .list (steps.map StepConfig.data)) c.steps ++
    [("capture", c.capture.data)])

/-- The text of a configuration. -/
def render (c : HarnessConfig) : String := c.data.render

/-- Loads a valid configuration from a text. -/
def load (s : String) : Except ConfigFault HarnessConfig := do
  let c ← (readText read s).mapError .malformed
  c.validate
  return c

/-- Loads a valid configuration from a file. -/
def loadFile (files : FileTree) (path : String) : Except ConfigFault HarnessConfig :=
  match files.read path with
  | .error e => .error (.unreadable path e.message)
  | .ok bs =>
    match Text.fromUtf8? bs with
    | some s => load s
    | none => .error (.unreadable path "stream did not contain valid UTF-8")

end HarnessConfig
end GuestHarness
