import GuestHarness.Config.Data
import GuestHarness.Session

/-!
Tests that run sessions against one emulator: a script is given directly, or a configuration is
written that can refer to the emulator.
-/

namespace GuestHarness

/-- A test: its name and the path of the emulator. -/
structure EmulatorTest where
  name : String
  emulator : String

namespace EmulatorTest

/-- Why a test comes to no result. -/
inductive Fault where
  | noEmulator (path : String)
  | notLoaded (f : ConfigFault)
  | notBuilt (f : ConfigFault)
  | notRun (e : HarnessError)

/-- A fault of a configuration with what caused it, in one line. -/
def inOneLine (f : ConfigFault) : String :=
  ": ".intercalate (f.message :: f.causes.filterMap id)

/-- The wording of a fault. -/
def Fault.message : Fault → String
  | noEmulator path => "TESTEXE binary not found at: " ++ path
  | notLoaded f => "Failed to load config: " ++ inOneLine f
  | notBuilt f => "Failed to build session: " ++ inOneLine f
  | notRun e => "Session failed to run: " ++ e.message

/-- The time limits of a test. -/
def defaultTiming : SessionTiming := ⟨.ofSeconds 20, .ofSeconds 2, .ofSeconds 1⟩

/-- The test of a given name, if the emulator is there. -/
def new (files : FileTree) (name emulator : String) : Except Fault EmulatorTest :=
  if (files.find emulator).isOk then .ok ⟨name, emulator⟩ else .error (.noEmulator emulator)

/-- The command line of the emulator with more arguments. -/
def launchSpec (t : EmulatorTest) (args : List String) : LaunchSpec :=
  { executable := t.emulator, args := args, environment := [("TESTEXE_LOG", "off")] }

variable {τ : Type} [Target τ]

/-- Runs a session and tells what it comes to. -/
def runSession (site : Site τ) (s : TestSession) :
    Except Clock.Overflow (Except Fault SessionResult) := do
  return (← s.run site).result.mapError .notRun

/-- Runs a script against the emulator. -/
def runScript (t : EmulatorTest) (site : Site τ) (args : List String) (timing : SessionTiming)
    (steps : List CommandStep) : Except Clock.Overflow (Except Fault SessionResult) :=
  runSession site { id := t.name, spec := t.launchSpec args, steps := steps, timing := timing }

/-- Runs a session that is configured by a text. -/
def runConfig (site : Site τ) (text : String) :
    Except Clock.Overflow (Except Fault SessionResult) :=
  match HarnessConfig.load text with
  | .error f => .ok (.error (.notLoaded f))
  | .ok c =>
    match TestSession.ofConfig site.files c with
    | .error f => .ok (.error (.notBuilt f))
    | .ok (s, files) => runSession { site with files := files } s

end EmulatorTest
end GuestHarness
