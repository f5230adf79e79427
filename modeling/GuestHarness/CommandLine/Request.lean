import GuestHarness.CommandLine.Options
import GuestHarness.Config.Data
import GuestHarness.Report.Data
import GuestHarness.Session

/-!
The command line of the harness: one session is loaded from a file and run, its output is printed,
and both the output and a report can be filed. The exit code tells whether the session passed.
-/

namespace GuestHarness.CommandLine

/-! ### Requests -/

/-- What a command line asks for: the file of the configuration, more of a log, other time limits,
and the files for the output and the report. -/
structure Request where
  config : String
  debug : Bool := false
  timeout : Option Duration := none
  graceWindow : Option Duration := none
  output : Option String := none
  report : Option String := none
deriving DecidableEq

namespace Request

/-- The text can be read as a duration. -/
def isDuration (s : String) : Bool := (Duration.parse s).isOk

/-- The options of the harness. -/
def options : List OptionSpec := [
  { name := "config", letter := some 'c', accepts := (· ≠ "") },
  { name := "debug", letter := some 'd', takesValue := false },
  { name := "timeout", accepts := isDuration },
  { name := "grace-window", accepts := isDuration },
  { name := "output", letter := some 'o', accepts := (· ≠ "") },
  { name := "report", accepts := (· ≠ "") },
  { name := "help", letter := some 'h', takesValue := false, isFinal := true },
  { name := "version", letter := some 'V', takesValue := false, isFinal := true }]

/-- The request of a command line. There is none without a configuration. -/
def ofArgs (args : List String) : Except Stop Request := do
  let o ← Options.read options false args
  let duration := fun name => (o.value? name).bind fun s => (Duration.parse s).toOption
  match o.value? "config" with
  | none => throw .usage
  | some config =>
    return {
      config := config, debug := o.has "debug", timeout := duration "timeout"
      graceWindow := duration "grace-window", output := o.value? "output"
      report := o.value? "report" }

end Request

/-! ### Outcomes -/

/-- Why the harness gives up. -/
inductive Failure where
  | config (f : ConfigFault)
  | notStarted (e : HarnessError)
  | standardOutput (e : IoError)
  | outputFile (path : String) (e : IoError)
  | reportFile (path : String) (e : IoError)

namespace Failure

/-- The wording of a failure. -/
def message : Failure → String
  | config f => f.message
  | notStarted _ => "Session failed to start"
  | standardOutput _ => "Failed to write captured output"
  | outputFile path _ => "Failed to write output file: " ++ path
  | reportFile path _ => "Failed to write report: " ++ path

/-- The wording of what caused a failure, outermost first. -/
def causes : Failure → List String
  | config f => f.causes.map (·.getD "malformed text")
  | notStarted e => [e.message]
  | standardOutput e => [e.message]
  | outputFile _ e => [e.message]
  | reportFile _ e => [e.message]

/-- A failure as it is shown. -/
def render (f : Failure) : String :=
  let causes := match f.causes with
    | [] => ""
    | cs => "\n\nCaused by:\n    " ++ "\n    ".intercalate cs
  "Error: " ++ f.message ++ causes ++ "\n"

end Failure

/-- What is left when the harness has ended: its exit code, what it printed, what was echoed of the
output meanwhile, the failure that made it give up if one did, and the files. -/
structure Outcome where
  exitCode : Nat
  printed : Bytes := []
  echoed : Bytes := []
  failure : Option Failure := none
  files : FileTree

/-- What is shown apart from what is printed. -/
def Outcome.diagnostics (o : Outcome) : Bytes :=
  o.echoed ++ (o.failure.map fun f => Text.bytes f.render).getD []

/-- The exit code of a session that passed. -/
def passed : Nat := 0

/-- The exit code of a session that failed, and of a harness that gave up. -/
def failed : Nat := 1

/-- The exit code for a command line that cannot be understood. -/
def misused : Nat := 2

/-- The exit code of a harness that came down. -/
def broken : Nat := 101

/-- The exit code of a harness that was interrupted. -/
def interrupted : Nat := 130

/-- The line that tells the version. -/
def versionLine : String := "vmh-run 0.1.0\n"

/-- The lines that tell how the harness is used. -/
def usage : String :=
  "Run one emulator-driven integration test session\n\n" ++
  "Usage: vmh-run [OPTIONS] --config <FILE>\n\n" ++
  "Options:\n" ++
  "  -c, --config <FILE>                Configuration file path (YAML)\n" ++
  "  -d, --debug                        Enable debug logging\n" ++
  "      --timeout <TIMEOUT>            Overall session deadline, e.g. 30s (overrides config)\n" ++
  "      --grace-window <GRACE_WINDOW>  Grace window after the termination signal, e.g. 2s " ++
  "(overrides config)\n" ++
  "  -o, --output <FILE>                Also write the captured output to this file\n" ++
  "      --report <FILE>                Write a YAML session report to this file\n" ++
  "  -h, --help                         Print help\n" ++
  "  -V, --version                      Print version\n"

/-! ### Printing -/

/-- What standard output takes: everything, or so many bytes, after which it fails. -/
inductive StandardOutput where
  | sound
  | breaks (after : Nat) (e : IoError)

/-- What comes of printing some bytes: those that were printed, and the error if these are not
all. -/
def StandardOutput.print (bs : Bytes) : StandardOutput → Bytes × Option IoError
  | sound => (bs, none)
  | breaks after e => if bs.length ≤ after then (bs, none) else (bs.take after, some e)

/-! ### Running -/

/-- What was echoed by sinks that show what they are given. -/
def echoOf (sinks : List Output.Sink) : Bytes :=
  sinks.flatMap fun
    | .echo shown => shown
    | _ => []

/-- Files the report of a session, if that is asked for. -/
def fileReport (q : Request) (r : SessionResult) (files : FileTree) : FileTree × Option Failure :=
  match q.report with
  | none => (files, none)
  | some path =>
    match files.write path (Text.bytes r.report.render) with
    | .ok files => (files, none)
    | .error e => (files, some (.reportFile path e))

/-- Files the output of a session, if that is asked for, and then the report. -/
def fileResult (q : Request) (r : SessionResult) (files : FileTree) : FileTree × Option Failure :=
  match q.output with
  | none => fileReport q r files
  | some path =>
    match files.write path r.output with
    | .ok files => fileReport q r files
    | .error e => (files, some (.outputFile path e))

/-- Prints the output of a session, and then files what is asked for. -/
def emit (q : Request) (stdout : StandardOutput) (r : SessionResult) (files : FileTree) :
    Bytes × FileTree × Option Failure :=
  match stdout.print r.output with
  | (printed, some e) => (printed, files, some (.standardOutput e))
  | (printed, none) => (printed, fileResult q r files)

variable {τ : Type} [Target τ]

/-- Builds the session that is asked for. -/
def build (files : FileTree) (q : Request) : Except ConfigFault (TestSession × FileTree) := do
  let c ← HarnessConfig.loadFile files q.config
  let (c, verdict) := c.override q.timeout q.graceWindow
  verdict
  TestSession.ofConfig files c

/-- Carries out a request. If it is interrupted as soon as a given file exists, nothing is
printed and filed. -/
def carryOut (site : Site τ) (interrupt : Option String) (q : Request)
    (stdout : StandardOutput := .sound) : Outcome :=
  match build site.files q with
  | .error f => { exitCode := failed, failure := some (.config f), files := site.files }
  | .ok (session, files) =>
    match session.run { site with files := files } with
    | .error _ => { exitCode := broken, files := files }
    | .ok run =>
      match run.result with
      | .error e => { exitCode := failed, failure := some (.notStarted e), files := run.files }
      | .ok r =>
        if interrupt.any run.files.isFile then { exitCode := interrupted, files := run.files }
        else
          let (printed, files, failure) := emit q stdout r run.files
          { exitCode := if r.isSuccess && failure.isNone then passed else failed
            printed := printed, echoed := echoOf run.sinks, failure := failure, files := files }

/-- Carries out a command line. -/
def run (site : Site τ) (interrupt : Option String) (args : List String)
    (stdout : StandardOutput := .sound) : Outcome :=
  match Request.ofArgs args with
  | .ok q => carryOut site interrupt q stdout
  | .error .usage => { exitCode := misused, files := site.files }
  | .error (.asked name) =>
    let line := Text.bytes (if name = "version" then versionLine else usage)
    { exitCode := passed, printed := (stdout.print line).1, files := site.files }

end GuestHarness.CommandLine
