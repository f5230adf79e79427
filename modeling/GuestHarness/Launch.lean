import GuestHarness.Error
import GuestHarness.FileTree
import GuestHarness.Text.Blank
import GuestHarness.Text.Quoted

/-!
What is started: an executable with its arguments, working directory and environment, how that
command line is shown, and what is checked before anything runs.
-/

namespace GuestHarness

/-! ### Environments -/

/-- The variables that are set for a process, in the order of their names. -/
abbrev Environment := List (String × String)

/-- Sets a variable and keeps the order of the names. -/
def Environment.insert (key value : String) : Environment → Environment
  | [] => [(key, value)]
  | (k, v) :: rest =>
    if key < k then (key, value) :: (k, v) :: rest
    else if key = k then (key, value) :: rest
    else (k, v) :: Environment.insert key value rest

/-- The variables of a list of settings, of which later ones win. -/
def Environment.ofList (settings : List (String × String)) : Environment :=
  settings.foldl (fun env kv => Environment.insert kv.1 kv.2 env) []

/-! ### Command lines -/

/-- A command line to start. -/
structure LaunchSpec where
  executable : String
  args : List String := []
  workingDirectory : Option String := none
  environment : Environment := []
deriving DecidableEq

namespace LaunchSpec

/-- An argument as it is shown: quoted if it could not be told apart otherwise. -/
def showArg (arg : String) : String :=
  if arg = "" ∨ arg.toList.any Text.isBlank then Text.quoted arg else arg

/-- A command line as it is shown. -/
def render (spec : LaunchSpec) : String :=
  spec.executable ++ String.join (spec.args.map fun arg => " " ++ showArg arg)

end LaunchSpec

/-! ### Checks before a launch -/

/-- What makes a command line unfit to start. -/
inductive LaunchFault where
  | blankExecutable
  | executableNotFound (path : String)
  | noWorkingDirectory (path : String)
deriving DecidableEq, Repr

namespace LaunchFault

/-- The wording of a fault. -/
def message : LaunchFault → String
  | blankExecutable => "Executable path cannot be empty"
  | executableNotFound path => "Executable not found: " ++ path
  | noWorkingDirectory path => "Working directory does not exist: " ++ path

/-- A fault as an error of the harness. -/
def toError (f : LaunchFault) : HarnessError := .configuration f.message

end LaunchFault

/-- An executable is named, and if it is named by a path then a file is there. A bare name is
left to the search path. -/
def checkExecutable (files : FileTree) (path : String) : Except LaunchFault Unit :=
  if Text.isBlankText path then .error .blankExecutable
  else if path.toList.contains '/' ∧ ¬ files.isFile path then .error (.executableNotFound path)
  else .ok ()

/-- The executable passes and the working directory, if any, exists. -/
def LaunchSpec.check (files : FileTree) (spec : LaunchSpec) : Except LaunchFault Unit := do
  checkExecutable files spec.executable
  match spec.workingDirectory with
  | some dir => unless files.isDirectory dir do throw (.noWorkingDirectory dir)
  | none => pure ()

end GuestHarness
