import GuestHarness.CommandLine.Request
import GuestHarness.Guest

/-!
The program. The configuration that the command line names is read, the request is carried out on a
machine that starts with that file, and what is left of it is printed and filed.
-/

namespace GuestHarness.CommandLine

/-! ### The machine -/

/-- Puts a file into a tree, below directories that are made for it. -/
def withFile (files : FileTree) (path : String) (content : Bytes) : FileTree :=
  let files := match FileTree.parentPath? path with
    | some above => (files.makeDirectories above).toOption.getD files
    | none => files
  (files.write path content).toOption.getD files

/-- A machine on which sessions run from the first moment of the calendar on. -/
def siteOf (files : FileTree) : Site Guest :=
  { now := 0, calendar := .afterEpoch, files := files, launch := Guest.launch }

/-- The file of the configuration that a command line names. -/
def configPath? (args : List String) : Option String :=
  (Request.ofArgs args).toOption.map (·.config)

/-! ### Files and streams -/

/-- The content of a file, if it can be read. -/
def contentOf? (path : String) : IO (Option Bytes) := do
  try return some (← IO.FS.readBinFile path).toList
  catch _ => return none

/-- Files what has changed. -/
def store (before after : FileTree) : IO Unit := do
  for (place, entry) in after.entries do
    match entry with
    | .file content _ =>
      if before.entryAt place ≠ some entry then
        IO.FS.writeBinFile ("/" ++ "/".intercalate place) ⟨content.toArray⟩
    | .directory => pure ()

/-- Prints and files what a command line comes to. -/
def deliver (before : FileTree) (o : Outcome) : IO UInt32 := do
  let out ← IO.getStdout
  out.write ⟨o.printed.toArray⟩
  out.flush
  (← IO.getStderr).write ⟨o.diagnostics.toArray⟩
  if o.exitCode = misused then IO.eprint usage
  store before o.files
  return o.exitCode.toUInt32

/-- Carries out the command line of the program. -/
def program (args : List String) : IO UInt32 := do
  let host := Host.files (FileTree.pathNames (← IO.currentDir).toString)
  let files ← match configPath? args with
    | none => pure host
    | some path => pure ((← contentOf? path).elim host (withFile host path))
  deliver files (run (siteOf files) none args)

end GuestHarness.CommandLine

/-- Runs one session and tells by the exit code whether it passed. -/
def main (args : List String) : IO UInt32 := GuestHarness.CommandLine.program args
