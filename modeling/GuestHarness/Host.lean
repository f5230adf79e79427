import GuestHarness.FileTree
import GuestHarness.ProcessNumber

/-!
The files of the machine that sessions run on, as far as they can be told from outside: the
directories that every such machine has, and the programs that scripts call.
-/

namespace GuestHarness.Host

/-- The directories that are always there. -/
def directories : List (List String) :=
  [["bin"], ["dev"], ["etc"], ["home"], ["lib"], ["opt"], ["proc"], ["root"], ["run"], ["sbin"],
    ["sys"], ["tmp"], ["usr"], ["usr", "bin"], ["usr", "lib"], ["usr", "local"],
    ["usr", "local", "bin"], ["usr", "sbin"], ["usr", "share"], ["var"], ["var", "tmp"]]

/-- The names of the programs that can be started. -/
def programs : List String :=
  ["sh", "bash", "dash", "cat", "chmod", "cp", "cut", "date", "dd", "echo", "env", "expr", "false",
    "grep", "head", "kill", "ls", "mkdir", "mktemp", "mv", "nohup", "od", "printf", "ps", "pwd",
    "rm", "sed", "seq", "setsid", "sleep", "sort", "stty", "tail", "tee", "test", "timeout",
    "touch", "tr", "true", "uname", "uniq", "wc", "xargs", "yes"]

/-- The path of the emulator, which is not on the search path. -/
def emulator : String := "/opt/testexe"

/-- The variables that every process has. -/
def environment : List (String × String) :=
  [("HOME", "/root"), ("PATH", "/usr/local/sbin:/usr/local/bin:/usr/sbin:/usr/bin:/sbin:/bin")]

/-- The files of the machine, seen from a working directory that is there too. -/
def files (cwd : List String) : FileTree :=
  let dirs := directories.map fun d => (d, FileEntry.directory)
  let programs := programs.flatMap fun p =>
    [(["bin", p], FileEntry.file [] true), (["usr", "bin", p], FileEntry.file [] true)]
  let plain : List (List String × FileEntry) :=
    [(["etc", "passwd"], .file [] false), (["dev", "null"], .file [] false),
      (["dev", "zero"], .file [] false), (["opt", "testexe"], .file [] true)]
  let above := (List.range cwd.length).map fun n => (cwd.take (n + 1), FileEntry.directory)
  let missing := above.filter fun e => !directories.contains e.1
  ⟨dirs ++ programs ++ plain ++ missing, cwd⟩

/-- The process that is always there. -/
def processes : ProcessTable := ⟨[1], []⟩

end GuestHarness.Host
