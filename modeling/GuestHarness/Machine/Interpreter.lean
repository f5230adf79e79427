import GuestHarness.Machine.Turn

/-!
The steps of a shell. A step takes the first task off the stack; what the task comes to are other
tasks, a change of the shell, a new process, or a wait.
-/

namespace GuestHarness.Machine

open Shell (Task Command Word)

namespace Turn

/-! ### Subshells -/

/-- The shell that a new process gets: only the signals that are ignored stay arranged for. -/
def subshell (t : Turn) (tasks : List Task) : Activity :=
  .shell { t.shell with
    tasks := tasks, mayBecome := true, children := []
    traps := t.shell.traps.filter fun r => r.2 = "" && r.1 ≠ 0 }

/-- Starts a process with changed descriptors. -/
def start (t : Turn) (change : Process → Process) (activity : Activity) : Nat × Turn :=
  let (pid, m) := t.machine.spawn t.process (change t.process).descriptors activity
  (pid, { t with machine := m })

/-- Starts the commands of a pipeline from the given input on. -/
def startPipeline (t : Turn) (input : Option Handle) : List Command → Turn × List Nat
  | [] => (t, [])
  | c :: rest =>
    let fromInput := fun (p : Process) => match input with
      | some h => p.connect 0 h
      | none => p
    match rest with
    | [] =>
      let (pid, t) := t.start fromInput (t.subshell [.run c false])
      (t, [pid])
    | _ =>
      let (pipe, m) := t.machine.openPipe
      let t := { t with machine := m }
      let (pid, t) := t.start (fun p => (fromInput p).connect 1 (.writing pipe))
        (t.subshell [.run c false])
      let (t, pids) := t.startPipeline (some (.reading pipe)) rest
      (t, pid :: pids)

/-- Starts a command in the background: it has no input unless it is told so, and it cannot be
interrupted. -/
def startBackground (t : Turn) (c : Command) : Turn :=
  let (pid, t) := t.start (·.connect 0 .null) (t.subshell [.run c false])
  let m := match t.machine.process? pid with
    | some p => t.machine.put { p with ignored := Signal.int :: Signal.quit :: p.ignored }
    | none => t.machine
  { t with machine := m, shell := { t.shell with children := pid :: t.shell.children } }.withScope
    ({ · with background := some pid, status := 0 })

/-! ### Simple commands -/

/-- The commands that change the shell for good. -/
def specials : List String :=
  [":", "exit", "return", "break", "continue", "export", "readonly", "set", "shift", "unset",
    "trap", "eval", ".", "exec"]

/-- The other commands that the shell carries out by itself. -/
def builtins : List String :=
  specials ++ ["true", "false", "echo", "printf", "cd", "pwd", "read", "local", "test", "[", "kill",
    "wait", "command", "type", "umask", "ulimit", "times", "getopts", "alias", "hash"]

/-- Variables that are set for one command. -/
abbrev Settings := List (String × String)

/-- Sets variables. -/
def assign (t : Turn) (settings : Settings) : Turn :=
  settings.foldl (fun t kv => t.setVar kv.1 kv.2) t

/-- Sets variables back to what they were in an earlier turn. -/
def reset (t old : Turn) (settings : Settings) : Turn :=
  settings.foldl (fun t kv =>
    match old.shell.scope.vars.lookup kv.1 with
    | some v => t.setVar kv.1 v
    | none => t.withScope fun s => { s with vars := s.vars.filter (·.1 ≠ kv.1) }) t

/-- Nothing stands between the last command and the end of the shell. -/
def isLast (t : Turn) : Bool :=
  t.shell.mayBecome && t.shell.tasks.isEmpty && t.shell.traps.all (·.2 = "")

/-- The process turns into a program. -/
def become (t : Turn) (argv : List String) (settings : Settings) : Machine :=
  t.machine.put { t.process with
    activity := .starting argv, caught := [], wait := .moment (t.machine.now + startCost)
    environment := ((t.assign settings).withScope fun s =>
      { s with exported := s.exported ++ settings.map (·.1) }).shell.scope.environment }

/-- Runs a program in the place of the shell or beside it. -/
def runProgram (t : Turn) (line : Nat) (argv : List String) (settings : Settings)
    (redirects : List Shell.Redirect) (replaces : Bool) : Machine :=
  match t.redirectAll redirects with
  | .error what => ((t.withStatus 2).complain line what).goOn
  | .ok r =>
    let name := argv.headD ""
    let path := ((t.assign settings).shell.scope.value? "PATH").getD defaultPath
    match programFile t.files path name with
    | .error e =>
      let (status, words) := if e = Errno.permissionDenied then (126, "Permission denied")
        else (127, "not found")
      let what := (if replaces then "exec: " else "") ++ name ++ ": " ++ words
      if replaces then ((r.exitWith status).complain line what).goOn
      else (t.redirected redirects line fun r => (r.withStatus status).complain line what).goOn
    | .ok _ =>
      if replaces || t.isLast then r.become argv settings
      else
        let (pid, m) := r.machine.spawn r.process r.process.descriptors (.starting argv)
        let m := match m.process? pid with
          | some p =>
            m.put { p with
              wait := .moment (m.now + forkCost + startCost)
              environment := ((t.assign settings).withScope fun s =>
                { s with exported := s.exported ++ settings.map (·.1) }).shell.scope.environment }
          | none => m
        ({ t with machine := m }.push [.await [pid]]).settle (.children [pid] false)

/-- Carries out a command of the shell that needs no more than the turn. -/
def builtin (t : Turn) (line : Nat) (name : String) (args : List String) : Turn :=
  match name with
  | "false" => t.withStatus 1
  | "echo" => (t.withStatus 0).say 1 (Shell.Format.echo args)
  | "printf" => (t.withStatus 0).say 1 (Shell.Format.printf args)
  | "exit" => t.exitCommand line args
  | "return" =>
    let t := t.withStatus (match args with
      | [] => t.lastStatus
      | _ => numberArg args 0 % 256)
    t.leaveFunction
  | "break" => leaveLoops false (t.withStatus 0) (numberArg args 1)
  | "continue" => leaveLoops true (t.withStatus 0) (numberArg args 1)
  | "export" => t.exportCommand args
  | "readonly" => t.readonlyCommand args
  | "set" => t.setCommand args
  | "shift" =>
    let n := numberArg args 1
    if t.shell.scope.params.length < n then
      (t.exitWith 2).complain line "shift: can't shift that many"
    else (t.withStatus 0).withScope fun s => { s with params := s.params.drop n }
  | "unset" =>
    match args with
    | "-f" :: names =>
      { t with shell := { t.shell with
          functions := t.shell.functions.filter fun f => !names.contains f.1 } }.withStatus 0
    | "-v" :: names => (names.foldl unsetVar t).withStatus 0
    | names => (names.foldl unsetVar t).withStatus 0
  | "trap" => t.trapCommand args
  | "eval" => (t.withStatus 0).push (tasksOf (Shell.Script.ofText (" ".intercalate args)))
  | "." =>
    match t.files.read (args.headD "") with
    | .ok bs => (t.withStatus 0).push (tasksOf (Shell.Script.ofText (Text.carried bs)))
    | .error _ =>
      (t.exitWith 2).complain line (".: cannot open " ++ args.headD "" ++ ": No such file")
  | "cd" => t.changeDirectory line args
  | "pwd" => (t.withStatus 0).say 1
      (Text.uncarried ("/" ++ "/".intercalate t.process.directory ++ "\n"))
  | "read" =>
    let raw := args.head? = some "-r"
    let args := args.filter (· ≠ "-r")
    let (asked, names) := match args with
      | "-p" :: s :: names => (s, names)
      | names => ("", names)
    let separators := (t.shell.scope.value? "IFS").getD " \t\n"
    (t.push [.readLine raw separators names []]).say 2 (Text.uncarried asked)
  | "local" => t.localCommand line args
  | "test" => t.testCommand line name args
  | "[" => t.testCommand line name args
  | "wait" =>
    let pids := if args = [] then t.shell.children
      else args.map fun s => Text.digitsValue s.toList
    if args ≠ [] && pids.any (fun pid => !t.shell.children.contains pid) then t.withStatus 127
    else t.push [.join (if args = [] then 0 :: pids else pids)]
  | "command" => t.lookUp builtins (args.head? = some "-V") (args.drop 1)
  | "type" => t.lookUp builtins true args
  | "umask" => (t.withStatus 0).say 1 (if args = [] then Text.bytes "0022\n" else [])
  | _ => t.withStatus 0

/-- Calls a function. -/
def call (t : Turn) (body : Command) (args : List String) : Turn :=
  (t.push [.run body false, .leave t.shell.scope.params []]).withScope ({ · with params := args })

/-- Runs a command with words. -/
def runWords (t : Turn) (line : Nat) (settings : Settings) (argv : List String)
    (redirects : List Shell.Redirect) : Machine :=
  let name := argv.headD ""
  let args := argv.drop 1
  if name = "exec" then
    if args = [] then
      match t.redirectAll redirects with
      | .ok t => ((t.assign settings).withStatus 0).goOn
      | .error what => ((t.exitWith 2).complain line what).goOn
    else
      t.runProgram line (if args.head? = some "--" then args.drop 1 else args) settings
        redirects true
  else if name = "kill" then
    if redirects = [] then (t.assign settings).killCommand line args
    else
      let quiet := t.redirected redirects line fun r => r.withStatus 0
      quiet.killCommand line args
  else
    match if specials.contains name then none else t.shell.functions.lookup name with
    | some body => (t.redirected redirects line fun r => (r.assign settings).call body args).goOn
    | none =>
      if name = "command" && (args.head?.map fun a => !(a.toList.head? = some '-')).getD false then
        let name := args.headD ""
        if builtins.contains name && name ≠ "exec" && name ≠ "kill" then
          (t.redirected redirects line fun r => r.builtin line name (args.drop 1)).goOn
        else t.runProgram line args settings redirects false
      else if specials.contains name then
        (t.redirected redirects line fun r => (r.assign settings).builtin line name args).goOn
      else if builtins.contains name then
        (t.redirected redirects line fun r =>
          ((r.assign settings).builtin line name args).reset t settings).goOn
      else t.runProgram line argv settings redirects false

/-- The arguments that some words stand for. Patterns stand for the names of files. -/
def arguments (t : Turn) (words : List Word) : List String :=
  words.flatMap fun w => (t.shell.scope.fields w).flatMap fun f => f.names t.files

/-- Runs a simple command whose outputs of scripts are filled in. -/
def runSimple (t : Turn) (line : Nat) (assigned : List (String × Word)) (words : List Word)
    (redirects : List Shell.Redirect) (filled : Bool) : Machine :=
  let argv := t.arguments words
  let (t', settings) := assigned.foldl (fun (acc : Turn × Settings) a =>
    let (u, settings) := acc
    let v := u.shell.scope.text a.2
    (u.setVar a.1 v, settings ++ [(a.1, v)])) (t, [])
  match assigned.find? fun a => t.shell.fixed.contains a.1 with
  | some (name, _) => ((t.exitWith 2).complain line (name ++ ": is read only")).goOn
  | none =>
  if argv = [] then
    let t := if filled then t' else t'.withStatus 0
    (t.redirected redirects line id).goOn
  else t.runWords line settings argv redirects

/-! ### Tasks -/

/-- Some later task decides by the status of a command, so that its failure is no accident. -/
def isTested (tasks : List Task) : Bool :=
  tasks.any fun
    | .onSuccess _ => true
    | .onFailure _ => true
    | .decide _ _ => true
    | .tested .. => true
    | .invert => true
    | _ => false

/-- Runs a command. -/
def runCommand (t : Turn) (c : Command) (filled : Bool) : Machine :=
  let checked := fun (t : Turn) =>
    if t.shell.options.contains 'e' && !isTested t.shell.tasks then t.push [.check] else t
  let wrapped := fun (redirects : List Shell.Redirect) (tasks : List Task) =>
    (t.redirected redirects 1 (·.push tasks)).goOn
  match c.pending? with
  | some script =>
    let (pipe, m) := t.machine.openPipe
    let t := { t with machine := m }
    let (pid, t) := t.start (·.connect 1 (.writing pipe))
      (t.subshell (tasksOf (Shell.Script.ofText (String.ofList script))))
    let source := t.process.freeNumber
    let t := { t with process := t.process.connect source (.reading pipe) }
    (t.push [.collect pid source [] c]).goOn
  | none =>
    let isStrict := t.shell.options.contains 'u'
    match c.words.findSome? (t.shell.scope.demand? isStrict), c with
    | some (.assign name value), c => ((t.setVar name value).push [.run c filled]).goOn
    | some (.refuse what), .simple line _ _ _ => ((t.exitWith 2).complain line what).goOn
    | some (.refuse what), _ => ((t.exitWith 2).complain 1 what).goOn
    | none, .simple line assigned words redirects =>
      (checked t).runSimple line assigned words redirects filled
    | none, .pipeline cs =>
      let (t, pids) := (checked t).startPipeline none cs
      (t.push [.await pids]).settle (.children pids false)
    | none, .inverted c => (t.push [.run c false, .invert]).goOn
    | none, .both a b => (t.push [.run a false, .onSuccess b]).goOn
    | none, .either a b => (t.push [.run a false, .onFailure b]).goOn
    | none, .series cs => (t.push (cs.map (Task.run · false))).goOn
    | none, .background c => (t.startBackground c).goOn
    | none, .subshell c redirects =>
      if t.isLast then
        let t := { t with shell := { t.shell with
          traps := t.shell.traps.filter fun r => r.1 ≠ 0, children := [] } }
        (t.push [.run (.group c redirects) false]).goOn
      else
        let t := checked t
        let (pid, t) := t.start id (t.subshell [.run (.group c redirects) false])
        (t.push [.await [pid]]).settle (.children [pid] false)
    | none, .group c redirects => wrapped redirects [.run c false]
    | none, .branch test yes no redirects => wrapped redirects [.run test false, .decide yes no]
    | none, .loop negated test body redirects =>
      wrapped redirects [.run test false, .tested negated test body 0]
    | none, .each name words body redirects =>
      let values := match words with
        | some ws => t.arguments ws
        | none => t.shell.scope.params
      ((t.withStatus 0).redirected redirects 1 (·.push [.each name values body])).goOn
    | none, .choose w arms redirects =>
      let text := (t.shell.scope.text w).toList
      let arm := arms.find? fun a => a.1.any fun pattern =>
        (t.shell.scope.field pattern).accepts text
      match arm with
      | some (_, body) => wrapped redirects [.run body false]
      | none => (t.withStatus 0).goOn
    | none, .function name body =>
      { (t.withStatus 0) with shell := { (t.withStatus 0).shell with
          functions := (name, body) :: t.shell.functions.filter (·.1 ≠ name) } }.goOn

/-- The status of a process that has ended. -/
def statusOf (m : Machine) (pid : Nat) : Nat :=
  match (m.process? pid).bind (·.ended) with
  | some ⟨some code, _⟩ => code.toNat
  | some ⟨none, some n⟩ => 128 + n.toNat
  | _ => 127

/-- What is said about a process in the foreground that a signal has ended. -/
def obituary (m : Machine) (pid : Nat) : Bytes :=
  match (m.process? pid).bind (·.ended) with
  | some ⟨none, some n⟩ =>
    if n = Signal.int || n = Signal.pipe then [] else Text.bytes (Signal.words n.toNat ++ "\n")
  | _ => []

/-- Reads up to the end of a line. -/
def readUpToLine (m : Machine) (h : Handle) : Got × Machine :=
  match m.read h pipeSize with
  | (.data bs, _) => m.read h ((bs.takeWhile (· ≠ 0x0A)).length + 1)
  | r => r

/-- Reads a line for variables. -/
def readLine (t : Turn) (raw : Bool) (separators : String) (names : List String) (got : Bytes) :
    Machine :=
  let finish := fun (t : Turn) (status : Nat) (line : Bytes) =>
    ((t.assignLine raw separators names line).withStatus status).goOn
  match t.process.handle? 0 with
  | none => finish t 1 got
  | some h =>
    match readUpToLine t.machine h with
    | (.data bs, m) =>
      let t := { t with machine := m }
      let got := got ++ bs
      if got.getLast? = some 0x0A then
        let line := got.dropLast
        if isContinued line && !raw then
          (t.push [.readLine raw separators names line.dropLast]).goOn
        else finish t 0 line
      else (t.push [.readLine raw separators names got]).goOn
    | (.blocked, m) =>
      ({ t with machine := m }.push [.readLine raw separators names got]).settle (.data h true)
    | (_, m) => finish { t with machine := m } 1 got

/-- A complaint that may go away when more of a script is read. -/
def isOpenEnded (what : String) : Bool :=
  what.startsWith "Syntax error: end of file" || what.startsWith "Syntax error: Unterminated"

/-- Reads commands from the input and runs those of each line. -/
def readScript (t : Turn) (line : Nat) (got : Bytes) : Machine :=
  let source := fun (bs : Bytes) =>
    let cs := (Text.carried bs).toList
    Shell.Parser.script (cs.length + 1) ⟨cs, line⟩
  let more := fun (t : Turn) (s : Shell.Script) (lines : Nat) (rest : Bytes) =>
    (t.push (tasksOf s ++ [.readScript (line + lines) rest])).goOn
  /- The shortest beginning of whole lines that can be run. -/
  let rec attempt : Nat → Bytes → Bytes → Option (Shell.Script × Nat × Bytes)
    | 0, _, _ => none
    | fuel + 1, taken, rest =>
      let next := rest.takeWhile (· ≠ 0x0A)
      if next.length = rest.length then none
      else
        let taken := taken ++ next ++ [0x0A]
        let rest := rest.drop (next.length + 1)
        let s := source taken
        match s.complaint with
        | some (_, what) =>
          if isOpenEnded what then attempt fuel taken rest
          else some (s, taken.count 0x0A, rest)
        | none => some (s, taken.count 0x0A, rest)
  match attempt (got.length + 1) [] got with
  | some (s, lines, rest) => more t s lines rest
  | none =>
    match t.process.handle? 0 with
    | none => (t.exitWith t.shell.scope.status).goOn
    | some h =>
      match t.machine.read h 8192 with
      | (.data bs, m) => ({ t with machine := m }.push [.readScript line (got ++ bs)]).goOn
      | (.blocked, m) => ({ t with machine := m }.push [.readScript line got]).settle (.data h true)
      | (_, m) =>
        let t := { t with machine := m }
        if got = [] then t.goOn else (t.push (tasksOf (source got))).goOn

/-- Ends the shell, after the script that is arranged for the end. -/
def exit (t : Turn) : Machine :=
  match t.shell.traps.lookup 0 with
  | some script =>
    let status := t.shell.scope.status
    let t := { t with shell := { t.shell with traps := t.shell.traps.filter (·.1 ≠ 0) } }
    (t.withTasks (tasksOf (Shell.Script.ofText script) ++ [.resume status, .exit])).goOn
  | none => t.machine.finish t.process (.exited t.shell.scope.status)

/-- Takes a step with a task that was taken off the stack. -/
def perform (t : Turn) : Task → Machine
  | .run c filled => t.runCommand c filled
  | .invert => (t.withStatus (if t.shell.scope.status = 0 then 1 else 0)).goOn
  | .onSuccess c => (if t.shell.scope.status = 0 then t.push [.run c false] else t).goOn
  | .onFailure c => (if t.shell.scope.status = 0 then t else t.push [.run c false]).goOn
  | .decide yes no =>
    if t.shell.scope.status = 0 then (t.push [.run yes false]).goOn
    else
      match no with
      | .series [] => (t.withStatus 0).goOn
      | no => (t.push [.run no false]).goOn
  | .loop negated test body =>
    (t.push [.run test false, .tested negated test body t.shell.scope.status]).goOn
  | .tested negated test body last =>
    if (t.shell.scope.status = 0) != negated then
      (t.push [.run body false, .loop negated test body]).goOn
    else (t.withStatus last).goOn
  | .each name values body =>
    match values with
    | [] => t.goOn
    | v :: rest => ((t.setVar name v).push [.run body false, .each name rest body]).goOn
  | .restore saved => (t.restore saved).goOn
  | .leave params locals =>
    let t := t.withScope ({ · with params := params })
    (locals.foldl (fun t l => match l.2 with
      | some v => t.setVar l.1 v
      | none => t.unsetVar l.1) t).goOn
  | .await pids =>
    if pids.all t.machine.hasEnded then
      let last := pids.getLastD 0
      let words := pids.flatMap (obituary t.machine)
      let t := t.withStatus (statusOf t.machine last)
      ({ t with machine := t.machine.forget pids }.say 2 words).goOn
    else (t.push [.await pids]).settle (.children pids false)
  | .join pids =>
    let waited := pids.filter (· ≠ 0)
    if waited.all t.machine.hasEnded then
      let isNamed := pids.head? ≠ some 0
      let status := if isNamed then statusOf t.machine (pids.getLastD 0) else 0
      let words := if isNamed then waited.flatMap (obituary t.machine) else []
      let left := t.shell.children.filter fun pid => !waited.contains pid
      (({ t with
          machine := t.machine.forget waited
          shell := { t.shell with children := left } }.withStatus status).say 2 words).goOn
    else (t.push [.join pids]).settle (.children waited true)
  | .collect child source got c =>
    match t.process.handle? source with
    | none => t.goOn
    | some h =>
      match t.machine.read h pipeSize with
      | (.data bs, m) => ({ t with machine := m }.push [.collect child source (got ++ bs) c]).goOn
      | (.blocked, m) =>
        ({ t with machine := m }.push [.collect child source got c]).settle (.data h false)
      | (_, m) =>
        let t := { t with machine := m }
        if m.hasEnded child then
          let text := ((got.filter (· ≠ 0)).reverse.dropWhile (· = 0x0A)).reverse
          let t := { t with
            machine := m.forget [child], process := t.process.disconnect source }
          let t := t.withStatus (statusOf m child)
          (t.push [.run (c.fill (Text.carried text).toList) true]).goOn
        else (t.push [.collect child source got c]).settle (.children [child] false)
  | .write target bs =>
    match t.process.handle? target with
    | none => (t.withStatus 1).goOn
    | some h =>
      match t.machine.write h bs with
      | (.done n, m) =>
        let t := { t with machine := m }
        if n < bs.length then (t.push [.write target (bs.drop n)]).goOn else t.goOn
      | (.blocked, m) => ({ t with machine := m }.push [.write target bs]).settle (.room h)
      | (.broken, m) =>
        if t.process.ignored.contains Signal.pipe then
          ({ t with machine := m }.withStatus 1).goOn
        else m.finish t.process (.killed Signal.pipe)
      | (.failed, m) => ({ t with machine := m }.withStatus 1).goOn
  | .readLine raw separators names got => t.readLine raw separators names got
  | .readScript line got => t.readScript line got
  | .resume status => (t.withStatus status).goOn
  | .complain line what => ((t.exitWith 2).complain line what).goOn
  | .check =>
    (if t.shell.scope.status = 0 then t else t.exitWith t.shell.scope.status).goOn
  | .exit => t.exit

/-! ### Signals -/

/-- The task can be left for the script of a signal: what then becomes of it, if anything. -/
def interruption? (n : Signal) : Task → Option (List Task × Nat)
  | .readLine .. => some ([], 1)
  | .join _ => some ([], 128 + n)
  | .await _ => none
  | .collect .. => none
  | .write .. => none
  | task => some ([task], 0)

/-- Takes a step: the script for a signal that has come goes first. -/
def step (t : Turn) : Machine :=
  match t.process.pending, t.shell.tasks with
  | [], [] => t.exit
  | [], task :: rest => (t.withTasks rest).perform task
  | n :: later, tasks =>
    let kept := match tasks with
      | [] => some ([], 0)
      | task :: _ => interruption? n task
    match kept with
    | none =>
      match tasks with
      | task :: rest => (t.withTasks rest).perform task
      | [] => t.exit
    | some (again, status) =>
      let t := { t with process := { t.process with pending := later } }
      let t := if status = 0 then t else t.withStatus status
      let script := (t.shell.traps.lookup n).getD ""
      (t.withTasks (tasksOf (Shell.Script.ofText script) ++
        .resume t.shell.scope.status :: again ++ tasks.drop 1)).goOn

end Turn
end GuestHarness.Machine
