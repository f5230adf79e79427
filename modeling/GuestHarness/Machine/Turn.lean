import GuestHarness.Machine.Programs
import GuestHarness.Shell.Condition
import GuestHarness.Shell.Format

/-!
The turn of a shell: the machine, the process and the state of the shell while it takes a step.
What a shell does to its own descriptors, tasks and status, and the commands that it carries out by
itself.
-/

namespace GuestHarness.Machine

open Shell (Task Command)

/-- A shell in the middle of a step. -/
structure Turn where
  machine : Machine
  process : Process
  shell : Shell.State

namespace Turn

/-! ### Small changes -/

/-- Sets what words refer to. -/
def withScope (t : Turn) (f : Shell.Scope → Shell.Scope) : Turn :=
  { t with shell := { t.shell with scope := f t.shell.scope } }

/-- Sets the exit status of the last command. -/
def withStatus (t : Turn) (n : Nat) : Turn := t.withScope ({ · with status := n })

/-- Sets the tasks. -/
def withTasks (t : Turn) (tasks : List Task) : Turn :=
  { t with shell := { t.shell with tasks := tasks } }

/-- Puts tasks before the others. -/
def push (t : Turn) (tasks : List Task) : Turn := t.withTasks (tasks ++ t.shell.tasks)

/-- Writes to a descriptor before anything else is done. -/
def say (t : Turn) (target : Nat) (bs : Bytes) : Turn :=
  if bs = [] then t else t.push [.write target bs]

/-- Writes a complaint about a line. -/
def complain (t : Turn) (line : Nat) (what : String) : Turn :=
  t.say 2 (Text.uncarried (t.shell.scope.name ++ ": " ++ Text.decimal line ++ ": " ++ what ++ "\n"))

/-- Sets a variable. -/
def setVar (t : Turn) (name value : String) : Turn := t.withScope (·.set name value)

/-- Removes a variable. -/
def unsetVar (t : Turn) (name : String) : Turn :=
  t.withScope fun s =>
    { s with vars := s.vars.filter (·.1 ≠ name), exported := s.exported.filter (· ≠ name) }

/-- The files, seen from the working directory. -/
def files (t : Turn) : FileTree := { t.machine.files with cwd := t.process.directory }

/-- Ends the turn: the process goes on when it has what it waits for. -/
def settle (t : Turn) (wait : Wait) : Machine :=
  t.machine.put { t.process with activity := .shell t.shell, wait := wait }

/-- Ends the turn: the process goes on after a small step. -/
def goOn (t : Turn) : Machine := t.settle (.moment (t.machine.now + stepCost))

/-! ### Redirections -/

/-- A file that cannot be used for a redirection. -/
def refusal (forWriting : Bool) (path : String) (e : IoError) : String :=
  let words := if e = Errno.notFound then
      if forWriting then "Directory nonexistent" else "No such file"
    else reason e
  (if forWriting then "cannot create " else "cannot open ") ++ path ++ ": " ++ words

/-- The descriptor of the process itself that a path names. -/
def ownDescriptor? (path : String) : Option Nat :=
  match path with
  | "/dev/stdin" => some 0
  | "/dev/stdout" => some 1
  | "/dev/stderr" => some 2
  | _ => none

/-- Redirects one descriptor. -/
def redirect (t : Turn) (n : Nat) (r : Shell.Redirection) : Except String Turn :=
  let text := t.shell.scope.text r.word
  let connect := fun (x : Handle × Machine) =>
    { t with machine := x.2, process := t.process.connect n x.1 }
  match (ownDescriptor? text).bind t.process.handle? with
  | some h => .ok (connect (h, t.machine))
  | none =>
  match r with
  | .read _ =>
    match openForReading t.machine t.process.directory text with
    | .ok x => .ok (connect x)
    | .error e => .error (refusal false text e)
  | .write _ =>
    match openForWriting t.machine t.process.directory text false with
    | .ok x => .ok (connect x)
    | .error e => .error (refusal true text e)
  | .append _ =>
    match openForWriting t.machine t.process.directory text true with
    | .ok x => .ok (connect x)
    | .error e => .error (refusal true text e)
  | .copy _ =>
    if text = "-" then .ok { t with process := t.process.disconnect n }
    else
      match t.process.handle? (Text.digitsValue text.toList) with
      | some h => .ok { t with process := t.process.connect n h }
      | none => .error (text ++ ": Bad file descriptor")
  | .text _ =>
    let (pipe, m) := t.machine.openPipe
    .ok { t with
      machine := m.setContent pipe (Text.uncarried text)
      process := t.process.connect n (.reading pipe) }

/-- Redirects descriptors, in order. -/
def redirectAll (t : Turn) : List Shell.Redirect → Except String Turn
  | [] => .ok t
  | (n, r) :: rest => do (← t.redirect n r).redirectAll rest

/-- Keeps descriptors under new numbers, so that they can be restored. -/
def keep (t : Turn) : List Nat → Turn × List (Nat × Option Nat)
  | [] => (t, [])
  | n :: rest =>
    let (t, saved) : Turn × Option Nat := match t.process.handle? n with
      | some h =>
        let k := t.process.freeNumber
        ({ t with process := t.process.connect k h }, some k)
      | none => (t, none)
    let (t, more) := t.keep rest
    (t, (n, saved) :: more)

/-- Restores descriptors. -/
def restore (t : Turn) (saved : List (Nat × Option Nat)) : Turn :=
  saved.foldl (fun t (n, k) =>
    let p := match k with
      | some k =>
        match t.process.handle? k with
        | some h => (t.process.connect n h).disconnect k
        | none => t.process
      | none => t.process.disconnect n
    { t with process := p }) t

/-- Does something with redirected descriptors and restores them afterwards. -/
def redirected (t : Turn) (rs : List Shell.Redirect) (line : Nat) (act : Turn → Turn) : Turn :=
  if rs = [] then act t
  else
    let rest := t.shell.tasks
    let (kept, saved) := (t.withTasks []).keep ((rs.map (·.1)).eraseDups)
    match kept.redirectAll rs with
    | .ok t =>
      let t := act t
      t.withTasks (t.shell.tasks ++ .restore saved :: rest)
    | .error what => (t.withStatus 2).complain line what

/-! ### Leaving tasks -/

/-- A task that goes round. -/
def isLoop : Task → Bool
  | .loop .. => true
  | .tested .. => true
  | .each .. => true
  | _ => false

/-- Drops tasks up to one that passes; descriptors that were to be restored are restored. -/
def unwind (t : Turn) (passes : Task → Bool) : List Task → Turn × List Task
  | [] => (t, [])
  | task :: rest =>
    if passes task then (t, task :: rest)
    else
      match task with
      | .restore saved => (t.restore saved).unwind passes rest
      | _ => t.unwind passes rest

/-- Drops tasks up to the given number of loops; the last of them is kept or not. -/
def leaveLoops (keepsLast : Bool) (t : Turn) : Nat → Turn
  | 0 => t
  | n + 1 =>
    match t.unwind isLoop t.shell.tasks with
    | (_, []) => t
    | (t, loop :: rest) =>
      if n = 0 && keepsLast then t.withTasks (loop :: rest)
      else leaveLoops keepsLast (t.withTasks rest) n

/-- Leaves a function. -/
def leaveFunction (t : Turn) : Turn :=
  match t.unwind (· matches .leave ..) t.shell.tasks with
  | (t, []) => t.withTasks [.exit]
  | (t, tasks) => t.withTasks tasks

/-- Makes the tasks of a script. -/
def tasksOf (s : Shell.Script) : List Task :=
  s.commands.map (Task.run · false) ++
    (match s.complaint with
      | some (line, what) => [.complain line what]
      | none => [])

/-! ### Commands of the shell -/

/-- Takes a number as an argument. -/
def numberArg (args : List String) (default : Nat) : Nat :=
  match args with
  | a :: _ => Text.digitsValue a.toList
  | [] => default

/-- Ends the shell with a status. -/
def exitWith (t : Turn) (n : Nat) : Turn := (t.withTasks [.exit]).withStatus n

/-- The status with which a shell ends that is not told one: while the script for a signal runs it
is the status from before. -/
def lastStatus (t : Turn) : Nat :=
  (t.shell.tasks.findSome? fun
    | .resume n => some n
    | _ => none).getD t.shell.scope.status

/-- Ends the shell. -/
def exitCommand (t : Turn) (line : Nat) (args : List String) : Turn :=
  match args with
  | [] => t.exitWith t.lastStatus
  | a :: _ =>
    if Text.isDigits a.toList then t.exitWith (Text.digitsValue a.toList % 256)
    else (t.exitWith 2).complain line ("exit: Illegal number: " ++ a)

/-- Changes the working directory. -/
def changeDirectory (t : Turn) (line : Nat) (args : List String) : Turn :=
  let path := match args with
    | "--" :: a :: _ => a
    | a :: _ => a
    | [] => (t.shell.scope.value? "HOME").getD ""
  if path = "" then t.withStatus 0
  else if t.files.isDirectory path then
    match t.files.locate path with
    | .ok place =>
      ({ t with process := { t.process with directory := place } }.setVar "PWD"
        ("/" ++ "/".intercalate place)).withStatus 0
    | .error _ => t.withStatus 2
  else (t.withStatus 2).complain line ("cd: can't cd to " ++ path)

/-- A name and, behind an equals sign, a value. -/
def splitAssignment (s : String) : String × Option String :=
  let cs := s.toList
  let name := cs.takeWhile (· ≠ '=')
  let rest := cs.drop name.length
  (String.ofList name, if rest = [] then none else some (String.ofList (rest.drop 1)))

/-- Sets variables for good. -/
def readonlyCommand (t : Turn) (args : List String) : Turn :=
  args.foldl (fun t a =>
    let (name, value) := splitAssignment a
    let t := match value with
      | some v => t.setVar name v
      | none => t
    { t with shell := { t.shell with fixed := name :: t.shell.fixed } }) (t.withStatus 0)

/-- Exports variables. -/
def exportCommand (t : Turn) (args : List String) : Turn :=
  args.foldl (fun t a =>
    let (name, value) := splitAssignment a
    let t := match value with
      | some v => t.setVar name v
      | none => t
    if name = "-p" then t
    else t.withScope fun s => { s with exported := name :: s.exported.filter (· ≠ name) })
    (t.withStatus 0)

/-- Adds a variable to those that are restored at the end of the function. -/
def addLocal (name : String) (old : Option String) : List Task → List Task
  | [] => []
  | .leave params locals :: rest => .leave params ((name, old) :: locals) :: rest
  | task :: rest => task :: addLocal name old rest

/-- Sets variables for the time of the function. -/
def localCommand (t : Turn) (line : Nat) (args : List String) : Turn :=
  if !(t.shell.tasks.any (· matches .leave ..)) then
    (t.exitWith 2).complain line "local: not in a function"
  else args.foldl (fun t a =>
    let (name, value) := splitAssignment a
    let t := t.withTasks (addLocal name (t.shell.scope.vars.lookup name) t.shell.tasks)
    match value with
    | some v => t.setVar name v
    | none => t) (t.withStatus 0)

/-- Sets parameters and options. -/
def setCommand (t : Turn) (args : List String) : Turn :=
  let t := t.withStatus 0
  match args with
  | [] => t
  | "--" :: params => t.withScope ({ · with params := params })
  | a :: rest =>
    match a.toList with
    | '-' :: letters =>
      let t := { t with shell := { t.shell with options := letters ++ t.shell.options } }
      if letters = ['o'] || rest = [] then t
      else t.withScope ({ · with params := if rest.head? = some "--" then rest.drop 1 else rest })
    | '+' :: letters =>
      { t with shell := { t.shell with
          options := t.shell.options.filter fun c => !letters.contains c } }
    | _ => t.withScope ({ · with params := args })

/-- Decides a condition. -/
def testCommand (t : Turn) (line : Nat) (name : String) (args : List String) : Turn :=
  let words := if name = "[" then args.dropLast else args
  if name = "[" && args.getLast? ≠ some "]" then (t.withStatus 2).complain line "[: missing ]"
  else
    match Shell.Condition.holds t.files words with
    | .ok v => t.withStatus (if v then 0 else 1)
    | .error what => (t.withStatus 2).complain line (name ++ ": " ++ what)

/-- Arranges for a signal, or for the end under the number zero. -/
def arrange (t : Turn) (action : Option String) (n : Signal) : Turn :=
  let traps := t.shell.traps.filter (·.1 ≠ n)
  let p := t.process
  let ignored := p.ignored.filter (· ≠ n)
  let caught := p.caught.filter (· ≠ n)
  match action with
  | none =>
    { t with
      process := { p with ignored := ignored, caught := caught }
      shell := { t.shell with traps := traps } }
  | some script =>
    let p := if n = 0 then p
      else if script = "" then { p with ignored := n :: ignored, caught := caught }
      else { p with ignored := ignored, caught := n :: caught }
    { t with process := p, shell := { t.shell with traps := (n, script) :: traps } }

/-- Arranges for signals. -/
def trapCommand (t : Turn) (args : List String) : Turn :=
  let args := if args.head? = some "--" then args.drop 1 else args
  let number? := fun (s : String) => if s.toUpper = "EXIT" then some 0 else Signal.ofName? s
  let (action, names) := match args with
    | [name] => (none, [name])
    | "-" :: names => (none, names)
    | script :: names =>
      if Text.isDigits script.toList then (none, args) else (some script, names)
    | [] => (none, [])
  names.foldl (fun t name =>
    match number? name with
    | some n => t.arrange action n
    | none => (t.withStatus 1).say 2 (Text.uncarried ("trap: " ++ name ++ ": bad trap\n")))
    (t.withStatus 0)

/-- The signal and the targets of a request to send a signal. -/
def killTargets (args : List String) : Option Signal × List String :=
  match args with
  | "-s" :: name :: rest => (Signal.ofName? name, rest)
  | "--" :: rest => (some Signal.term, rest)
  | a :: rest =>
    match a.toList with
    | '-' :: name =>
      (Signal.ofName? (String.ofList name),
        if rest.head? = some "--" then rest.drop 1 else rest)
    | _ => (some Signal.term, args)
  | [] => (some Signal.term, [])

/-- Sends signals. The shell itself may be the target, so its turn ends first. -/
def killCommand (t : Turn) (line : Nat) (args : List String) : Machine :=
  let (n, targets) := killTargets args
  match n with
  | none =>
    match args with
    | ["-l", number] =>
      match Signal.ofName? number with
      | some n => ((t.withStatus 0).say 1 (Text.bytes (n.name ++ "\n"))).goOn
      | none =>
        ((t.withStatus 2).complain line
          ("kill: invalid signal number or exit status: " ++ number)).goOn
    | _ => ((t.withStatus 2).complain line "kill: Illegal option").goOn
  | some n =>
    let numbers := targets.map fun s => Text.digitsValue s.toList
    let missing := numbers.filter fun pid => (t.machine.process? pid).isNone
    let t := if missing = [] then t.withStatus 0
      else (t.withStatus 1).complain line "kill: No such process\n"
    numbers.foldl (fun m pid => (m.signal pid n).2) t.goOn

/-- Says how names are understood, in short or at length. -/
def lookUp (t : Turn) (builtins : List String) (atLength : Bool) (names : List String) : Turn :=
  let path := (t.shell.scope.value? "PATH").getD defaultPath
  let found := names.map fun name =>
    let isFunction := t.shell.functions.any (·.1 = name)
    if builtins.contains name || isFunction then
      (name, some (name, if isFunction then "a shell function" else "a shell builtin"))
    else
      match programFile t.files path name with
      | .ok place =>
        let file := "/" ++ "/".intercalate place
        (name, some (file, file))
      | .error _ => (name, none)
  let t := t.withStatus (if found.all (·.2.isSome) then 0 else 127)
  t.say 1 (Text.uncarried (String.join (found.map fun (name, meaning) =>
    match meaning with
    | some (short, long) => (if atLength then name ++ " is " ++ long else short) ++ "\n"
    | none => if atLength then name ++ ": not found\n" else "")))

/-! ### Reading a line -/

/-- Splits a line into so many fields; the last takes all that is left. Backslashes keep the next
character from separating. -/
def splitLine (separators : List Char) (raw : Bool) : Nat → List Char → List String
  | 0, _ => []
  | n + 1, cs =>
    let blank := fun c => separators.contains c && [' ', '\t', '\n'].contains c
    let cs := cs.dropWhile blank
    if n = 0 then [String.ofList (unescaped raw (trimEnd blank cs))]
    else
      let (field, rest) := firstField separators raw cs
      let rest := match rest.dropWhile blank with
        | c :: more => if separators.contains c && !blank c then more else c :: more
        | [] => []
      String.ofList field :: splitLine separators raw n rest
where
  /-- Removes blanks at the end. -/
  trimEnd (blank : Char → Bool) (cs : List Char) : List Char :=
    (cs.reverse.dropWhile blank).reverse
  /-- Removes backslashes that keep the next character. -/
  unescaped (raw : Bool) : List Char → List Char
    | '\\' :: c :: rest =>
      if raw then '\\' :: unescaped raw (c :: rest) else c :: unescaped raw rest
    | c :: rest => c :: unescaped raw rest
    | [] => []
  /-- The characters up to a separator, and what follows. -/
  firstField (separators : List Char) (raw : Bool) : List Char → List Char × List Char
    | '\\' :: c :: rest =>
      if raw then
        let (f, more) := firstField separators raw (c :: rest)
        ('\\' :: f, more)
      else
        let (f, more) := firstField separators raw rest
        (c :: f, more)
    | c :: rest =>
      if separators.contains c then ([], c :: rest)
      else
        let (f, more) := firstField separators raw rest
        (c :: f, more)
    | [] => ([], [])

/-- The line ends in a backslash that joins it to the next one. -/
def isContinued (bs : Bytes) : Bool :=
  ((bs.reverse.takeWhile (· = 0x5C)).length) % 2 = 1

/-- Gives a line to variables. -/
def assignLine (t : Turn) (raw : Bool) (separators : String) (names : List String) (line : Bytes) :
    Turn :=
  let cs := (Text.carried (line.filter (· ≠ 0))).toList
  let values := splitLine separators.toList raw names.length cs
  (names.zip (values ++ List.replicate names.length "")).foldl (fun t (n, v) => t.setVar n v) t

end Turn
end GuestHarness.Machine
