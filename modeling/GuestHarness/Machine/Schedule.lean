import GuestHarness.Machine.Interpreter

/-!
How a machine runs: of the processes that can go on, the one that can do so first takes the next
step. Time passes only from step to step.
-/

namespace GuestHarness.Machine

/-! ### Starting programs -/

/-- The first variables of a shell. -/
def shellVars (p : Process) : List (String × String) :=
  let own := [("PWD", "/" ++ "/".intercalate p.directory), ("PPID", Text.decimal p.parent),
    ("IFS", " \t\n"), ("OPTIND", "1")]
  let path := if p.environment.any (·.1 = "PATH") then [] else [("PATH", defaultPath)]
  own ++ p.environment ++ path

/-- A shell with a name and parameters that has some tasks. It stays to see its last command end;
only the copies of it that run a part of a script give their place to that command. -/
def newShell (p : Process) (name : String) (params : List String) (tasks : List Shell.Task)
    (options : List Char) : Activity :=
  .shell
    { scope :=
        { name := name, params := params, vars := shellVars p
          exported := p.environment.map (·.1), pid := p.pid }
      tasks := tasks, mayBecome := false, options := options }

/-- Separates the options of a shell from its other words. -/
def shellOptions : List String → List Char × List String
  | [] => ([], [])
  | word :: rest =>
    match word.toList with
    | '-' :: c :: cs =>
      if c :: cs = ['-'] then ([], rest)
      else
        let (letters, words) := shellOptions rest
        ((c :: cs) ++ letters, words)
    | _ => ([], word :: rest)

/-- Starts a shell. -/
def startShell (m : Machine) (p : Process) (argv : List String) : Machine :=
  let (letters, words) := shellOptions (argv.drop 1)
  let name := argv.headD ""
  let begin := fun (a : Activity) =>
    m.put { p with activity := a, wait := .moment (m.now + stepCost) }
  if letters.contains 'c' then
    match words with
    | [] =>
      begin (.working [complain (name ++ ": 0: -c requires an argument"), .exit 2])
    | text :: rest =>
      begin (newShell p (rest.headD name) (rest.drop 1) (Turn.tasksOf (Shell.Script.ofText text))
        letters)
  else
    match words with
    | [] => begin (newShell p name [] [.readScript 1 []] letters)
    | path :: params =>
      match { m.files with cwd := p.directory }.read path with
      | .ok bs =>
        begin (newShell p path params (Turn.tasksOf (Shell.Script.ofText (Text.carried bs)))
          letters)
      | .error _ =>
        begin (.working [complain (name ++ ": 0: cannot open " ++ path ++ ": No such file"),
          .exit 2])

/-- The settings at the front of some words, and the words behind them. -/
def settingsOf : List String → List (String × String) × List String
  | [] => ([], [])
  | word :: rest =>
    match Turn.splitAssignment word with
    | (name, some value) =>
      let (settings, words) := settingsOf rest
      ((name, value) :: settings, words)
    | (_, none) => ([], word :: rest)

/-- Starts the program that its file is named for. -/
def startProgram (m : Machine) (p : Process) (argv : List String) : Machine :=
  let path := (p.environment.lookup "PATH").getD defaultPath
  let p :=
    { p with descriptors := p.descriptors.filter (·.1 < firstOwn), caught := [], pending := [] }
  let again := fun (p : Process) (argv : List String) =>
    m.put { p with activity := .starting argv, wait := .moment (m.now + startCost) }
  let work := fun (b : Begun) =>
    b.machine.put { b.process with
      activity := .working b.work, wait := .moment (m.now + stepCost) }
  match programFile { m.files with cwd := p.directory } path (argv.headD "") with
  | .error e =>
    work ⟨m, p, [complainAbout "env" (inQuotes (argv.headD "")) e,
      .exit (if e = Errno.permissionDenied then 126 else 127)]⟩
  | .ok place =>
    let name := place.getLastD ""
    let args := argv.drop 1
    if ["sh", "dash", "bash"].contains name then startShell m p argv
    else if ["nohup", "setsid"].contains name && args ≠ [] then again p args
    else if name = "env" then
      let (settings, words) := settingsOf args
      let names := settings.map (·.1)
      let environment := p.environment.filter (fun v => !names.contains v.1) ++ settings
      if words = [] then
        work (print (String.join (environment.map fun v => v.1 ++ "=" ++ v.2 ++ "\n")) m p args)
      else again { p with environment := environment } words
    else work (programNamed name m p args)

/-! ### Working -/

/-- Takes a step of work. -/
def work (m : Machine) (p : Process) : List Work → Machine
  | [] => m.finish p (.exited 0)
  | w :: rest =>
    let goOn := fun (m : Machine) (p : Process) (todo : List Work) =>
      m.put { p with activity := .working todo, wait := .moment (m.now + stepCost) }
    let waitFor := fun (m : Machine) (todo : List Work) (wait : Wait) =>
      m.put { p with activity := .working todo, wait := wait }
    let broken := fun (m : Machine) (todo : List Work) =>
      if p.ignored.contains Signal.pipe then goOn m p todo
      else m.finish p (.killed Signal.pipe)
    match w with
    | .exit code => m.finish p (.exited code)
    | .asleep => waitFor m (w :: rest) .signal
    | .pause nanos => waitFor m rest (.moment (m.now + nanos))
    | .write target bs =>
      match p.handle? target with
      | none => goOn m p rest
      | some h =>
        match m.write h bs with
        | (.done n, m) =>
          if n < bs.length then waitFor m (.write target (bs.drop n) :: rest) (.room h)
          else goOn m p rest
        | (.blocked, m) => waitFor m (w :: rest) (.room h)
        | (.broken, m) => broken m rest
        | (.failed, m) => goOn m p rest
    | .overflow target bs =>
      match p.handle? target with
      | none => goOn m p [.exit 1]
      | some h =>
        match m.write h bs with
        | (.done n, m) => waitFor m (.write target (bs.drop n) :: w :: rest) (.room h)
        | (.blocked, m) => waitFor m (w :: rest) (.room h)
        | (_, m) => broken m [.exit 1]
    | .filter f source copies kept =>
      match p.handle? source with
      | none => goOn m p rest
      | some h =>
        if f matches .front _ 0 then goOn m p rest
        else
          let out := fun (bs : Bytes) =>
            if bs = [] then [] else (1 :: copies).map fun target => Work.write target bs
          match m.read h pipeSize with
          | (.data bs, m) =>
            let (bs, f, isDone) := f.feed bs
            let bs := kept ++ bs
            let ripe := bs.length - bs.length % f.blockSize
            goOn m p (if isDone then out bs ++ rest
              else out (bs.take ripe) ++ .filter f source copies (bs.drop ripe) :: rest)
          | (.ended, m) => goOn m p (out (kept ++ f.finish) ++ rest)
          | (.blocked, m) => waitFor m (w :: rest) (.data h false)
          | (.failed, m) => goOn m p rest
    | .serve e console lines hasInput =>
      if p.pending.contains Signal.term then
        let p := { p with pending := [] }
        if e.ignoresTerm then goOn m p (w :: rest)
        else goOn m p [.write 1 (Text.bytes Emulator.farewell), .exit 0]
      else
        match if hasInput then p.handle? 0 else none with
        | none => waitFor m [.serve e console lines false] .signal
        | some h =>
          match m.read h 1024 with
          | (.data bs, m) =>
            let (console, events) := console.feed bs
            let lines := lines + bs.count 0x0A
            let shown := Work.write 1 (Text.bytes (Console.shown events))
            if Console.hasQuit events then goOn m p [shown, .exit 0]
            else if e.closeAfter.any (· ≤ lines) then
              goOn m (p.disconnect 0) [shown, .serve e console lines false]
            else goOn m p [shown, .serve e console lines true]
          | (.blocked, m) => waitFor m (w :: rest) (.data h true)
          | (_, m) => goOn m p [.serve e console lines false]

/-! ### Running -/

/-- A process takes a step. -/
def step (m : Machine) (p : Process) : Machine :=
  match p.activity with
  | .starting argv => startProgram m p argv
  | .shell s => Turn.step ⟨m, p, s⟩
  | .working todo => work m p todo

/-- The process that can go on first, and when. -/
def first? (m : Machine) : Option (Instant × Process) :=
  m.processes.foldl (fun best p =>
    match p.ready? m, best with
    | some t, some (u, _) => if t < u then some (t, p) else best
    | some t, none => some (t, p)
    | none, _ => best) none

/-- Runs until a moment, or until the machine is as it is wanted, in at most so many steps. -/
def runSteps (wanted : Machine → Bool) (limit : Instant) : Nat → Machine → Machine
  | 0, m => { m with now := max m.now limit }
  | fuel + 1, m =>
    if wanted m then m
    else
      match m.first? with
      | some (t, p) =>
        if t ≤ limit then
          runSteps wanted limit fuel (step { m with now := max m.now t } p).noteSilence
        else { m with now := max m.now limit }
      | none => { m with now := max m.now limit }

/-- Runs until a moment, or until the machine is as it is wanted. Steps take time, so a number of
steps that no run exceeds can be told from the time that is left. -/
def runUntil (m : Machine) (wanted : Machine → Bool) (limit : Instant) : Machine :=
  runSteps wanted limit ((limit - m.now) + 1000000) m

/-- Runs until a moment. -/
def run (m : Machine) (limit : Instant) : Machine := m.runUntil (fun _ => false) limit

end GuestHarness.Machine
