import GuestHarness.Machine.Basic
import GuestHarness.Shell.Format
import GuestHarness.Text.Carried

/-!
The programs of the machine, apart from the shell: what each of them has to do for its arguments.
-/

namespace GuestHarness.Machine

/-! ### Finding programs -/

/-- The directories in which programs are looked for unless a variable says otherwise. -/
def defaultPath : String := "/usr/local/sbin:/usr/local/bin:/usr/sbin:/usr/bin:/sbin:/bin"

/-- The file of a program: by its path if the name has a slash, else in the first directory of the
search path in which one can be run. -/
def programFile (files : FileTree) (searchPath name : String) : Except IoError (List String) :=
  let runnable := fun path =>
    match files.find path with
    | .ok (.file _ true) => files.locate path
    | .ok _ => .error Errno.permissionDenied
    | .error e => .error e
  if name.toList.contains '/' then runnable name
  else
    let dirs := (searchPath.toList.splitOnP (· = ':')).map String.ofList
    let found := dirs.map fun d => runnable ((if d = "" then "." else d) ++ "/" ++ name)
    match found.find? (·.isOk), found.find? (· matches .error (.os 13)) with
    | some place, _ => place
    | none, some refused => refused
    | none, none => .error Errno.notFound

/-! ### Small readers -/

/-- A number of seconds with a fraction and a unit, in nanoseconds. -/
def interval? (s : String) : Option Nat :=
  let cs := s.toList
  let whole := cs.takeWhile Char.isDigit
  let rest := cs.drop whole.length
  let (fraction, rest) := match rest with
    | '.' :: more => (more.takeWhile Char.isDigit, more.dropWhile Char.isDigit)
    | _ => ([], rest)
  let unit := match rest with
    | [] => some 1
    | ['s'] => some 1
    | ['m'] => some 60
    | ['h'] => some 3600
    | ['d'] => some 86400
    | _ => none
  if whole = [] && fraction = [] then none
  else unit.map fun u =>
    u * (Text.digitsValue whole * 1000000000 +
      Text.digitsValue (fraction.take 9) * Nat.pow 10 (9 - min 9 fraction.length))

/-- A number with a unit of size. -/
def size? (s : String) : Option Nat :=
  let cs := s.toList
  let ds := cs.takeWhile Char.isDigit
  if ds = [] then none
  else
    let unit := match String.ofList (cs.drop ds.length) with
      | "" => some 1
      | "b" => some 512
      | "k" => some 1024
      | "K" => some 1024
      | "kB" => some 1000
      | "M" => some 1048576
      | "MB" => some 1000000
      | _ => none
    unit.map (Text.digitsValue ds * ·)

/-- The words of a command line: letters that are set, the value of the last letter with a value,
and the words behind the options. -/
structure Words where
  letters : List Char := []
  value : Option (Char × String) := none
  free : List String := []

/-- Reads the words of a command line; some letters have values. -/
def Words.read (valued : List Char) : List String → Words → Words
  | [], w => w
  | word :: rest, w =>
    match word.toList with
    | ['-', '-'] => { w with free := w.free ++ rest }
    | '-' :: c :: cs =>
      if valued.contains c then
        if cs = [] then
          match rest with
          | v :: rest =>
            Words.read valued rest { w with letters := w.letters ++ [c], value := some (c, v) }
          | [] => { w with letters := w.letters ++ [c] }
        else Words.read valued rest
          { w with letters := w.letters ++ [c], value := some (c, String.ofList cs) }
      else if c.isDigit then
        Words.read valued rest { w with value := some ('n', String.ofList (c :: cs)) }
      else Words.read valued rest { w with letters := w.letters ++ c :: cs }
    | _ => Words.read valued rest { w with free := w.free ++ [word] }

/-! ### Sets of bytes -/

/-- The bytes between two bytes. -/
def byteRange (a b : UInt8) : Bytes :=
  (List.range (b.toNat + 1 - a.toNat)).map fun n => (a.toNat + n).toUInt8

/-- The byte behind a backslash, and what is left. -/
def escapedByte : Bytes → UInt8 × Bytes
  | [] => (0x5C, [])
  | b :: rest =>
    let digits := ((b :: rest).take 3).takeWhile fun (d : UInt8) => 0x30 ≤ d && d ≤ 0x37
    if digits ≠ [] then
      ((digits.foldl (fun (n : Nat) (d : UInt8) => 8 * n + (d.toNat - 0x30)) 0).toUInt8,
        (b :: rest).drop digits.length)
    else
      let c := match Char.ofNat b.toNat with
        | 'a' => 7
        | 'b' => 8
        | 'f' => 12
        | 'n' => 10
        | 'r' => 13
        | 't' => 9
        | 'v' => 11
        | _ => b
      (c, rest)

/-- The classes of bytes that have names. -/
def namedClasses : List (String × Bytes) := [
  ("[:upper:]", byteRange 0x41 0x5A), ("[:lower:]", byteRange 0x61 0x7A),
  ("[:digit:]", byteRange 0x30 0x39), ("[:alpha:]", byteRange 0x41 0x5A ++ byteRange 0x61 0x7A),
  ("[:alnum:]", byteRange 0x30 0x39 ++ byteRange 0x41 0x5A ++ byteRange 0x61 0x7A),
  ("[:space:]", [9, 10, 11, 12, 13, 32]), ("[:blank:]", [9, 32])]

/-- The bytes that a description of a set stands for, in order. -/
def byteSet : Nat → Bytes → Bytes
  | 0, _ => []
  | _, [] => []
  | fuel + 1, b :: rest =>
    match namedClasses.find? fun c => (Text.bytes c.1).isPrefixOf (b :: rest) with
    | some (name, bytes) => bytes ++ byteSet fuel ((b :: rest).drop name.length)
    | none =>
      let (a, rest) := if b = 0x5C then escapedByte rest else (b, rest)
      match rest with
      | 0x2D :: c :: rest =>
        let (z, rest) := if c = 0x5C then escapedByte rest else (c, rest)
        byteRange a z ++ byteSet fuel rest
      | _ => a :: byteSet fuel rest

/-- What becomes of each byte. -/
def replacer (letters : List Char) (sets : List String) : UInt8 → Option UInt8 :=
  let bytes := fun (s : String) => byteSet (Text.uncarried s).length (Text.uncarried s)
  let first := bytes (sets.headD "")
  let second := bytes ((sets.drop 1).headD "")
  let inFirst := fun b => first.contains b != (letters.contains 'c' || letters.contains 'C')
  if letters.contains 'd' then fun b => if inFirst b then none else some b
  else if letters.contains 'c' || letters.contains 'C' then
    fun b => if inFirst b then second.getLast? else some b
  else
    fun b =>
      match first.idxOf? b with
      | some n => (second[n]?).or second.getLast?
      | none => some b

/-! ### Programs -/

/-- What a program comes to: the machine and the process after its first moments, and what is left
to do. -/
structure Begun where
  machine : Machine
  process : Process
  work : List Work

/-- What a program is: what it comes to for a process and arguments. -/
abbrev Program := Machine → Process → List String → Begun

/-- Writes a text and is done. -/
def print (s : String) : Program := fun m p _ => ⟨m, p, [.write 1 (Text.uncarried s), .exit 0]⟩

/-- The words for a failure, without its number. -/
def reason : IoError → String
  | .os n => errnoText n
  | e => e.message

/-- A complaint. -/
def complain (s : String) : Work := .write 2 (Text.uncarried (s ++ "\n"))

/-- A complaint of a program about a file. -/
def complainAbout (program file : String) (e : IoError) : Work :=
  complain (program ++ ": " ++ file ++ ": " ++ reason e)

/-- Complains about how a program is used. -/
def misused (program what : String) : Program := fun m p _ =>
  ⟨m, p, [complain (program ++ ": " ++ what ++ "\nTry '" ++ program ++
    " --help' for more information."), .exit 1]⟩

/-- Opens a file for reading. -/
def openForReading (m : Machine) (directory : List String) (path : String) :
    Except IoError (Handle × Machine) := do
  let files := { m.files with cwd := directory }
  let place ← files.locate path
  if place = ["dev", "null"] then return (.null, m)
  if place = ["dev", "zero"] then return (.zero, m)
  match ← files.find path with
  | .directory => throw Errno.isADirectory
  | .file _ _ => return m.openPlace { place := place }

/-- Opens a file for writing; it is emptied or added to. -/
def openForWriting (m : Machine) (directory : List String) (path : String) (adds : Bool) :
    Except IoError (Handle × Machine) := do
  let files := { m.files with cwd := directory }
  if (files.locate path).toOption = some ["dev", "null"] then return (.null, m)
  let (place, _) ← files.openForWriting path
  let changed := match files.entryAt place with
    | some (.file content executable) =>
      files.insert place (.file (if adds then content else []) executable)
    | _ => files.insert place (.file [] false)
  return { m with files := { changed with cwd := m.files.cwd } }.openPlace
    { place := place, adds := adds }

/-- The first descriptor number that programs use for their own files. -/
def firstOwn : Nat := 10

/-- A free descriptor number. -/
def Process.freeNumber (p : Process) : Nat :=
  (p.descriptors.map (·.1 + 1)).foldl max firstOwn

/-- Filters each of some files, or the input if there are none; a file that cannot be read is
complained about. -/
def overFiles (program : String) (filter : String → Filter) (paths : List String)
    (m : Machine) (p : Process) : Begun :=
  let step := fun (acc : Begun × Nat) (path : String) =>
    let (b, code) := acc
    if path = "-" then ({ b with work := b.work ++ [.filter (filter path) 0 [] []] }, code)
    else
      match openForReading b.machine p.directory path with
      | .error e => ({ b with work := b.work ++ [complainAbout program path e] }, 1)
      | .ok (h, m) =>
        let n := b.process.freeNumber
        (⟨m, b.process.connect n h, b.work ++ [.filter (filter path) n [] []]⟩, code)
  let (b, code) := (if paths = [] then ["-"] else paths).foldl step (⟨m, p, []⟩, 0)
  { b with work := b.work ++ [.exit code] }

/-- Changes a file for each of some paths; one that cannot be changed is complained about. -/
def changing (verdict : String → IoError → Option Work)
    (change : FileTree → String → Except IoError FileTree) (paths : List String)
    (m : Machine) (p : Process) : Begun :=
  let step := fun (acc : Machine × List Work × Nat) (path : String) =>
    let (m, work, code) := acc
    match change { m.files with cwd := p.directory } path with
    | .ok files => ({ m with files := { files with cwd := m.files.cwd } }, work, code)
    | .error e =>
      match verdict path e with
      | some w => (m, work ++ [w], 1)
      | none => (m, work, code)
  let (m, work, code) := paths.foldl step (m, [], 0)
  ⟨m, p, work ++ [.exit code]⟩

/-- A text in the quotes of complaints. -/
def inQuotes (s : String) : String := "'" ++ s ++ "'"

/-- The numbers from one to another in steps. -/
def sequence (first step last : Int) : List Int :=
  if step = 0 then []
  else
    let count := if step > 0 then last - first else first - last
    if count < 0 then []
    else (List.range ((count / step.natAbs).toNat + 1)).map fun (n : Nat) => first + step * n

/-- Removes what stands at a place and below it. -/
def removeBelow (files : FileTree) (place : List String) : FileTree :=
  { files with entries := files.entries.filter fun e => !place.isPrefixOf e.1 }

/-- Lets time pass. -/
def sleep : Program := fun m p args =>
  if args.any fun a => a = "inf" || a = "infinity" then ⟨m, p, [.asleep]⟩
  else if args = [] then misused "sleep" "missing operand" m p args
  else
    match args.find? fun a => (interval? a).isNone with
    | some a => misused "sleep" ("invalid time interval " ++ inQuotes a) m p args
    | none => ⟨m, p, [.pause ((args.filterMap interval?).foldl (· + ·) 0), .exit 0]⟩

/-- Counts lines, words and bytes. -/
def wordCount : Program := fun m p args =>
  let w := Words.read [] args {}
  let counts := fun (c : Char) => w.letters = [] || w.letters.contains c
  let bytes := counts 'c' || w.letters.contains 'm'
  overFiles "wc" (fun path => .count (counts 'l') (counts 'w') bytes
    (if w.free = [] then "" else path) {}) w.free m p

/-- Copies the front of files. -/
def head : Program := fun m p args =>
  let w := Words.read ['n', 'c'] args {}
  let filter := match w.value with
    | some (c, v) => Filter.front (c ≠ 'c') ((size? v).getD 0)
    | none => .front true 10
  overFiles "head" (fun _ => filter) w.free m p

/-- Copies the end of files, and may go on to wait for more. -/
def tail : Program := fun m p args =>
  let w := Words.read ['n', 'c'] args {}
  let filter := match w.value with
    | some (c, v) =>
      match v.toList with
      | '+' :: ds => Filter.fromOn (c ≠ 'c') ((size? (String.ofList ds)).getD 1 - 1)
      | _ => .back (c ≠ 'c') ((size? v).getD 0) []
    | none => .back true 10 []
  let b := overFiles "tail" (fun _ => filter) w.free m p
  if w.letters.contains 'f' || w.letters.contains 'F' then
    { b with work := b.work.dropLast ++ [.asleep] }
  else b

/-- Replaces bytes. -/
def transliterate : Program := fun m p args =>
  let w := Words.read [] args {}
  let replaced := replacer w.letters w.free
  let table := ((List.range 256).map fun n => replaced n.toUInt8).toArray
  ⟨m, p, [.filter (.replace table) 0 [] [], .exit 0]⟩

/-- Copies its input and files it too. -/
def tee : Program := fun m p args =>
  let w := Words.read [] args {}
  let step := fun (acc : Begun × List Nat) (path : String) =>
    let (b, ns) := acc
    match openForWriting b.machine p.directory path (w.letters.contains 'a') with
    | .error e => ({ b with work := b.work ++ [complainAbout "tee" path e] }, ns)
    | .ok (h, m) =>
      let n := b.process.freeNumber
      (⟨m, b.process.connect n h, b.work⟩, ns ++ [n])
  let (b, ns) := w.free.foldl step (⟨m, p, []⟩, [])
  { b with work := b.work ++ [.filter .copy 0 ns [], .exit (if b.work.isEmpty then 0 else 1)] }

/-- Makes files that do not exist. -/
def touch : Program := fun m p args =>
  changing
    (fun path e => if e = Errno.isADirectory then none
      else some (complain ("touch: cannot touch '" ++ path ++ "': " ++ reason e)))
    (fun files path => do
      let (place, _) ← files.openForWriting path
      return if (files.entryAt place).isSome then files else files.insert place (.file [] false))
    (Words.read [] args {}).free m p

/-- Makes directories. -/
def makeDirectories : Program := fun m p args =>
  let w := Words.read [] args {}
  changing
    (fun path e =>
      some (complain ("mkdir: cannot create directory " ++ inQuotes path ++ ": " ++ reason e)))
    (if w.letters.contains 'p' then FileTree.makeDirectories else FileTree.makeDirectory) w.free m p

/-- Removes files, and directories if it is told to. -/
def remove : Program := fun m p args =>
  let w := Words.read [] args {}
  changing
    (fun path e => if w.letters.contains 'f' && e = Errno.notFound then none
      else some (complain ("rm: cannot remove '" ++ path ++ "': " ++ reason e)))
    (fun files path => do
      match ← files.find path with
      | .directory =>
        if w.letters.contains 'r' || w.letters.contains 'R' then
          return removeBelow files (← files.locate path)
        else throw Errno.isADirectory
      | .file _ _ => return removeBelow files (← files.locate path))
    w.free m p

/-- Counts from one number to another. -/
def countUp : Program := fun m p args =>
  let ns := match args.map Shell.numberOf with
    | [] => []
    | [last] => sequence 1 1 last
    | [first, last] => sequence first 1 last
    | first :: step :: last :: _ => sequence first step last
  if args = [] then misused "seq" "missing operand" m p args
  else print (String.join (ns.map fun n => Shell.integerText n ++ "\n")) m p args

/-- Says the same for ever. -/
def repeatLine : Program := fun m p args =>
  let line := Text.uncarried ((if args = [] then "y" else " ".intercalate args) ++ "\n")
  ⟨m, p, [.overflow 1 (List.replicate (8192 / line.length + 1) line).flatten]⟩

/-- Copies blocks of a file. -/
def copyBlocks : Program := fun m p args =>
  let value := fun (key : String) => args.findSome? fun a =>
    let cs := a.toList
    let ks := key.toList ++ ['=']
    if ks.isPrefixOf cs then some (String.ofList (cs.drop ks.length)) else none
  let size := ((value "bs").bind size?).getD 512
  let filter := match (value "count").bind size? with
    | some n => Filter.front false (n * size)
    | none => .copy
  let b := overFiles "dd" (fun _ => filter) (value "if").toList m p
  match value "of" with
  | none => b
  | some path =>
    match openForWriting b.machine p.directory path false with
    | .error e => { b with work := [complainAbout "dd" path e, .exit 1] }
    | .ok (h, m) => { b with machine := m, process := b.process.connect 1 h }

/-- Writes its words. -/
def echo : Program := fun m p args =>
  match args with
  | "-n" :: rest => print (" ".intercalate rest) m p args
  | _ => print (" ".intercalate args ++ "\n") m p args

/-- Lists the names in a directory. -/
def list : Program := fun m p args =>
  let path := (Words.read [] args {}).free.headD "."
  let files := { m.files with cwd := p.directory }
  match files.find path, files.locate path with
  | .ok .directory, .ok place =>
    let inside := files.entries.filter fun e =>
      e.1.length = place.length + 1 && place.isPrefixOf e.1
    let names := (inside.filterMap (·.1.getLast?)).mergeSort (· ≤ ·)
    print (String.join (names.map (· ++ "\n"))) m p args
  | .ok _, _ => print (path ++ "\n") m p args
  | .error e, _ =>
    ⟨m, p, [complain ("ls: cannot access '" ++ path ++ "': " ++ reason e), .exit 2]⟩

/-- Writes its words by a format. -/
def printf : Program := fun m p args => ⟨m, p, [.write 1 (Shell.Format.printf args), .exit 0]⟩

/-- Emulates a guest. -/
def emulate : Program := fun m p args =>
  match Emulator.ofArgs args with
  | .error .usage => ⟨m, p, [.exit 2]⟩
  | .error (.asked _) => ⟨m, p, [.exit 0]⟩
  | .ok e =>
    let boot := [.write 1 (Text.bytes Emulator.greeting)] ++
      (if e.bootDelay = 0 then [] else [Work.pause (milliseconds e.bootDelay)]) ++
      [.write 1 (Text.bytes Emulator.ready)] ++
      (if e.burst = 0 then [] else [.write 1 (Emulator.burstOutput e.burst)])
    let p := { p with caught := [Signal.term], ignored := Signal.pipe :: p.ignored }
    ⟨m, p, boot ++ match e.exitCode with
      | some code => [.exit code]
      | none => [.serve e {} 0 true]⟩

/-- The programs by their names. One that is not listed ends at once. -/
def programs : List (String × Program) := [
  ("true", fun m p _ => ⟨m, p, [.exit 0]⟩), ("false", fun m p _ => ⟨m, p, [.exit 1]⟩),
  ("sleep", sleep), ("wc", wordCount), ("head", head), ("tail", tail), ("tr", transliterate),
  ("cat", fun m p args => overFiles "cat" (fun _ => .copy) (Words.read [] args {}).free m p),
  ("tee", tee), ("touch", touch), ("mkdir", makeDirectories), ("rm", remove), ("seq", countUp),
  ("yes", repeatLine), ("dd", copyBlocks), ("echo", echo),
  ("pwd", fun m p args => print ("/" ++ "/".intercalate p.directory ++ "\n") m p args),
  ("ls", list), ("printf", printf), ("testexe", emulate)]

/-- What the program with a name comes to. -/
def programNamed (name : String) : Program :=
  (programs.lookup name).getD fun m p _ => ⟨m, p, [.exit 0]⟩

end GuestHarness.Machine
