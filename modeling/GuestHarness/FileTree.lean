import GuestHarness.OsError
import GuestHarness.Text.Lossy

/-!
A tree of files, seen through paths. A path is looked up name by name from the root or from a
working directory; what stands in the way of a look-up is an error of the operating system.
-/

namespace GuestHarness

/-- What stands at a place of the tree. -/
inductive FileEntry where
  | directory
  | file (content : Bytes) (executable : Bool)
deriving DecidableEq

/-- The places of a tree below its root, each named by the list of names that leads to it, and
the working directory. -/
structure FileTree where
  entries : List (List String × FileEntry)
  cwd : List String
deriving DecidableEq

namespace FileTree

/-! ### Paths -/

/-- The names of a path: what stands between slashes, without empty names and single dots. -/
def pathNames (path : String) : List String :=
  (path.toList.splitOnP (· = '/')).map String.ofList |>.filter fun n => n ≠ "" ∧ n ≠ "."

/-- The path starts at the root. -/
def isAbsolute (path : String) : Bool := path.toList.head? == some '/'

/-- The path can only name a directory. -/
def endsInSlash (path : String) : Bool := path.toList.getLast? == some '/'

/-- The path of the directory that holds what a path names; there is none for the root and for
the empty path. -/
def parentPath? (path : String) : Option String :=
  match (pathNames path).reverse with
  | [] => none
  | _ :: rest =>
    some ((if isAbsolute path then "/" else "") ++ "/".intercalate rest.reverse)

/-! ### Looking up -/

/-- What stands at a place. -/
def entryAt (t : FileTree) (place : List String) : Option FileEntry :=
  if place = [] then some .directory else t.entries.lookup place

/-- The longest name that a directory can hold, in bytes. -/
def maxName : Nat := 255

/-- The longest path, in bytes, that can be looked up. -/
def maxPath : Nat := 4095

/-- Follows names from a place. Only the last of them may be missing. -/
def walk (t : FileTree) : List String → List String → Except IoError (List String)
  | place, [] => .ok place
  | place, name :: rest =>
    match t.entryAt place with
    | some .directory =>
      if name = ".." then walk t place.dropLast rest
      else if maxName < Text.byteLength name then .error Errno.nameTooLong
      else walk t (place ++ [name]) rest
    | some (.file _ _) => .error Errno.notADirectory
    | none => .error Errno.notFound

/-- The place that a path names, whether or not something stands there. -/
def locate (t : FileTree) (path : String) : Except IoError (List String) :=
  if path.toList.contains '\x00' then
    .error (.custom .other "file name contained an unexpected NUL byte")
  else if path = "" then .error Errno.notFound
  else if maxPath < Text.byteLength path then .error Errno.nameTooLong
  else t.walk (if isAbsolute path then [] else t.cwd) (pathNames path)

/-- What a path names. -/
def find (t : FileTree) (path : String) : Except IoError FileEntry := do
  let place ← t.locate path
  match t.entryAt place with
  | none => throw Errno.notFound
  | some .directory => return .directory
  | some (.file content executable) =>
    if endsInSlash path then throw Errno.notADirectory
    return .file content executable

/-- The path names a regular file. -/
def isFile (t : FileTree) (path : String) : Bool :=
  match t.find path with
  | .ok (.file _ _) => true
  | _ => false

/-- The path names a directory. -/
def isDirectory (t : FileTree) (path : String) : Bool :=
  match t.find path with
  | .ok .directory => true
  | _ => false

/-- The content of the file that a path names. -/
def read (t : FileTree) (path : String) : Except IoError Bytes := do
  match ← t.find path with
  | .file content _ => return content
  | .directory => throw Errno.isADirectory

/-! ### Changing -/

/-- Puts an entry at a place, in the position of the one that stood there. -/
def insert (t : FileTree) (place : List String) (entry : FileEntry) : FileTree :=
  if t.entries.any (·.1 = place) then
    { t with entries := t.entries.map fun e => if e.1 = place then (place, entry) else e }
  else { t with entries := t.entries ++ [(place, entry)] }

/-- Makes one directory. -/
def makeDirectory (t : FileTree) (path : String) : Except IoError FileTree := do
  let place ← t.locate path
  match t.entryAt place with
  | some _ => throw Errno.alreadyExists
  | none => return t.insert place .directory

/-- Makes a directory, and those above it that are missing. -/
def makeDirectories (t : FileTree) (path : String) : Except IoError FileTree :=
  go t (pathNames path).length path
where
  /-- Makes a directory that has at most so many above it. -/
  go (t : FileTree) : Nat → String → Except IoError FileTree
    | 0, path => if t.isDirectory path then .ok t else t.makeDirectory path
    | depth + 1, path =>
      match t.makeDirectory path with
      | .ok made => .ok made
      | .error e =>
        if e = Errno.notFound then
          match parentPath? path with
          | none => .error e
          | some "" => .error e
          | some above =>
            match go t depth above with
            | .error e => .error e
            | .ok t =>
              match t.makeDirectory path with
              | .ok made => .ok made
              | .error e => if t.isDirectory path then .ok t else .error e
        else if t.isDirectory path then .ok t
        else .error e

/-- The place of a file that is to be written, and what it holds if it exists. -/
def openForWriting (t : FileTree) (path : String) : Except IoError (List String × Bytes) := do
  let place ← t.locate path
  match t.entryAt place with
  | some (.file content _) =>
    if endsInSlash path then throw Errno.notADirectory
    return (place, content)
  | some .directory => throw Errno.isADirectory
  | none =>
    if endsInSlash path then throw Errno.isADirectory
    match t.entryAt place.dropLast with
    | some .directory => return (place, [])
    | some (.file _ _) => throw Errno.notADirectory
    | none => throw Errno.notFound

/-- Sets what a file holds, and makes it if it does not exist. -/
def write (t : FileTree) (path : String) (content : Bytes) : Except IoError FileTree := do
  let (place, _) ← t.openForWriting path
  return t.insert place (.file content false)

/-- Adds to the end of the file at a place. -/
def append (t : FileTree) (place : List String) (more : Bytes) : FileTree :=
  match t.entryAt place with
  | some (.file content executable) => t.insert place (.file (content ++ more) executable)
  | _ => t

end FileTree
end GuestHarness
