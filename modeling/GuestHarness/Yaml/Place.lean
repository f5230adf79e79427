import GuestHarness.Yaml.Node
import GuestHarness.Yaml.Problem
import GuestHarness.Yaml.ScalarValue

/-!
Reading single nodes of a document. A node is read together with its place, which any problem
with it is reported with; an alias is read as the node that it stands for.
-/

namespace GuestHarness.Yaml

/-- A node that is no alias, where it stands, and what aliases in it stand for. -/
structure Place where
  document : Document
  path : Path
  node : Node

/-- The result of reading something. -/
abbrev Read (α : Type) := Except ReadError α

/-- The root of a document. -/
def Document.place (d : Document) : Place := ⟨d, .root, d.resolve d.root⟩

/-- Tags of the YAML core schema. -/
def coreTag (name : String) : List Char := "tag:yaml.org,2002:".toList ++ name.toList

/-- The name of a tag that is local to a document. -/
def localTag? : Option (List Char) → Option String
  | some ('!' :: c :: rest) => some (String.ofList (c :: rest))
  | _ => none

/-! ### Scalars -/

namespace Scalar

/-- Has one of the tags of the core schema. -/
def hasCoreTag (s : Scalar) (name : String) : Bool := s.tag = some (coreTag name)

/-- What a scalar stands for, by its tag and the way it is written. -/
def value (s : Scalar) : Except Problem ScalarValue :=
  let shown := String.ofList s.content
  let checked := fun (v : Option ScalarValue) (expected : String) =>
    match v with
    | some v => .ok v
    | none => .error (.wrongValue (.text shown) expected)
  if s.hasCoreTag "bool" then checked ((bool? s.content).map .bool) "a boolean"
  else if s.hasCoreTag "int" then
    checked (((integer? s.content).filter isWide).map .integer) "an integer"
  else if s.hasCoreTag "float" then
    checked ((float? s.content).map fun f => .float (String.ofList f)) "a float"
  else if s.hasCoreTag "null" then
    checked (if isNull s.content then some .null else none) "null"
  else if s.style = .plain && (s.tag.all fun t => t.head? = some '!') then
    .ok (.ofPlain s.content)
  else .ok (.text shown)

/-- The scalar is written so that it may stand for something other than a text. -/
def isBare (s : Scalar) (name : String) : Bool :=
  s.style = .plain || (s.style = .literal && s.hasCoreTag name)

/-- Nothing is written. -/
def isEmpty (s : Scalar) : Bool := s.style = .plain && s.content = []

end Scalar

/-- Tells what a value was found to be. -/
def ScalarValue.found : ScalarValue → Found
  | .null => .null
  | .bool b => .bool b
  | .integer n => .integer n
  | .float shown => .float shown
  | .text s => .text s

namespace Place

/-- Reports a problem here. -/
def fail {α : Type} (p : Place) (problem : Problem) : Read α :=
  .error (.problem (some p.path) problem)

/-- Reports that something else was expected here. -/
def mismatch {α : Type} (p : Place) (expected : String) : Read α :=
  match p.node with
  | .scalar s =>
    match s.value with
    | .ok v => p.fail (.wrongType v.found expected)
    | .error problem => p.fail problem
  | .sequence .. => p.fail (.wrongType .sequence expected)
  | .mapping .. => p.fail (.wrongType .mapping expected)
  | .absent => .error .absent
  | .alias _ => .error .faulty
  | .broken => .error .faulty

/-- Reads a text. Every scalar is one, whatever else it may stand for. -/
def textAs (expected : String) (p : Place) : Read String :=
  match p.node with
  | .scalar s => .ok (String.ofList s.content)
  | _ => p.mismatch expected

/-- Reads a text. -/
def text (p : Place) : Read String := p.textAs "a string"

/-- Reads a text that names a file. -/
def filePath (p : Place) : Read String := p.textAs "path string"

/-- Reads a truth value. -/
def flag (p : Place) : Read Bool :=
  match p.node with
  | .scalar s =>
    match if s.isBare "bool" then bool? s.content else none with
    | some b => .ok b
    | none => p.mismatch "a boolean"
  | _ => p.mismatch "a boolean"

/-- Reads a natural number below the limit. Only what has more than 64 bits is not even taken for
a number of this kind. -/
def natural (limit : Nat) (kind : String) (p : Place) : Read Nat :=
  match p.node with
  | .scalar s =>
    match if s.isBare "int" && s.content.head? ≠ some '-' then integer? s.content else none with
    | some n =>
      if 0x10000000000000000 ≤ n then p.mismatch kind
      else if n.toNat < limit then .ok n.toNat
      else p.fail (.wrongValue (.integer n) kind)
    | none => p.mismatch kind
  | _ => p.mismatch kind

/-- Reads a whole number of 32 bits. -/
def integer32 (p : Place) : Read Int :=
  match p.node with
  | .scalar s =>
    match if s.isBare "int" then integer? s.content else none with
    | some n =>
      if n < -0x8000000000000000 || 0x8000000000000000 ≤ n then p.mismatch "i32"
      else if -0x80000000 ≤ n && n < 0x80000000 then .ok n
      else p.fail (.wrongValue (.integer n) "i32")
    | none => p.mismatch "i32"
  | _ => p.mismatch "i32"

/-- Reads something that may be left out. -/
def optional {α : Type} (read : Place → Read α) (p : Place) : Read (Option α) :=
  match p.node with
  | .absent => .ok none
  | .scalar s =>
    if s.style ≠ .plain then some <$> read p
    else if s.hasCoreTag "null" then
      if isNull s.content then .ok none
      else p.fail (.wrongValue (.text (String.ofList s.content)) "null")
    else if s.tag = none && (s.content = [] || isNull s.content) then .ok none
    else some <$> read p
  | _ => some <$> read p

/-! ### Collections -/

/-- The place of a node within this one. -/
def inner (p : Place) (path : Path) (n : Node) : Place := ⟨p.document, path, p.document.resolve n⟩

/-- The places of the items of a sequence. -/
def itemsFrom (p : Place) : Nat → List Node → List Place
  | _, [] => []
  | i, n :: rest => p.inner (.item p.path i) n :: itemsFrom p (i + 1) rest

/-- The places of the items of a sequence. Nothing at all counts as an empty one. -/
def items (p : Place) : Read (List Place) :=
  match p.node with
  | .sequence _ ns => .ok (p.itemsFrom 0 ns)
  | .absent => .ok []
  | .scalar s => if s.isEmpty then .ok [] else p.mismatch "a sequence"
  | _ => p.mismatch "a sequence"

/-- Reads all items of a sequence. -/
def sequence {α : Type} (read : Place → Read α) (p : Place) : Read (List α) := do
  let ps ← p.items
  (ps.mapM read).mapError (·.locate p.path)

/-- The path of a value under a key. Only a scalar that is no alias names it. -/
def entryPath (p : Place) (key : Node) : Path :=
  match key with
  | .scalar s => .entry p.path (String.ofList s.content)
  | _ => .unnamed p.path

/-- The places of the keys and values of a mapping, and the values themselves. Nothing at all
counts as an empty mapping. -/
def entries (expected : String) (p : Place) : Read (List (Place × Place × Node)) :=
  match p.node with
  | .mapping _ kvs =>
    .ok (kvs.map fun kv => (p.inner p.path kv.1, p.inner (p.entryPath kv.1) kv.2, kv.2))
  | .absent => .ok []
  | .scalar s => if s.isEmpty then .ok [] else p.mismatch expected
  | _ => p.mismatch expected

end Place

/-! ### Whole texts -/

/-- Reads the first document of a text. A problem in it comes before any fault of the text that
stands behind it. -/
def readText {α : Type} (read : Place → Read α) (s : String) : Read α := do
  let d := Document.ofText s
  let a ← read d.place
  if d.whole then return a else throw .faulty

end GuestHarness.Yaml
