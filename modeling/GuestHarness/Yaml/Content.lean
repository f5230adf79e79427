import GuestHarness.Yaml.Record

/-!
Data whose kind is told by one of its own entries. Until that entry is met the other ones are read
as they are, and what they mean is found out afterwards; problems that show then have no place.
-/

namespace GuestHarness.Yaml

/-- Data that has been read as it is. -/
inductive Content where
  | null
  | bool (b : Bool)
  | integer (n : Int)
  | float (shown : String)
  | text (s : String)
  | list (items : List Content)
  | mapping (entries : List (Content × Content))

/-- What a scalar is as content. -/
def ScalarValue.content : ScalarValue → Content
  | .null => .null
  | .bool b => .bool b
  | .integer n => .integer n
  | .float shown => .float shown
  | .text s => .text s

namespace Content

/-- Tells what content was found to be. -/
def found : Content → Found
  | null => .null
  | bool b => .bool b
  | integer n => .integer n
  | float shown => .float shown
  | text s => .text s
  | list _ => .sequence
  | mapping _ => .mapping

/-! ### Reading data as it is -/

/-- Reading counts how often an alias may still be followed. -/
abbrev Budgeted (α : Type) := StateT Nat Read α

/-- How deep collections may be nested. -/
def depthLimit : Nat := 128

/-- How often aliases may be followed for each part of a document. -/
def repetitionLimit : Nat := 100

/-- Reads the items of a sequence from the given position on. -/
def ofItems (read : Path → Node → Budgeted Content) (path : Path) :
    Nat → List Node → Budgeted (List Content)
  | _, [] => return []
  | i, n :: rest => do
    let c ← read (.item path i) n
    return c :: (← ofItems read path (i + 1) rest)

/-- Reads the entries of a mapping. -/
def ofEntries (read : Path → Node → Budgeted Content) (p : Place) :
    List (Node × Node) → Budgeted (List (Content × Content))
  | [] => return []
  | (k, v) :: rest => do
    let key ← read p.path k
    let value ← read (p.entryPath k) v
    return (key, value) :: (← ofEntries read p rest)

/-- The number is one that can be kept: it takes at most 64 bits. -/
def isKept (n : Int) : Bool := -0x8000000000000000 ≤ n && n < 0x10000000000000000

/-- Follows an alias, as long as that is still allowed. -/
def follow (d : Document) (n : Node) : Budgeted Node :=
  match n with
  | .alias _ => do
    match ← get with
    | 0 => throw .faulty
    | budget + 1 => do
      set budget
      return d.resolve n
  | _ => return n

/-- Reads a node as it is, and the parts of a collection with a reader of their own, if there may
be any. -/
def ofNodeWith (d : Document) (inner : Option (Path → Node → Budgeted Content)) (path : Path)
    (raw : Node) : Budgeted Content := do
  let n ← follow d raw
  let p : Place := ⟨d, path, n⟩
  if (localTag? n.tag?).isSome then
    p.fail (.other "untagged and internally tagged enums do not support enum input")
  else
    match n, inner with
    | .scalar s, _ =>
      match s.value with
      | .error problem => p.fail problem
      | .ok (.integer n) =>
        if isKept n then return .integer n
        else p.fail (.wrongType (.integer n) "any value")
      | .ok v => return v.content
    | .sequence _ ns, some read => return .list (← ofItems read path 0 ns)
    | .mapping _ kvs, some read => return .mapping (← ofEntries read p kvs)
    | .absent, _ => return .null
    | _, _ => throw .faulty

/-- Reads a node as it is, with collections nested at most so deep. -/
def ofNode (d : Document) : Nat → Path → Node → Budgeted Content
  | 0 => ofNodeWith d none
  | depth + 1 => ofNodeWith d (some (ofNode d depth))

/-- The number of steps of a path. -/
def depthOf : Path → Nat
  | .root => 0
  | .item parent _ => depthOf parent + 1
  | .entry parent _ => depthOf parent + 1
  | .unnamed parent => depthOf parent + 1

/-! ### Reading content as something -/

/-- Reports that something else was expected. -/
def mismatch {α : Type} (c : Content) (expected : String) : Read α :=
  .error (.problem none (.wrongType c.found expected))

/-- Reads a text. -/
def readText : Content → Read String
  | text s => .ok s
  | c => c.mismatch "a string"

/-- Reads a natural number of 64 bits. -/
def readSize : Content → Read Nat
  | integer n =>
    if 0 ≤ n then .ok n.toNat else .error (.problem none (.wrongValue (.integer n) "usize"))
  | c => c.mismatch "usize"

/-- Reads a whole number of 32 bits. -/
def readInteger32 : Content → Read Int
  | integer n =>
    if -0x80000000 ≤ n && n < 0x80000000 then .ok n
    else .error (.problem none (.wrongValue (.integer n) "i32"))
  | c => c.mismatch "i32"

/-- Reads something that may be null. -/
def readOptional {α : Type} (read : Content → Read α) : Content → Read (Option α)
  | null => .ok none
  | c => some <$> read c

/-- A number of elements. -/
def elements (n : Nat) : String := Text.decimal n ++ if n = 1 then " element" else " elements"

/-- Goes through entries. A number as a key stands for the field at that position. -/
def listEntries (names : List String) :
    Nat → List (String × Nat × Content) → List (Content × Content) → Listing Content
  | n, known, [] => ⟨known.reverse, n, none⟩
  | n, known, (key, value) :: rest =>
    let stopped := fun p => (⟨known.reverse, n, some (n, .problem none p)⟩ : Listing Content)
    let go := fun (name : Option String) =>
      match name.filter names.contains with
      | none => listEntries names (n + 1) known rest
      | some name =>
        if known.any (·.1 = name) then stopped (.duplicateField name)
        else listEntries names (n + 1) ((name, n, value) :: known) rest
    match key with
    | text name => go (some name)
    | integer i =>
      if 0 ≤ i then go names[i.toNat]?
      else stopped (.wrongType key.found "field identifier")
    | key => stopped (.wrongType key.found "field identifier")

/-- Goes through a list of all fields in their order. -/
def listItems (names : List String) (expected : String) (cs : List Content) : Listing Content :=
  let known := (names.zip cs).mapIdx fun i (name, c) => (name, i, c)
  let stop := fun p => some (known.length, ReadError.problem none p)
  ⟨known, cs.length,
    if cs.length < names.length then
      stop (.wrongLength cs.length (expected ++ " with " ++ elements names.length))
    else if names.length < cs.length then
      stop (.wrongLength cs.length (elements names.length ++ " in sequence"))
    else none⟩

/-- Reads a record from a mapping or a list. -/
def record {α : Type} (expected : String) (fields : Fields Content α) (c : Content) : Read α :=
  match c with
  | mapping entries =>
    let l := listEntries fields.names 0 [] entries
    (fields.build l).settle l.stop
  | list cs =>
    let l := listItems fields.names expected cs
    (fields.build l).settle l.stop
  | c => c.mismatch expected

/-- Reads a kind without fields; only a list must not have any items. -/
def bare {α : Type} (a : α) : Content → Read α
  | list (_ :: cs) =>
    .error (.problem none (.wrongLength (cs.length + 1) (elements 0 ++ " in sequence")))
  | _ => .ok a

end Content

/-! ### Data that tells its kind -/

/-- The entry that tells the kind. -/
def kindKey : String := "kind"

/-- Reads the name of a kind. -/
def readKind {α : Type} (kinds : List (String × α)) (p : Place) : Read α := do
  let name ← p.textAs "variant identifier"
  match variant kinds name with
  | .ok a => return a
  | .error problem => p.fail problem

/-- Goes through the entries of a mapping, of which one tells the kind. -/
def takeKind {α : Type} (kinds : List (String × α)) (p : Place) (depth : Nat) :
    Option α → List (Content × Content) → List (Node × Node) →
      Content.Budgeted (Option α × List (Content × Content))
  | kind, found, [] => return (kind, found.reverse)
  | kind, found, (k, v) :: rest => do
    let key ← Content.ofNode p.document depth p.path k
    match key with
    | .text name =>
      if name = kindKey then
        if kind.isSome then p.fail (.duplicateField kindKey)
        else
          let a ← readKind kinds (p.inner (p.entryPath k) v)
          takeKind kinds p depth (some a) found rest
      else
        let value ← Content.ofNode p.document depth (p.entryPath k) v
        takeKind kinds p depth kind ((key, value) :: found) rest
    | _ =>
      let value ← Content.ofNode p.document depth (p.entryPath k) v
      takeKind kinds p depth kind ((key, value) :: found) rest

/-- Reads data that tells its kind: a mapping with an entry for it, or a list that begins with
it. -/
def Place.byKind {α : Type} (expected : String) (kinds : List (String × (Content → Read α)))
    (p : Place) : Read α := do
  let depth := Content.depthLimit - Content.depthOf p.path - 1
  let budget := Content.repetitionLimit * p.document.size
  if (localTag? p.node.tag?).isSome then p.fail (.wrongType .variant expected)
  else
    match p.node with
    | .mapping _ kvs =>
      match ← (takeKind kinds p depth none [] kvs).run budget with
      | ((some read, entries), _) => read (.mapping entries)
      | ((none, _), _) => p.fail (.missingField kindKey)
    | .sequence _ [] => p.fail (.missingField kindKey)
    | .sequence _ (n :: ns) =>
      let read ← readKind kinds (p.inner (.item p.path 0) n)
      let (cs, _) ← (Content.ofItems (Content.ofNode p.document depth) p.path 1 ns).run budget
      read (.list cs)
    | .absent => p.fail (.wrongType .option expected)
    | _ => p.mismatch expected

end GuestHarness.Yaml
