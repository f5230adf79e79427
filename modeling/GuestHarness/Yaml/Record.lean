import GuestHarness.Yaml.Place

/-!
Records: mappings with fixed fields. The fields may stand in any order, and what stands first is
reported first, so the readers of the fields are independent of each other and carry the positions
of their problems. Entries with other keys are skipped.
-/

namespace GuestHarness.Yaml

/-! ### Independent results -/

/-- The result of reading a field, or the first problem and its position. -/
inductive Outcome (α : Type) where
  | ok (a : α)
  | fails (position : Nat) (e : ReadError)

namespace Outcome

/-- Applies a result to another. Of two problems the one that stands first counts. -/
def apply {α β : Type} : Outcome (α → β) → Outcome α → Outcome β
  | .ok f, .ok a => .ok (f a)
  | .ok _, .fails m e => .fails m e
  | .fails n e, .ok _ => .fails n e
  | .fails n e, .fails m e' => if m < n then .fails m e' else .fails n e

/-- The result, unless reading stopped at a problem before that. -/
def settle {α : Type} (stop : Option (Nat × ReadError)) (o : Outcome α) : Read α :=
  match o, stop with
  | .ok a, none => .ok a
  | .ok _, some (_, e) => .error e
  | .fails _ e, none => .error e
  | .fails n e, some (m, e') => .error (if m < n then e' else e)

end Outcome

/-! ### Fields -/

/-- The fields that were found, with their positions, and what stopped the search. -/
structure Listing (β : Type) where
  known : List (String × Nat × β)
  length : Nat
  stop : Option (Nat × ReadError) := none

namespace Listing

/-- Reads one field, or does without it. -/
def read {α β : Type} (l : Listing β) (name : String) (read : β → Read α)
    (absent : Except Problem α) : Outcome α :=
  match l.known.lookup name with
  | some (position, b) =>
    match read b with
    | .ok a => .ok a
    | .error e => .fails position e
  | none =>
    match absent with
    | .ok a => .ok a
    | .error p => .fails (l.length + 1) (.problem none p)

end Listing

/-- A reader of some fields of a record: their names, and how a listing gives the result. -/
structure Fields (β α : Type) where
  names : List String
  build : Listing β → Outcome α

namespace Fields

instance {β : Type} : Applicative (Fields β) where
  pure a := ⟨[], fun _ => .ok a⟩
  seq f a := ⟨f.names ++ (a ()).names, fun l => (f.build l).apply ((a ()).build l)⟩

/-- A field that has to be there. -/
def required {β α : Type} (name : String) (read : β → Read α) : Fields β α :=
  ⟨[name], fun l => l.read name read (.error (.missingField name))⟩

/-- A field with a value of its own where it is not there. -/
def withDefault {β α : Type} (name : String) (read : β → Read α) (value : α) : Fields β α :=
  ⟨[name], fun l => l.read name read (.ok value)⟩

end Fields

/-! ### Mappings as records -/

/-- Goes through the entries of a mapping from the given position on. Stops at a key that is no
text, a second entry for a field, or a missing part. -/
def listEntries (names : List String) (path : Path) :
    Nat → List (String × Nat × Place) → List (Place × Place × Node) → Listing Place
  | n, known, [] => ⟨known.reverse, n, none⟩
  | n, known, (key, value, raw) :: rest =>
    match key.textAs "field identifier" with
    | .error e => ⟨known.reverse, n, some (n, e)⟩
    | .ok name =>
      if names.contains name then
        if known.any (·.1 = name) then
          ⟨known.reverse, n, some (n, .problem (some path) (.duplicateField name))⟩
        else listEntries names path (n + 1) ((name, n, value) :: known) rest
      else if raw.faulty then ⟨known.reverse, n, some (n, .faulty)⟩
      else listEntries names path (n + 1) known rest

/-- Reads a record from a mapping. -/
def Place.record {α : Type} (expected : String) (fields : Fields Place α) (p : Place) : Read α := do
  let entries ← p.entries expected
  let l := listEntries fields.names p.path 0 [] entries
  ((fields.build l).settle l.stop).mapError (·.locate p.path)

/-- Reads a text and the text under it. -/
def textPair (e : Place × Place × Node) : Read (String × String) := do
  let key ← e.1.text
  let value ← e.2.1.text
  return (key, value)

/-- Reads a mapping from texts to texts, in the order of the document. -/
def Place.texts (p : Place) : Read (List (String × String)) := do
  let entries ← p.entries "a map"
  (entries.mapM textPair).mapError (·.locate p.path)

/-! ### Variants -/

/-- The tag of a node. -/
def Node.tag? : Node → Option (List Char)
  | .scalar s => s.tag
  | .sequence tag _ => tag
  | .mapping tag _ => tag
  | _ => none

/-- What expects a tag but finds none. -/
def untagged : String := "a YAML tag starting with '!'"

/-- Finds a variant by its name. -/
def variant {α : Type} (variants : List (String × α)) (name : String) : Except Problem α :=
  match variants.lookup name with
  | some a => .ok a
  | none => .error (.unknownVariant name (variants.map (·.1)))

/-- The name of a variant, from a local tag or else from a scalar; the former has contents. -/
def Place.variantName (p : Place) : Read (String × Bool) :=
  match localTag? p.node.tag?, p.node with
  | some name, _ => .ok (name, true)
  | none, .scalar s => .ok (String.ofList s.content, false)
  | none, .sequence .. => p.fail (.wrongType .sequence untagged)
  | none, .mapping .. => p.fail (.wrongType .mapping untagged)
  | none, .absent => .error .absent
  | none, _ => .error .faulty

/-- The contents of a variant without any. -/
def Place.nothing (p : Place) : Read Unit :=
  match p.node with
  | .scalar s =>
    if s.style = .plain && (s.content = [] || isNull s.content) then .ok ()
    else p.fail (.wrongValue (.text (String.ofList s.content)) "null")
  | .absent => .ok ()
  | _ => p.mismatch "unit"

/-- Reads one of some names. -/
def Place.choice {α : Type} (variants : List (String × α)) (p : Place) : Read α := do
  let (name, tagged) ← p.variantName
  match variant variants name with
  | .error problem => p.fail problem
  | .ok a =>
    if tagged then p.nothing
    return a

end GuestHarness.Yaml
