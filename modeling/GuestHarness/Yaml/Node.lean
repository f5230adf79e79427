import GuestHarness.Yaml.Event

/-!
The nodes of a YAML document. A document that is at fault somewhere still has nodes up to there:
the part that is missing is a broken node, so a reader meets what comes first. An alias names its
node by a number, and the document tells which node that is.
-/

namespace GuestHarness.Yaml

/-- A node of a document. -/
inductive Node where
  | scalar (s : Scalar)
  | sequence (tag : Option (List Char)) (items : List Node)
  | mapping (tag : Option (List Char)) (entries : List (Node × Node))
  | alias (number : Nat)
  | absent
  | broken

namespace Node

mutual
/-- Some part of the node is missing. -/
def faulty : Node → Bool
  | .broken => true
  | .sequence _ items => faultyItems items
  | .mapping _ entries => faultyEntries entries
  | _ => false

/-- Some part of the nodes is missing. -/
def faultyItems : List Node → Bool
  | [] => false
  | n :: rest => n.faulty || faultyItems rest

/-- Some part of the entries is missing. -/
def faultyEntries : List (Node × Node) → Bool
  | [] => false
  | (k, v) :: rest => k.faulty || v.faulty || faultyEntries rest
end

end Node

/-! ### Anchors -/

/-- An event inside a document whose aliases are numbers. -/
inductive Part where
  | scalar (s : Scalar)
  | sequenceStart (tag : Option (List Char))
  | sequenceEnd
  | mappingStart (tag : Option (List Char))
  | mappingEnd
  | alias (number : Nat)

/-- The parts of a document found so far, latest first, and the anchors among them. An anchor
gets as its number how many names there are; each number belongs to the part that got it last. -/
structure Parts where
  parts : List Part := []
  count : Nat := 0
  names : List (List Char × Nat) := []
  places : List (Nat × Nat) := []

namespace Parts

/-- How many names of anchors there are. -/
def nameCount (p : Parts) : Nat := (p.names.map (·.1)).eraseDups.length

/-- Adds a part. -/
def add (p : Parts) (part : Part) : Parts :=
  { p with parts := part :: p.parts, count := p.count + 1 }

/-- Adds a part that may bear an anchor. -/
def addNode (p : Parts) (anchor : Option (List Char)) (part : Part) : Parts :=
  match anchor with
  | none => p.add part
  | some name =>
    let number := p.nameCount
    { p with
      names := (name, number) :: p.names
      places := (number, p.count) :: p.places }.add part

/-- Takes the parts up to the end of the document. Gives the events that follow it, or none if the
document is at fault. -/
def take (p : Parts) : List Event → Parts × Option (List Event)
  | [] => (p, none)
  | .documentEnd :: rest => (p, some rest)
  | .documentStart :: rest => take p rest
  | .streamEnd :: _ => (p, none)
  | .alias name :: rest =>
    match p.names.lookup name with
    | some number => take (p.add (.alias number)) rest
    | none => (p, none)
  | .scalar anchor s :: rest => take (p.addNode anchor (.scalar s)) rest
  | .sequenceStart anchor tag :: rest => take (p.addNode anchor (.sequenceStart tag)) rest
  | .mappingStart anchor tag :: rest => take (p.addNode anchor (.mappingStart tag)) rest
  | .sequenceEnd :: rest => take (p.add .sequenceEnd) rest
  | .mappingEnd :: rest => take (p.add .mappingEnd) rest

end Parts

/-! ### Building nodes -/

namespace Node

mutual
/-- The node at the front. -/
def take : Nat → List Part → Node × List Part
  | 0, ps => (.broken, ps)
  | fuel + 1, ps =>
    match ps with
    | .scalar s :: rest => (.scalar s, rest)
    | .alias number :: rest => (.alias number, rest)
    | .sequenceStart tag :: rest =>
      let (items, rest) := takeItems fuel rest
      (.sequence tag items, rest)
    | .mappingStart tag :: rest =>
      let (entries, rest) := takeEntries fuel rest
      (.mapping tag entries, rest)
    | _ => (.broken, [])

/-- The nodes up to the end of the sequence. -/
def takeItems : Nat → List Part → List Node × List Part
  | 0, ps => ([.broken], ps)
  | fuel + 1, ps =>
    match ps with
    | [] => ([.broken], [])
    | .sequenceEnd :: rest => ([], rest)
    | _ =>
      let (n, rest) := take fuel ps
      let (items, rest) := takeItems fuel rest
      (n :: items, rest)

/-- The pairs of nodes up to the end of the mapping. -/
def takeEntries : Nat → List Part → List (Node × Node) × List Part
  | 0, ps => ([(.broken, .broken)], ps)
  | fuel + 1, ps =>
    match ps with
    | [] => ([(.broken, .broken)], [])
    | .mappingEnd :: rest => ([], rest)
    | _ =>
      let (k, rest) := take fuel ps
      let (v, rest) := take fuel rest
      let (entries, rest) := takeEntries fuel rest
      ((k, v) :: entries, rest)
end

/-- The node that the parts begin with. Each part takes at most two steps. -/
def ofParts (ps : List Part) : Node := (take (2 * ps.length + 2) ps).1

end Node

/-! ### Documents -/

/-- The first document of a text: its root, the nodes that aliases stand for, the number of its
parts, and whether it is all there is and nothing is at fault. -/
structure Document where
  root : Node
  target : Nat → Node := fun _ => .broken
  size : Nat := 0
  whole : Bool := true

/-- The node that a node stands for. -/
def Document.resolve (d : Document) : Node → Node
  | .alias number => d.target number
  | n => n

/-- The first document of a text. A text without any document has an absent root. -/
def Document.ofText (s : String) : Document :=
  match Event.ofText s with
  | [] => { root := .broken, whole := false }
  | .streamEnd :: _ => { root := .absent }
  | events =>
    let (p, rest) := Parts.take {} events
    let parts := p.parts.reverse
    { root := .ofParts parts
      target := fun number =>
        match p.places.lookup number with
        | some i => .ofParts (parts.drop i)
        | none => .broken
      size := p.count
      whole := rest.any fun rest => rest.head? = some .streamEnd }

end GuestHarness.Yaml
