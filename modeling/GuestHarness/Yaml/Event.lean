import GuestHarness.Yaml.Lexer

/-!
The structure of a YAML text as a list of events: where documents and collections begin and end,
and what stands in them. The grammar is a machine whose stack holds what is to come after the
part at hand. Events before a fault are kept.
-/

namespace GuestHarness.Yaml

/-- A scalar: how it is written, its content, and its tag. -/
structure Scalar where
  content : List Char
  style : ScalarStyle
  tag : Option (List Char)
deriving DecidableEq

/-- A part of the structure of a text. Nodes may bear an anchor. -/
inductive Event where
  | streamEnd
  | documentStart
  | documentEnd
  | alias (name : List Char)
  | scalar (anchor : Option (List Char)) (s : Scalar)
  | sequenceStart (anchor tag : Option (List Char))
  | sequenceEnd
  | mappingStart (anchor tag : Option (List Char))
  | mappingEnd
deriving DecidableEq

/-- What is to come: at the start or end of a document, or in one of the collections. -/
inductive Expectation where
  | documentStart (first : Bool)
  | documentContent
  | documentEnd
  | blockNode
  | blockSequence (first : Bool)
  | indentlessSequence
  | blockKey (first : Bool)
  | blockValue
  | flowSequence (first : Bool)
  | flowPairKey
  | flowPairValue
  | flowPairEnd
  | flowKey (first : Bool)
  | flowValue (omitted : Bool)
  | finished
deriving DecidableEq

/-- The tokens that are left, what is to come next and after that, and the tag handles of the
document. -/
structure Grammar where
  tokens : List Token
  expected : Expectation := .documentStart true
  stack : List Expectation := []
  handles : List (List Char × List Char) := []

namespace Grammar

/-- The handles that need not be declared. -/
def defaultHandles : List (List Char × List Char) :=
  [(['!'], ['!']), (['!', '!'], "tag:yaml.org,2002:".toList)]

/-- Without the next token. -/
def drop (g : Grammar) : Grammar := { g with tokens := g.tokens.drop 1 }

/-- Goes on with what is to come after the part at hand. -/
def pop (g : Grammar) : Grammar :=
  { g with expected := g.stack.headD .finished, stack := g.stack.drop 1 }

/-- Goes on with something else, and then with the given part. -/
def push (g : Grammar) (later : Expectation) : Grammar := { g with stack := later :: g.stack }

/-- An empty scalar, where a node is left out. -/
def emptyScalar (anchor tag : Option (List Char)) : Event := .scalar anchor ⟨[], .plain, tag⟩

/-- Gives an empty scalar and goes on. -/
def leaveOut (g : Grammar) (next : Expectation) : Option (Event × Grammar) :=
  some (emptyScalar none none, { g with expected := next })

/-- The full name of a tag. -/
def resolveTag (g : Grammar) (handle suffix : List Char) : Option (List Char) :=
  if handle = [] then some suffix
  else ((g.handles ++ defaultHandles).lookup handle).map (· ++ suffix)

/-- Takes anchor and tag, in any order. -/
def properties (g : Grammar) :
    Option (Option (List Char) × Option (List Char) × Grammar) :=
  match g.tokens with
  | .anchor a :: .tag h s :: _ => (g.resolveTag h s).map fun t => (some a, some t, g.drop.drop)
  | .tag h s :: .anchor a :: _ => (g.resolveTag h s).map fun t => (some a, some t, g.drop.drop)
  | [.anchor _] => none
  | [.tag _ _] => none
  | .anchor a :: _ => some (some a, none, g.drop)
  | .tag h s :: _ => (g.resolveTag h s).map fun t => (none, some t, g.drop)
  | _ => some (none, none, g)

/-- A node that is not an alias, with the given properties. -/
def content (g : Grammar) (block indentless : Bool) (anchor tag : Option (List Char)) :
    Option (Event × Grammar) :=
  match g.tokens with
  | .blockEntry :: _ =>
    if indentless then
      some (.sequenceStart anchor tag, { g with expected := .indentlessSequence })
    else if anchor.isSome || tag.isSome then some (emptyScalar anchor tag, g.pop)
    else none
  | .scalar style text :: _ =>
    let tag := if tag = some ['!'] then none else tag
    some (.scalar anchor ⟨text, style, tag⟩, g.pop.drop)
  | .flowSequenceStart :: _ =>
    some (.sequenceStart anchor tag, { g with expected := .flowSequence true })
  | .flowMappingStart :: _ =>
    some (.mappingStart anchor tag, { g with expected := .flowKey true })
  | t :: _ =>
    if block && t = .blockSequenceStart then
      some (.sequenceStart anchor tag, { g with expected := .blockSequence true })
    else if block && t = .blockMappingStart then
      some (.mappingStart anchor tag, { g with expected := .blockKey true })
    else if anchor.isSome || tag.isSome then some (emptyScalar anchor tag, g.pop)
    else none
  | [] => none

/-- A node. -/
def node (g : Grammar) (block indentless : Bool) : Option (Event × Grammar) :=
  match g.tokens with
  | .alias name :: _ => some (.alias name, g.pop.drop)
  | _ => do
    let (anchor, tag, g) ← g.properties
    g.content block indentless anchor tag

/-- A node, after which the given part comes. -/
def nodeThen (g : Grammar) (later : Expectation) (block indentless : Bool) :
    Option (Event × Grammar) := (g.push later).node block indentless

/-- Takes the directives in front of a document. -/
def directives : Nat → Bool → List (List Char × List Char) → List Token →
    Option (List (List Char × List Char) × List Token)
  | 0, _, _, _ => none
  | fuel + 1, versioned, handles, tokens =>
    match tokens with
    | .version major minor :: rest =>
      if versioned || major ≠ 1 || (minor ≠ 1 && minor ≠ 2) then none
      else directives fuel true handles rest
    | .tagDirective h e :: rest =>
      if handles.any (·.1 = h) then none
      else directives fuel versioned (handles ++ [(h, e)]) rest
    | [] => none
    | _ => some (handles, tokens)

/-- The next document, or the end of the text. -/
def documentStart (g : Grammar) (first : Bool) : Option (Event × Grammar) :=
  let tokens := if first then g.tokens
    else g.tokens.dropWhile fun t => t = .documentEnd
  match tokens with
  | [] => none
  | .streamEnd :: rest => some (.streamEnd, { g with tokens := rest, expected := .finished })
  | t :: _ =>
    let explicit := match t with
      | .version _ _ => true
      | .tagDirective _ _ => true
      | .documentStart => true
      | _ => false
    if first && !explicit then
      some (.documentStart, ({ g with tokens := tokens, handles := [], expected := .blockNode } :
        Grammar).push .documentEnd)
    else do
      let (handles, tokens) ← directives (tokens.length + 1) false [] tokens
      match tokens with
      | .documentStart :: rest =>
        some (.documentStart, ({ g with
          tokens := rest, handles := handles, expected := .documentContent } : Grammar).push
            .documentEnd)
      | _ => none

/-- What follows the marker that opens a document. -/
def documentContent (g : Grammar) : Option (Event × Grammar) :=
  match g.tokens with
  | [] => none
  | .version _ _ :: _ => some (emptyScalar none none, g.pop)
  | .tagDirective _ _ :: _ => some (emptyScalar none none, g.pop)
  | .documentStart :: _ => some (emptyScalar none none, g.pop)
  | .documentEnd :: _ => some (emptyScalar none none, g.pop)
  | .streamEnd :: _ => some (emptyScalar none none, g.pop)
  | _ => g.node true false

/-- The end of a document. -/
def documentEnd (g : Grammar) : Option (Event × Grammar) :=
  match g.tokens with
  | [] => none
  | .documentEnd :: _ => some (.documentEnd, { g.drop with expected := .documentStart false })
  | _ => some (.documentEnd, { g with expected := .documentStart false })

/-- An entry of a block sequence, or its end. -/
def blockSequence (g : Grammar) : Option (Event × Grammar) :=
  match g.tokens with
  | .blockEntry :: .blockEntry :: _ => g.drop.leaveOut (.blockSequence false)
  | .blockEntry :: .blockEnd :: _ => g.drop.leaveOut (.blockSequence false)
  | [.blockEntry] => none
  | .blockEntry :: _ => g.drop.nodeThen (.blockSequence false) true false
  | .blockEnd :: _ => some (.sequenceEnd, g.pop.drop)
  | _ => none

/-- An entry of a sequence that stands at the indentation of the mapping around it. -/
def indentlessSequence (g : Grammar) : Option (Event × Grammar) :=
  match g.tokens with
  | [] => none
  | [.blockEntry] => none
  | .blockEntry :: t :: _ =>
    if [Token.blockEntry, .key, .value, .blockEnd].contains t then
      g.drop.leaveOut .indentlessSequence
    else g.drop.nodeThen .indentlessSequence true false
  | _ => some (.sequenceEnd, g.pop)

/-- Leaves out a node in front of one of these tokens of a block mapping. -/
def blockStops : List Token := [.key, .value, .blockEnd]

/-- A key of a block mapping, or its end. -/
def blockKey (g : Grammar) : Option (Event × Grammar) :=
  match g.tokens with
  | [.key] => none
  | .key :: t :: _ =>
    if blockStops.contains t then g.drop.leaveOut .blockValue
    else g.drop.nodeThen .blockValue true true
  | .blockEnd :: _ => some (.mappingEnd, g.pop.drop)
  | _ => none

/-- A value of a block mapping. -/
def blockValue (g : Grammar) : Option (Event × Grammar) :=
  match g.tokens with
  | [] => none
  | [.value] => none
  | .value :: t :: _ =>
    if blockStops.contains t then g.drop.leaveOut (.blockKey false)
    else g.drop.nodeThen (.blockKey false) true true
  | _ => g.leaveOut (.blockKey false)

/-- The tokens from the next entry of a flow collection on, behind the comma in front of it. -/
def flowEntry (g : Grammar) (first : Bool) (close : Token) : Option Grammar :=
  match g.tokens with
  | [] => none
  | t :: rest =>
    if first || t = close then some g
    else if t = .flowEntry ∧ rest ≠ [] then some g.drop
    else none

/-- An entry of a flow sequence, or its end. -/
def flowSequence (g : Grammar) (first : Bool) : Option (Event × Grammar) := do
  let g ← g.flowEntry first .flowSequenceEnd
  match g.tokens with
  | .key :: _ => some (.mappingStart none none, { g.drop with expected := .flowPairKey })
  | .flowSequenceEnd :: _ => some (.sequenceEnd, g.pop.drop)
  | _ => g.nodeThen (.flowSequence false) false false

/-- The key of a single pair in a flow sequence. -/
def flowPairKey (g : Grammar) : Option (Event × Grammar) :=
  match g.tokens with
  | [] => none
  | t :: _ =>
    if [Token.value, .flowEntry, .flowSequenceEnd].contains t then g.drop.leaveOut .flowPairValue
    else g.nodeThen .flowPairValue false false

/-- The value of a single pair in a flow sequence. -/
def flowPairValue (g : Grammar) : Option (Event × Grammar) :=
  match g.tokens with
  | [] => none
  | [.value] => none
  | .value :: t :: _ =>
    if [Token.flowEntry, .flowSequenceEnd].contains t then g.drop.leaveOut .flowPairEnd
    else g.drop.nodeThen .flowPairEnd false false
  | _ => g.leaveOut .flowPairEnd

/-- A key of a flow mapping, or its end. -/
def flowKey (g : Grammar) (first : Bool) : Option (Event × Grammar) := do
  let g ← g.flowEntry first .flowMappingEnd
  match g.tokens with
  | [.key] => none
  | .key :: t :: _ =>
    if [Token.value, .flowEntry, .flowMappingEnd].contains t then g.drop.leaveOut (.flowValue false)
    else g.drop.nodeThen (.flowValue false) false false
  | .flowMappingEnd :: _ => some (.mappingEnd, g.pop.drop)
  | _ => g.nodeThen (.flowValue true) false false

/-- A value of a flow mapping. -/
def flowValue (g : Grammar) (omitted : Bool) : Option (Event × Grammar) :=
  match g.tokens with
  | [] => none
  | t :: rest =>
    if omitted || t ≠ .value then g.leaveOut (.flowKey false)
    else
      match rest with
      | [] => none
      | u :: _ =>
        if [Token.flowEntry, .flowMappingEnd].contains u then g.drop.leaveOut (.flowKey false)
        else g.drop.nodeThen (.flowKey false) false false

/-- The opening of a collection is taken with its first entry. -/
def opened (g : Grammar) (first : Bool) : Grammar := if first then g.drop else g

/-- The next event. There is none where the text is at fault. -/
def step (g : Grammar) : Option (Event × Grammar) :=
  match g.expected with
  | .documentStart first => g.documentStart first
  | .documentContent => g.documentContent
  | .documentEnd => g.documentEnd
  | .blockNode => g.node true false
  | .blockSequence first => (g.opened first).blockSequence
  | .indentlessSequence => g.indentlessSequence
  | .blockKey first => (g.opened first).blockKey
  | .blockValue => g.blockValue
  | .flowSequence first => (g.opened first).flowSequence first
  | .flowPairKey => g.flowPairKey
  | .flowPairValue => g.flowPairValue
  | .flowPairEnd => some (.mappingEnd, { g with expected := .flowSequence false })
  | .flowKey first => (g.opened first).flowKey first
  | .flowValue omitted => g.flowValue omitted
  | .finished => none

/-- The events up to the end of the text or the first fault. -/
def run : Nat → Grammar → List Event
  | 0, _ => []
  | fuel + 1, g =>
    match g.step with
    | none => []
    | some (e, g) => e :: run fuel g

end Grammar

/-- The events of a text, up to its end or the first fault. Tokens give rise to at most four
events each. -/
def Event.ofText (s : String) : List Event :=
  let ts := (Tokens.ofText s).tokens
  Grammar.run (4 * ts.length + 8) { tokens := ts }

end GuestHarness.Yaml
