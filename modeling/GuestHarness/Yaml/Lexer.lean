import GuestHarness.Yaml.ScalarText

/-!
Taking a YAML text apart into tokens. A key of a mapping is only recognised by the colon behind
it, so the place of every piece that may turn out to be a key is remembered until it is clear
that it is none. The tokens before the first fault of a text are still of use, up to the first
that may yet turn out to be a key.
-/

namespace GuestHarness.Yaml

/-- A piece of text that may turn out to be a key: the number of its token, where it begins, and
whether it has to be one. -/
structure PossibleKey where
  number : Nat
  required : Bool
  index : Nat
  line : Nat
  column : Nat

/-- The tokens found so far, latest first, and what decides how the text goes on: the depth of
flow collections with the possible key at each depth, and the indentations of open blocks. -/
structure Lexer where
  cursor : Cursor
  tokens : List Token := []
  count : Nat := 0
  flowLevel : Nat := 0
  keys : List (Option PossibleKey) := [none]
  indent : Int := -1
  indents : List Int := []
  keyAllowed : Bool := true
  finished : Bool := false

namespace Lexer

/-- Adds a token at the end. -/
def emit (l : Lexer) (t : Token) : Lexer := { l with tokens := t :: l.tokens, count := l.count + 1 }

/-- Adds a token in front of the one with the given number. -/
def insertAt (l : Lexer) (number : Nat) (t : Token) : Lexer :=
  let after := l.count - number
  { l with tokens := l.tokens.take after ++ t :: l.tokens.drop after, count := l.count + 1 }

/-! ### Indentation -/

/-- Opens a block collection if the column is deeper than the current indentation. -/
def openBlock (l : Lexer) (column : Nat) (number : Option Nat) (t : Token) : Lexer :=
  if 0 < l.flowLevel || (column : Int) ≤ l.indent then l
  else
    let l := match number with
      | some n => l.insertAt n t
      | none => l.emit t
    { l with indents := l.indent :: l.indents, indent := column }

/-- Closes the block collections that are deeper than the column. -/
def closeBlocks (l : Lexer) (column : Int) : Lexer :=
  if 0 < l.flowLevel then l else go l l.indents
where
  /-- Closes blocks as long as there are outer ones. -/
  go (l : Lexer) : List Int → Lexer
    | [] => l
    | outer :: rest =>
      if column < l.indent then go { l.emit .blockEnd with indent := outer, indents := rest } rest
      else l

/-! ### Possible keys -/

/-- The key at the current depth can no longer come; a required one is missing then. -/
def dropKey (l : Lexer) : Option Lexer :=
  match l.keys with
  | some k :: rest => if k.required then none else some { l with keys := none :: rest }
  | _ => some l

/-- Remembers that a key may begin here. -/
def saveKey (l : Lexer) : Option Lexer :=
  if l.keyAllowed then do
    let l ← l.dropKey
    let c := l.cursor
    let key : PossibleKey :=
      ⟨l.count, l.flowLevel = 0 && l.indent = (c.column : Int), c.index, c.line, c.column⟩
    return { l with keys := some key :: l.keys.drop 1 }
  else some l

/-- A key ends on the line on which it begins, and within 1024 characters. -/
def isStale (c : Cursor) (k : PossibleKey) : Bool := k.line < c.line || k.index + 1024 < c.index

/-- Forgets the keys that can no longer come. -/
def dropStale (l : Lexer) : Option Lexer :=
  if l.keys.any fun k => k.any fun k => isStale l.cursor k && k.required then none
  else some { l with keys := l.keys.map fun k => k.filter fun k => !isStale l.cursor k }

/-- The number of tokens that cannot turn out to be keys any more, counted from the first. -/
def settled (l : Lexer) : Nat :=
  l.keys.foldl (fun n k => (k.map fun k => min n k.number).getD n) l.count

/-! ### Tokens -/

/-- Goes on to the next token, over blanks, comments and line ends. -/
def skipToToken : Nat → Lexer → Lexer
  | 0, l => l
  | fuel + 1, l =>
    let c := if l.cursor.column = 0 && l.cursor.sees '\uFEFF' then l.cursor.next else l.cursor
    let tabs := 0 < l.flowLevel || !l.keyAllowed
    let gap := c.rest.takeWhile fun ch => ch = ' ' || (tabs && ch = '\t')
    let c := (c.advance gap.length).skipComment
    if c.peek?.any isBreak then
      skipToToken fuel
        { l with cursor := c.nextLine, keyAllowed := l.keyAllowed || l.flowLevel = 0 }
    else { l with cursor := c }

/-- Takes an indicator of so many characters. -/
def takeIndicator (l : Lexer) (n : Nat) (t : Token) : Lexer :=
  { l with cursor := l.cursor.advance n }.emit t

/-- Ends the text. -/
def takeEnd (l : Lexer) : Option Lexer := do
  let l ← (l.closeBlocks (-1)).dropKey
  return { l.emit .streamEnd with keyAllowed := false, finished := true }

/-- Takes a directive or a document marker, which closes all blocks. -/
def takeOutside (l : Lexer) (take : Lexer → Option Lexer) : Option Lexer := do
  let l ← (l.closeBlocks (-1)).dropKey
  take { l with keyAllowed := false }

/-- Opens a flow collection. -/
def openFlow (l : Lexer) (t : Token) : Option Lexer := do
  let l ← l.saveKey
  return { l.takeIndicator 1 t with
    flowLevel := l.flowLevel + 1, keys := none :: l.keys, keyAllowed := true }

/-- Closes a flow collection. -/
def closeFlow (l : Lexer) (t : Token) : Option Lexer := do
  let l ← l.dropKey
  let l := if 0 < l.flowLevel then { l with flowLevel := l.flowLevel - 1, keys := l.keys.drop 1 }
    else l
  return { l.takeIndicator 1 t with keyAllowed := false }

/-- Takes the comma between entries of a flow collection. -/
def takeFlowEntry (l : Lexer) : Option Lexer := do
  let l ← l.dropKey
  return { l.takeIndicator 1 .flowEntry with keyAllowed := true }

/-- Takes the dash in front of an entry of a block sequence. -/
def takeBlockEntry (l : Lexer) : Option Lexer := do
  if l.flowLevel = 0 && !l.keyAllowed then none
  let l ← (l.openBlock l.cursor.column none .blockSequenceStart).dropKey
  return { l.takeIndicator 1 .blockEntry with keyAllowed := true }

/-- Takes the question mark in front of a key. -/
def takeKey (l : Lexer) : Option Lexer := do
  if l.flowLevel = 0 && !l.keyAllowed then none
  let l ← (l.openBlock l.cursor.column none .blockMappingStart).dropKey
  return { l.takeIndicator 1 .key with keyAllowed := l.flowLevel = 0 }

/-- Takes the colon in front of a value. What may be a key before it is one. -/
def takeValue (l : Lexer) : Option Lexer :=
  match l.keys with
  | some k :: rest =>
    let l := (l.insertAt k.number .key).openBlock k.column (some k.number) .blockMappingStart
    some { l.takeIndicator 1 .value with keys := none :: rest, keyAllowed := false }
  | _ =>
    if l.flowLevel = 0 && !l.keyAllowed then none
    else
      let l := l.openBlock l.cursor.column none .blockMappingStart
      some { l.takeIndicator 1 .value with keyAllowed := l.flowLevel = 0 }

/-- Takes an anchor or an alias. -/
def takeAnchor (l : Lexer) (t : List Char → Token) : Option Lexer := do
  let l ← l.saveKey
  let name := (l.cursor.rest.drop 1).takeWhile isWord
  let l' := l.takeIndicator (1 + name.length) (t name)
  let follows := l'.cursor.peek?
  if name = [] || !(Cursor.endsWord follows ||
      ['?', ':', ',', ']', '}', '%', '@', '`'].any (follows == some ·)) then none
  return { l' with keyAllowed := false }

/-- Takes the tag of a node. -/
def takeNodeTag (l : Lexer) : Option Lexer := do
  let l ← l.saveKey
  let (handle, suffix, c) ← takeTag (0 < l.flowLevel) l.cursor
  return { l.emit (.tag handle suffix) with cursor := c, keyAllowed := false }

/-- Takes a block scalar. -/
def takeBlockScalar (l : Lexer) (style : ScalarStyle) : Option Lexer := do
  let l ← l.dropKey
  let (content, c) ← takeBlock (style = .literal) l.indent l.cursor.next
  return { l.emit (.scalar style content) with cursor := c, keyAllowed := true }

/-- Takes a quoted scalar. -/
def takeQuotedScalar (l : Lexer) (style : ScalarStyle) : Option Lexer := do
  let l ← l.saveKey
  let c := l.cursor.next
  let (content, c) ← takeQuoted (style = .singleQuoted) (c.rest.length + 1) [] c
  return { l.emit (.scalar style content.reverse) with cursor := c, keyAllowed := false }

/-- Takes a plain scalar. -/
def takePlainScalar (l : Lexer) : Option Lexer := do
  let l ← l.saveKey
  let c := l.cursor
  let (content, broken, c) ←
    takePlain (0 < l.flowLevel) (l.indent + 1) (c.rest.length + 1) [] {} c
  return { l.emit (.scalar .plain content.reverse) with cursor := c, keyAllowed := broken }

/-- The characters with which no plain scalar begins. -/
def indicators : List Char :=
  ['-', '?', ':', ',', '[', ']', '{', '}', '#', '&', '*', '!', '|', '>', '\'', '"', '%', '@', '`']

/-- Takes the next token. There is none where the text is at fault. -/
def takeToken (l : Lexer) : Option Lexer := do
  let l ← (skipToToken (l.cursor.rest.length + 1) l).dropStale
  let c := l.cursor
  let l := l.closeBlocks c.column
  let flow := 0 < l.flowLevel
  match c.peek? with
  | none => l.takeEnd
  | some ch =>
    if c.column = 0 && ch = '%' then
      l.takeOutside fun l => do
        let (t, c) ← takeDirective l.cursor.next
        return { l.emit t with cursor := c }
    else if c.atMarker '-' then l.takeOutside fun l => some (l.takeIndicator 3 .documentStart)
    else if c.atMarker '.' then l.takeOutside fun l => some (l.takeIndicator 3 .documentEnd)
    else if ch = '[' then l.openFlow .flowSequenceStart
    else if ch = '{' then l.openFlow .flowMappingStart
    else if ch = ']' then l.closeFlow .flowSequenceEnd
    else if ch = '}' then l.closeFlow .flowMappingEnd
    else if ch = ',' then l.takeFlowEntry
    else if ch = '-' && Cursor.endsWord (c.at? 1) then l.takeBlockEntry
    else if ch = '?' && (flow || Cursor.endsWord (c.at? 1)) then l.takeKey
    else if ch = ':' && (flow || Cursor.endsWord (c.at? 1)) then l.takeValue
    else if ch = '*' then l.takeAnchor .alias
    else if ch = '&' then l.takeAnchor .anchor
    else if ch = '!' then l.takeNodeTag
    else if ch = '|' && !flow then l.takeBlockScalar .literal
    else if ch = '>' && !flow then l.takeBlockScalar .folded
    else if ch = '\'' then l.takeQuotedScalar .singleQuoted
    else if ch = '"' then l.takeQuotedScalar .doubleQuoted
    else if (!isGap ch && !indicators.contains ch) ||
        (ch = '-' && !(c.at? 1).any isGap) ||
        (!flow && (ch = '?' || ch = ':') && !Cursor.endsWord (c.at? 1)) then l.takePlainScalar
    else none

end Lexer

/-! ### Whole texts -/

/-- The tokens of a text, and whether they end at a fault. -/
structure Tokens where
  tokens : List Token
  faulty : Bool

/-- Takes tokens until the text ends or is at fault. -/
def takeAll : Nat → Lexer → Tokens
  | 0, l => ⟨l.tokens.reverse, true⟩
  | fuel + 1, l =>
    if l.finished then ⟨l.tokens.reverse, false⟩
    else
      match l.dropStale with
      | none => ⟨l.tokens.reverse.take l.settled, true⟩
      | some l =>
        match l.takeToken with
        | none => ⟨l.tokens.reverse.take l.settled, true⟩
        | some l' => takeAll fuel l'

/-- The tokens of a text. A text with a character that is not allowed has none. -/
def Tokens.ofText (s : String) : Tokens :=
  let cs := s.toList
  if cs.all isAllowed then takeAll (cs.length + 2) { cursor := { rest := cs } }
  else ⟨[], true⟩

end GuestHarness.Yaml
