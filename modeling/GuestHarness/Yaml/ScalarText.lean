import GuestHarness.Yaml.Token
import GuestHarness.Text.Lossy

/-!
Scalars in a YAML text: plain, quoted, and in blocks. Lines are folded: a single line break
counts as a space, and of several the first is dropped.
-/

namespace GuestHarness.Yaml

/-! ### Blanks between words -/

/-- The blanks and line breaks between two words of a scalar. -/
structure Gap where
  blanks : List Char := []
  broken : Bool := false
  first : List Char := []
  others : List Char := []

/-- What the blanks between two words count as. -/
def Gap.content (g : Gap) : List Char :=
  if g.broken then
    if g.first.head? = some '\n' then (if g.others = [] then [' '] else g.others)
    else g.first ++ g.others
  else g.blanks

/-- Takes blanks and line breaks. Where an indentation is demanded, tabs must not stand in it. -/
def takeGap (indent : Option Int) : Nat → Gap → Cursor → Option (Gap × Cursor)
  | 0, g, c => some (g, c)
  | fuel + 1, g, c =>
    match c.peek? with
    | some ch =>
      if isGap ch then
        if g.broken && ch = '\t' && indent.any (fun i => (c.column : Int) < i) then none
        else
          takeGap indent fuel (if g.broken then g else { g with blanks := g.blanks ++ [ch] }) c.next
      else if isBreak ch then
        let g := if g.broken then { g with others := g.others ++ c.lineBreak }
          else { g with blanks := [], broken := true, first := c.lineBreak }
        takeGap indent fuel g c.nextLine
      else some (g, c)
    | none => some (g, c)

/-! ### Plain scalars -/

/-- The characters of a word of a plain scalar, up to a blank or an indicator. -/
def plainWord (flow : Bool) : List Char → Option (List Char)
  | [] => some []
  | c :: rest =>
    if isGap c || isBreak c then some []
    else if flow && c = ':' && [',', '?', '[', ']', '{', '}'].any (rest.head? == some ·) then none
    else if (c = ':' && Cursor.endsWord rest.head?) ||
        (flow && [',', '[', ']', '{', '}'].contains c) then some []
    else (c :: ·) <$> plainWord flow rest

/-- Takes the words of a plain scalar. Gives its content, in reverse, and whether a line break
follows it. -/
def takePlain (flow : Bool) (indent : Int) :
    Nat → List Char → Gap → Cursor → Option (List Char × Bool × Cursor)
  | 0, acc, g, c => some (acc, g.broken, c)
  | fuel + 1, acc, g, c =>
    if c.atAnyMarker || c.sees '#' then some (acc, g.broken, c)
    else do
      let word ← plainWord flow c.rest
      let acc := if word = [] then acc else word.reverse ++ (g.content.reverse ++ acc)
      let g := if word = [] then g else {}
      let c := c.advance word.length
      if !c.peek?.any (fun ch => isGap ch || isBreak ch) then return (acc, g.broken, c)
      let (g, c) ← takeGap (some indent) c.rest.length g c
      if !flow && (c.column : Int) < indent then return (acc, g.broken, c)
      takePlain flow indent fuel acc g c

/-! ### Quoted scalars -/

/-- The character that a one-letter escape stands for. -/
def simpleEscape? : Char → Option Char
  | '0' => some '\x00'
  | 'a' => some '\x07'
  | 'b' => some '\x08'
  | 't' => some '\t'
  | '\t' => some '\t'
  | 'n' => some '\n'
  | 'v' => some '\x0b'
  | 'f' => some '\x0c'
  | 'r' => some '\r'
  | 'e' => some '\x1b'
  | ' ' => some ' '
  | '"' => some '"'
  | '/' => some '/'
  | '\\' => some '\\'
  | 'N' => some '\u0085'
  | '_' => some '\u00a0'
  | 'L' => some '\u2028'
  | 'P' => some '\u2029'
  | _ => none

/-- The number of digits of an escape that gives a character by its number. -/
def escapeDigits? : Char → Option Nat
  | 'x' => some 2
  | 'u' => some 4
  | 'U' => some 8
  | _ => none

/-- The value of a hexadecimal digit. -/
def hexValue? (c : Char) : Option Nat :=
  if c.isDigit then some (c.toNat - '0'.toNat)
  else if 'a' ≤ c ∧ c ≤ 'f' then some (c.toNat - 'a'.toNat + 10)
  else if 'A' ≤ c ∧ c ≤ 'F' then some (c.toNat - 'A'.toNat + 10)
  else none

/-- The number that so many hexadecimal digits stand for. -/
def hexNumber? (cs : List Char) (digits : Nat) : Option Nat :=
  if cs.length < digits then none
  else (cs.take digits).foldlM (fun n c => (16 * n + ·) <$> hexValue? c) 0

/-- Takes the characters of a quoted scalar up to a blank or its end; their content is given in
reverse. An escaped line break ends the word as well. -/
def takeQuotedWord (single : Bool) :
    Nat → List Char → Cursor → Option (List Char × Bool × Cursor)
  | 0, acc, c => some (acc, false, c)
  | fuel + 1, acc, c =>
    match c.peek? with
    | none => some (acc, false, c)
    | some ch =>
      if isGap ch || isBreak ch then some (acc, false, c)
      else if single then
        if ch = '\'' then
          if c.at? 1 == some '\'' then takeQuotedWord single fuel ('\'' :: acc) (c.advance 2)
          else some (acc, false, c)
        else takeQuotedWord single fuel (ch :: acc) c.next
      else if ch = '"' then some (acc, false, c)
      else if ch = '\\' then
        match c.at? 1 with
        | none => none
        | some e =>
          if isBreak e then some (acc, true, c.next.nextLine)
          else
            match simpleEscape? e, escapeDigits? e with
            | some plain, _ => takeQuotedWord single fuel (plain :: acc) (c.advance 2)
            | none, some digits =>
              match hexNumber? (c.rest.drop 2) digits with
              | some n =>
                if (0xD800 ≤ n && n ≤ 0xDFFF) || 0x10FFFF < n then none
                else takeQuotedWord single fuel (Char.ofNat n :: acc) (c.advance (2 + digits))
              | none => none
            | none, none => none
      else takeQuotedWord single fuel (ch :: acc) c.next

/-- Takes a quoted scalar from behind its opening quote. -/
def takeQuoted (single : Bool) : Nat → List Char → Cursor → Option (List Char × Cursor)
  | 0, _, _ => none
  | fuel + 1, acc, c =>
    if c.atAnyMarker || c.atEnd then none
    else do
      let (acc, escaped, c) ← takeQuotedWord single (c.rest.length + 1) acc c
      if c.sees (if single then '\'' else '"') then return (acc, c.next)
      let (g, c) ← takeGap none c.rest.length { broken := escaped } c
      takeQuoted single fuel (g.content.reverse ++ acc) c

/-! ### Block scalars -/

/-- What happens to the line breaks at the end of a block scalar. -/
inductive Chomping where
  | strip
  | clip
  | keep
deriving DecidableEq

/-- Reads the chomping indicator. -/
def chomping? : Option Char → Option Chomping
  | some '+' => some .keep
  | some '-' => some .strip
  | _ => none

/-- Reads the header of a block scalar, which gives chomping and indentation in any order. -/
def takeBlockHeader (c : Cursor) : Option (Chomping × Option Nat × Cursor) :=
  let digit := fun (c : Cursor) => match c.peek? with
    | some d => if d.isDigit then some (d.toNat - '0'.toNat) else none
    | none => none
  match chomping? c.peek? with
  | some chomp =>
    let c := c.next
    match digit c with
    | some 0 => none
    | some n => some (chomp, some n, c.next)
    | none => some (chomp, none, c)
  | none =>
    match digit c with
    | some 0 => none
    | some n =>
      let c := c.next
      match chomping? c.peek? with
      | some chomp => some (chomp, some n, c.next)
      | none => some (.clip, some n, c)
    | none => some (.clip, none, c)

/-- Takes the indentation of a line and the empty lines before it. Gives the line breaks and the
greatest indentation that was met. An indentation that is not known yet is zero. -/
def takeIndentation (indent : Nat) :
    Nat → Nat → List Char → Cursor → Option (List Char × Nat × Cursor)
  | 0, deepest, breaks, c => some (breaks, deepest, c)
  | fuel + 1, deepest, breaks, c =>
    let spaces := (c.rest.takeWhile (· = ' ')).length
    let c := c.advance (if indent = 0 then spaces else min spaces (indent - c.column))
    let deepest := max deepest c.column
    if (indent = 0 || c.column < indent) && c.sees '\t' then none
    else if c.peek?.any isBreak then
      takeIndentation indent fuel deepest (breaks ++ c.lineBreak) c.nextLine
    else some (breaks, deepest, c)

/-- Takes the lines of a block scalar; the content is given in reverse. Adjacent lines of a folded
scalar are joined by a space unless one of them starts with a blank. -/
def takeBlockLines (literal : Bool) (indent : Nat) :
    Nat → List Char → List Char → List Char → Bool → Cursor →
      Option (List Char × List Char × List Char × Cursor)
  | 0, acc, leading, trailing, _, c => some (acc, leading, trailing, c)
  | fuel + 1, acc, leading, trailing, leadingBlank, c =>
    if c.column ≠ indent || c.atEnd then some (acc, leading, trailing, c)
    else do
      let blank := c.peek?.any isGap
      let joint :=
        if !literal && leading.head? = some '\n' && !leadingBlank && !blank then
          (if trailing = [] then [' '] else []) ++ trailing
        else leading ++ trailing
      let line := c.restOfLine
      let c := c.advance line.length
      let acc := line.reverse ++ (joint.reverse ++ acc)
      let leading := c.lineBreak
      let c := c.nextLine
      let (trailing, _, c) ← takeIndentation indent (c.rest.length + 1) 0 [] c
      takeBlockLines literal indent fuel acc leading trailing blank c

/-- Takes a block scalar from behind its indicator. The indentation of the block around it is
given. -/
def takeBlock (literal : Bool) (outer : Int) (c : Cursor) : Option (List Char × Cursor) := do
  let (chomp, increment, c) ← takeBlockHeader c
  let c := c.skipGaps.skipComment
  if !Cursor.endsLine c.peek? then none
  let c := c.nextLine
  let given := match increment with
    | some n => (if 0 ≤ outer then outer else 0).toNat + n
    | none => 0
  let (trailing, deepest, c) ← takeIndentation given (c.rest.length + 1) 0 [] c
  let indent := if given = 0 then max 1 (max deepest (outer + 1).toNat) else given
  let (acc, leading, trailing, c) ←
    takeBlockLines literal indent (c.rest.length + 1) [] [] trailing false c
  let ending := match chomp with
    | .strip => []
    | .clip => leading
    | .keep => leading ++ trailing
  return (acc.reverse ++ ending, c)

/-! ### Tags and directives -/

/-- The character may stand in the name of a tag. -/
def isTagChar (verbatim : Bool) (c : Char) : Bool :=
  isWord c || [';', '/', '?', ':', '@', '&', '=', '+', '$', '.', '!', '~', '*', '\'', '(', ')',
    '%'].contains c || (verbatim && [',', '[', ']'].contains c)

/-- The number of bytes of a character by the first of them. -/
def widthOfLead (n : Nat) : Nat :=
  if n < 0x80 then 1
  else if 0xC0 ≤ n ∧ n < 0xE0 then 2
  else if 0xE0 ≤ n ∧ n < 0xF0 then 3
  else if 0xF0 ≤ n ∧ n < 0xF8 then 4
  else 0

/-- The bytes that escapes of a tag give, at most so many. -/
def escapedBytes : Nat → List Char → Option Bytes
  | 0, _ => some []
  | n + 1, '%' :: a :: b :: rest => do
    let high ← hexValue? a
    let low ← hexValue? b
    return (16 * high + low).toUInt8 :: (← escapedBytes n rest)
  | _ + 1, _ => none

/-- Takes the name of a tag; its content is given in reverse. -/
def takeTagName (verbatim : Bool) : Nat → List Char → Cursor → Option (List Char × Cursor)
  | 0, acc, c => some (acc, c)
  | fuel + 1, acc, c =>
    match c.peek? with
    | none => some (acc, c)
    | some ch =>
      if ch = '%' then do
        let lead ← escapedBytes 1 c.rest
        let width := widthOfLead (lead.headD 0).toNat
        if width = 0 then none
        let bs ← escapedBytes width c.rest
        if !(bs.drop 1).all (fun b => 0x80 ≤ b && b < 0xC0) then none
        takeTagName verbatim fuel ((Text.decode bs).reverse ++ acc) (c.advance (3 * width))
      else if isTagChar verbatim ch then takeTagName verbatim fuel (ch :: acc) c.next
      else some (acc, c)

/-- Takes the handle of a tag. In a directive it has to be complete. -/
def takeTagHandle (directive : Bool) (c : Cursor) : Option (List Char × Cursor) :=
  if !c.sees '!' then none
  else
    let word := (c.rest.drop 1).takeWhile isWord
    let c' := c.advance (1 + word.length)
    if c'.sees '!' then some ('!' :: (word ++ ['!']), c'.next)
    else if directive && word ≠ [] then none
    else some ('!' :: word, c')

/-- Takes a tag: its handle and the rest of its name. -/
def takeTag (flow : Bool) (c : Cursor) : Option (List Char × List Char × Cursor) := do
  let (handle, suffix, c) ←
    if c.at? 1 == some '<' then do
      let (name, c) ← takeTagName true (c.rest.length + 1) [] (c.advance 2)
      if name = [] || !c.sees '>' then none
      pure ([], name.reverse, c.next)
    else do
      let (handle, c) ← takeTagHandle false c
      let complete := 1 < handle.length && handle.getLast? = some '!'
      let begun := if complete then [] else (handle.drop 1).reverse
      let (name, c) ← takeTagName false (c.rest.length + 1) begun c
      if complete then
        if name = [] then none
        pure (handle, name.reverse, c)
      else if name = [] then pure ([], ['!'], c)
      else pure (['!'], name.reverse, c)
  if flow && c.sees ',' then return (handle, suffix, c)
  if Cursor.endsWord c.peek? then return (handle, suffix, c)
  none

/-- Takes a number of at most nine digits. -/
def takeVersionNumber (c : Cursor) : Option (Nat × Cursor) :=
  let ds := c.rest.takeWhile Char.isDigit
  if ds = [] || 9 < ds.length then none
  else some (ds.foldl (fun n d => 10 * n + (d.toNat - '0'.toNat)) 0, c.advance ds.length)

/-- Takes a directive from behind its percent sign. -/
def takeDirective (c : Cursor) : Option (Token × Cursor) := do
  let name := c.rest.takeWhile isWord
  let c := c.advance name.length
  if name = [] || !Cursor.endsWord c.peek? then none
  let (token, c) ←
    if name = ['Y', 'A', 'M', 'L'] then do
      let (major, c) ← takeVersionNumber c.skipGaps
      if !c.sees '.' then none
      let (minor, c) ← takeVersionNumber c.next
      pure (Token.version major minor, c)
    else if name = ['T', 'A', 'G'] then do
      let (handle, c) ← takeTagHandle true c.skipGaps
      if !c.peek?.any isGap then none
      let (expansion, c) ← takeTagName true (c.rest.length + 1) [] c.skipGaps
      if expansion = [] || !Cursor.endsWord c.peek? then none
      pure (Token.tagDirective handle expansion.reverse, c)
    else none
  let c := c.skipGaps.skipComment
  if !Cursor.endsLine c.peek? then none
  return (token, c.nextLine)

end GuestHarness.Yaml
