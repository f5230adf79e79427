import GuestHarness.Shell.Syntax
import GuestHarness.Text.Digits

/-!
Reading a script. A script is read line by line, so the commands of the lines in front of a
malformed one are still there to run.
-/

namespace GuestHarness.Shell

/-- The rest of a script and the number of its line. -/
structure Source where
  rest : List Char
  line : Nat := 1

/-- Reads something from the front of a script, or complains. -/
abbrev Parser (α : Type) := StateT Source (Except (Nat × String)) α

namespace Parser

/-! ### Characters -/

/-- Complains about the script. -/
def complain {α : Type} (what : String) : Parser α := do
  throw ((← get).line, "Syntax error: " ++ what)

/-- The characters that are left. -/
def rest : Parser (List Char) := return (← get).rest

/-- Skips so many characters. -/
def skip (n : Nat) : Parser Unit := modify fun s =>
  { s with rest := s.rest.drop n, line := s.line + (s.rest.take n).count '\n' }

/-- The character ends a word. -/
def isMeta (c : Char) : Bool := [' ', '\t', '\n', ';', '&', '|', '(', ')', '<', '>'].contains c

/-- The character may begin a name. -/
def isNameStart (c : Char) : Bool := c.isAlpha || c = '_'

/-- The character may stand in a name. -/
def isNameChar (c : Char) : Bool := c.isAlphanum || c = '_'

/-- The number of blanks, joined lines and characters of a comment at the front. -/
def blankLength : Nat → List Char → Nat
  | 0, _ => 0
  | fuel + 1, cs =>
    match cs with
    | ' ' :: rest => 1 + blankLength fuel rest
    | '\t' :: rest => 1 + blankLength fuel rest
    | '\\' :: '\n' :: rest => 2 + blankLength fuel rest
    | '#' :: rest => 1 + (rest.takeWhile (· ≠ '\n')).length
    | _ => 0

/-- Skips blanks and comments. -/
def skipBlanks : Parser Unit := do
  let cs ← rest
  skip (blankLength (cs.length + 1) cs)

/-- Skips blanks, comments and line ends. -/
def skipLines : Nat → Parser Unit
  | 0 => return
  | fuel + 1 => do
    skipBlanks
    if (← rest).head? = some '\n' then do
      skip 1
      skipLines fuel

/-- Reads an operator, if it stands at the front. -/
def operator (op : String) : Parser Bool := do
  skipBlanks
  if op.toList.isPrefixOf (← rest) then do
    skip op.length
    return true
  else return false

/-! ### Words -/

/-- The characters up to the parenthesis that closes one which is open, and those behind it. -/
def balanced : Nat → Nat → List Char → List Char → Option (List Char × List Char)
  | 0, _, _, _ => none
  | fuel + 1, depth, acc, cs =>
    match cs with
    | [] => none
    | '\\' :: c :: rest => balanced fuel depth (c :: '\\' :: acc) rest
    | '\'' :: rest =>
      let text := rest.takeWhile (· ≠ '\'')
      balanced fuel depth ('\'' :: (text.reverse ++ '\'' :: acc)) (rest.drop (text.length + 1))
    | '(' :: rest => balanced fuel (depth + 1) ('(' :: acc) rest
    | ')' :: rest =>
      match depth with
      | 0 => some (acc.reverse, rest)
      | depth + 1 => balanced fuel depth (')' :: acc) rest
    | c :: rest => balanced fuel depth (c :: acc) rest

/-- The characters up to the brace that closes one which is open, and those behind it. -/
def braced : Nat → List Char → List Char → Option (List Char × List Char)
  | _, _, [] => none
  | depth, acc, '{' :: rest => braced (depth + 1) ('{' :: acc) rest
  | 0, acc, '}' :: rest => some (acc.reverse, rest)
  | depth + 1, acc, '}' :: rest => braced depth ('}' :: acc) rest
  | depth, acc, c :: rest => braced depth (c :: acc) rest

/-- The characters up to a backquote, and those behind it. -/
def backquoted : List Char → List Char → Option (List Char × List Char)
  | _, [] => none
  | acc, '\\' :: c :: rest =>
    backquoted (if ['$', '`', '\\'].contains c then c :: acc else c :: '\\' :: acc) rest
  | acc, '`' :: rest => some (acc.reverse, rest)
  | acc, c :: rest => backquoted (c :: acc) rest

/-- The part that braces stand for: a parameter, its length, or what stands in for it. -/
def bracedPart (quoted : Bool) (cs : List Char) : Part :=
  match cs with
  | ['#'] => .parameter quoted "#" [] []
  | '#' :: name => .parameter quoted (String.ofList name) ['#'] []
  | c :: rest =>
    let name := if isNameStart c then c :: rest.takeWhile isNameChar
      else if c.isDigit then c :: rest.takeWhile Char.isDigit else [c]
    let rest := cs.drop name.length
    match rest with
    | ':' :: op :: default => .parameter quoted (String.ofList name) [':', op] default
    | '%' :: '%' :: default => .parameter quoted (String.ofList name) ['%', '%'] default
    | '#' :: '#' :: default => .parameter quoted (String.ofList name) ['#', '#'] default
    | op :: default => .parameter quoted (String.ofList name) [op] default
    | [] => .parameter quoted (String.ofList name) [] []
  | [] => .literal quoted []

/-- The part that a dollar sign at the front begins, and what is left. -/
def dollar (quoted : Bool) (cs : List Char) : Option (Part × List Char) :=
  match cs with
  | '{' :: rest => (braced 0 [] rest).map fun (inner, rest) => (bracedPart quoted inner, rest)
  | '(' :: '(' :: rest =>
    match balanced (rest.length + 1) 1 [] rest with
    | some (inner, rest) => some (.value quoted inner.dropLast, rest)
    | none => none
  | '(' :: rest =>
    (balanced (rest.length + 1) 0 [] rest).map fun (inner, rest) => (.output quoted inner, rest)
  | c :: rest =>
    if isNameStart c then
      let name := c :: rest.takeWhile isNameChar
      some (.parameter quoted (String.ofList name) [] [], cs.drop name.length)
    else if c.isDigit || ['@', '*', '#', '?', '$', '!', '-'].contains c then
      some (.parameter quoted (String.singleton c) [] [], rest)
    else some (.literal quoted ['$'], cs)
  | [] => some (.literal quoted ['$'], [])

/-- The parts up to the closing double quote, and what is left. -/
def doubleQuoted : Nat → List Part → List Char → Option (List Part × List Char)
  | 0, _, _ => none
  | fuel + 1, acc, cs =>
    match cs with
    | [] => none
    | '"' :: rest => some (acc.reverse, rest)
    | '\\' :: '\n' :: rest => doubleQuoted fuel acc rest
    | '\\' :: c :: rest =>
      let text := if ['$', '`', '"', '\\'].contains c then [c] else ['\\', c]
      doubleQuoted fuel (.literal true text :: acc) rest
    | '$' :: rest => do
      let (part, rest) ← dollar true rest
      doubleQuoted fuel (part :: acc) rest
    | '`' :: rest => do
      let (script, rest) ← backquoted [] rest
      doubleQuoted fuel (.output true script :: acc) rest
    | c :: rest => doubleQuoted fuel (.literal true [c] :: acc) rest

/-- Joins neighbouring texts that are quoted alike. -/
def joined : Word → Word
  | .literal q s :: rest =>
    match joined rest with
    | .literal q' s' :: rest' =>
      if q = q' then .literal q (s ++ s') :: rest' else .literal q s :: .literal q' s' :: rest'
    | rest' => .literal q s :: rest'
  | part :: rest => part :: joined rest
  | [] => []

/-- The parts of a word, and what is left. -/
def wordParts : Nat → List Part → List Char → Option (List Part × List Char)
  | 0, acc, cs => some (acc.reverse, cs)
  | fuel + 1, acc, cs =>
    match cs with
    | [] => some (acc.reverse, [])
    | '\\' :: '\n' :: rest => wordParts fuel acc rest
    | '\\' :: c :: rest => wordParts fuel (.literal true [c] :: acc) rest
    | '\'' :: rest =>
      let text := rest.takeWhile (· ≠ '\'')
      match rest.drop text.length with
      | _ :: rest => wordParts fuel (.literal true text :: acc) rest
      | [] => none
    | '"' :: rest => do
      let (parts, rest) ← doubleQuoted (rest.length + 1) [] rest
      wordParts fuel (parts.reverse ++ .literal true [] :: acc) rest
    | '$' :: rest => do
      let (part, rest) ← dollar false rest
      wordParts fuel (part :: acc) rest
    | '`' :: rest => do
      let (script, rest) ← backquoted [] rest
      wordParts fuel (.output false script :: acc) rest
    | c :: rest =>
      if isMeta c then some (acc.reverse, cs) else wordParts fuel (.literal false [c] :: acc) rest

/-- Reads a word, if one stands at the front. -/
def word? : Parser (Option Word) := do
  skipBlanks
  let cs ← rest
  match wordParts (cs.length + 1) [] cs with
  | none => complain "Unterminated quoted string"
  | some (parts, left) =>
    if left.length = cs.length then return none
    else do
      skip (cs.length - left.length)
      return some (joined parts)

/-- The text of a word without quotes and expansions. -/
def plain? : Word → Option String
  | [.literal false s] => some (String.ofList s)
  | _ => none

/-- The word at the front without quotes, which is not taken. -/
def peekPlain : Parser (Option String) := do
  let s ← get
  let w ← word?
  set s
  return w.bind plain?

/-- Takes a word that has to stand here. -/
def expect (w : String) : Parser Unit := do
  skipLines (← rest).length
  if (← peekPlain) = some w then discard word?
  else if (← rest).isEmpty then complain ("end of file unexpected (expecting \"" ++ w ++ "\")")
  else complain ("word unexpected (expecting \"" ++ w ++ "\")")

/-- Takes a word, if it stands here. -/
def keyword (w : String) : Parser Bool := do
  if (← peekPlain) = some w then do
    discard word?
    return true
  else return false

/-! ### Redirections -/

/-- Separates the lines up to one that is a given text from those behind it. Tabs in front of lines
may be dropped. -/
def textLines (strips : Bool) (ending : List Char) :
    Nat → List Char → List Char × List Char
  | 0, cs => ([], cs)
  | _, [] => ([], [])
  | fuel + 1, cs =>
    let line := cs.takeWhile (· ≠ '\n')
    let later := cs.drop (line.length + 1)
    let line := if strips then line.dropWhile (· = '\t') else line
    if line = ending then ([], later)
    else
      let (text, later) := textLines strips ending fuel later
      (line ++ '\n' :: text, later)

/-- Protects double quotes from being read as such. -/
def protectQuotes : List Char → List Char
  | '\\' :: '"' :: rest => '\\' :: '\\' :: '\\' :: '"' :: protectQuotes rest
  | '\\' :: c :: rest => '\\' :: c :: protectQuotes rest
  | '"' :: rest => '\\' :: '"' :: protectQuotes rest
  | c :: rest => c :: protectQuotes rest
  | [] => []

/-- Takes the text that begins on the next line and is ended by a word. Expansions in it count
unless a part of that word is quoted. -/
def takeText (strips : Bool) (ending : Word) : Parser Word := do
  let s ← get
  let isQuoted := ending.any (· matches .literal true _)
  let ending := ending.flatMap fun
    | .literal _ text => text
    | _ => []
  let line := s.rest.takeWhile (· ≠ '\n')
  let (text, later) := textLines strips ending s.rest.length (s.rest.drop (line.length + 1))
  let skipped := s.rest.count '\n' - later.count '\n' - 1
  set { s with rest := line ++ '\n' :: later, line := s.line + skipped }
  if isQuoted then return [.literal true text]
  else
    match doubleQuoted (2 * text.length + 2) [] (protectQuotes text ++ ['"']) with
    | some (parts, _) => return joined parts
    | none => return [.literal true text]

/-- Reads a redirection, if one stands at the front. -/
def redirect? : Parser (Option Redirect) := do
  skipBlanks
  let cs ← rest
  let digits := cs.takeWhile Char.isDigit
  let given := if digits = [] then none else some (Text.digitsValue digits)
  let (length, default, make) ← match cs.drop digits.length with
    | '>' :: '>' :: _ => pure (2, 1, Redirection.append)
    | '>' :: '&' :: _ => pure (2, 1, Redirection.copy)
    | '>' :: '|' :: _ => pure (2, 1, Redirection.write)
    | '>' :: _ => pure (1, 1, Redirection.write)
    | '<' :: '&' :: _ => pure (2, 0, Redirection.copy)
    | '<' :: '<' :: '-' :: _ => pure (3, 0, Redirection.text)
    | '<' :: '<' :: _ => pure (2, 0, Redirection.text)
    | '<' :: '>' :: _ => pure (2, 0, Redirection.read)
    | '<' :: _ => pure (1, 0, Redirection.read)
    | _ => pure (0, 0, Redirection.read)
  if length = 0 then return none
  else do
    skip (digits.length + length)
    match ← word? with
    | some w =>
      let w ← match make w with
        | .text w => takeText (length = 3) w
        | _ => pure w
      return some (given.getD default, make w)
    | none => complain ((if (← rest).isEmpty then "end of file" else "newline") ++ " unexpected")

/-- Reads all redirections at the front. -/
def redirects : Nat → Parser (List Redirect)
  | 0 => return []
  | fuel + 1 => do
    match ← redirect? with
    | some r => return r :: (← redirects fuel)
    | none => return []

/-! ### Commands -/

/-- The words that end a list of commands. -/
def closers : List String := ["then", "else", "elif", "fi", "do", "done", "esac", "\x7d"]

/-- The name and the value of an assignment. -/
def assignment? (w : Word) : Option (String × Word) :=
  match w with
  | .literal false s :: rest =>
    let name := s.takeWhile isNameChar
    match s.drop name.length with
    | '=' :: value =>
      if name.head?.any isNameStart then
        some (String.ofList name, if value = [] then rest else .literal false value :: rest)
      else none
    | _ => none
  | _ => none

/-- Reads the words, assignments and redirections of a simple command. -/
def simple (line : Nat) : Nat → List (String × Word) → List Word → List Redirect → Parser Command
  | 0, a, w, r => return .simple line a.reverse w.reverse r.reverse
  | fuel + 1, a, w, r => do
    match ← redirect? with
    | some redirect => simple line fuel a w (redirect :: r)
    | none =>
      match ← word? with
      | none => return .simple line a.reverse w.reverse r.reverse
      | some word =>
        match if w = [] then assignment? word else none with
        | some assigned => simple line fuel (assigned :: a) w r
        | none => simple line fuel a (word :: w) r

/-- Reads words up to the end of the line. -/
def words : Nat → Parser (List Word)
  | 0 => return []
  | fuel + 1 => do
    match ← word? with
    | some w => return w :: (← words fuel)
    | none => return []

/-- Reads the patterns of an arm, up to the parenthesis behind them. -/
def patterns : Nat → Parser (List Word)
  | 0 => complain "word unexpected"
  | fuel + 1 => do
    match ← word? with
    | none =>
      let found := if (← rest).isEmpty then "end of file" else "word"
      complain (found ++ " unexpected (expecting \")\")")
    | some w =>
      if ← operator "|" then return w :: (← patterns fuel)
      else if ← operator ")" then return [w]
      else complain "word unexpected (expecting \")\")"

/-- Complains about what stands at the front where no command can begin. -/
def unexpected {α : Type} : Parser α := do
  match ← peekPlain with
  | some w => complain ("\"" ++ w ++ "\" unexpected")
  | none =>
    match ← rest with
    | [] => complain "end of file unexpected"
    | '\n' :: _ => complain "newline unexpected"
    | c :: d :: _ =>
      let op := if c = d && [';', '&', '|'].contains c then [c, d] else [c]
      complain ("\"" ++ String.ofList op ++ "\" unexpected")
    | [c] => complain ("\"" ++ String.singleton c ++ "\" unexpected")

mutual
/-- Reads a command. -/
def command : Nat → Parser Command
  | 0 => unexpected
  | fuel + 1 => do
    skipBlanks
    let start ← get
    if ← operator "(" then do
      let c ← series fuel
      if ← operator ")" then return .subshell c (← redirects start.rest.length)
      else if (← rest).isEmpty then complain "end of file unexpected (expecting \")\")"
      else unexpected
    else
      match ← peekPlain with
      | some "\x7b" => do
        discard word?
        let c ← series fuel
        expect "\x7d"
        return .group c (← redirects start.rest.length)
      | some "!" => do
        discard word?
        return .inverted (← pipeline fuel)
      | some "if" => do
        discard word?
        branch fuel
      | some "while" => do
        discard word?
        loop fuel false
      | some "until" => do
        discard word?
        loop fuel true
      | some "for" => do
        discard word?
        each fuel
      | some "case" => do
        discard word?
        choose fuel
      | some w =>
        if closers.contains w then unexpected
        else do
          discard word?
          if ← operator "(" then
            if ← operator ")" then do
              skipLines start.rest.length
              return .function w (← command fuel)
            else unexpected
          else do
            set start
            simple start.line start.rest.length [] [] []
      | none => do
        let c ← simple start.line start.rest.length [] [] []
        match c with
        | .simple _ [] [] [] => unexpected
        | c => return c

/-- Reads commands joined by bars. -/
def pipeline : Nat → Parser Command
  | 0 => unexpected
  | fuel + 1 => do
    let c ← command fuel
    skipBlanks
    match ← rest with
    | '|' :: '|' :: _ => return c
    | '|' :: _ => do
      skip 1
      skipLines (← rest).length
      match ← pipeline fuel with
      | .pipeline cs => return .pipeline (c :: cs)
      | d => return .pipeline [c, d]
    | _ => return c

/-- Reads what follows a command that may decide whether more is run. -/
def conditional : Nat → Command → Parser Command
  | 0, c => return c
  | fuel + 1, c => do
    if ← operator "&&" then do
      skipLines (← rest).length
      conditional fuel (.both c (← pipeline fuel))
    else if ← operator "||" then do
      skipLines (← rest).length
      conditional fuel (.either c (← pipeline fuel))
    else return c

/-- Reads the commands of a line, up to its end or a closing word. -/
def line : Nat → Parser (List Command)
  | 0 => return []
  | fuel + 1 => do
    let c ← pipeline fuel
    let c ← conditional fuel c
    skipBlanks
    let closed : Parser Bool := do
      skipBlanks
      let cs ← rest
      let closes := ((← peekPlain).map closers.contains).getD false
      return cs.head?.all (fun c => c = '\n' || c = ')' || c = ';') || closes
    match ← rest with
    | ';' :: ';' :: _ => return [c]
    | ';' :: _ => do
      skip 1
      if ← closed then return [c] else return c :: (← line fuel)
    | '&' :: _ => do
      skip 1
      if ← closed then return [.background c] else return .background c :: (← line fuel)
    | _ => return [c]

/-- Reads the lines of commands up to a closing word. -/
def lines : Nat → Parser (List Command)
  | 0 => return []
  | fuel + 1 => do
    skipLines (← rest).length
    let closes := ((← peekPlain).map closers.contains).getD false
    if closes || (← rest).head?.all (fun c => c = ')' || c = ';') then return []
    else do
      let cs ← line fuel
      skipBlanks
      if (← rest).head? = some '\n' then return cs ++ (← lines fuel) else return cs

/-- Reads a list of commands, of which there is at least one. -/
def series : Nat → Parser Command
  | 0 => unexpected
  | fuel + 1 => do
    match ← lines fuel with
    | [] => if (← rest).isEmpty then return .nothing else unexpected
    | [c] => return c
    | cs => return .series cs

/-- Reads a choice by a test, from behind its first word. -/
def branch : Nat → Parser Command
  | 0 => unexpected
  | fuel + 1 => do
    let test ← series fuel
    expect "then"
    let yes ← series fuel
    skipLines (← rest).length
    if ← keyword "elif" then return .branch test yes (← branch fuel) []
    else do
      let no ← if ← keyword "else" then series fuel else pure .nothing
      expect "fi"
      return .branch test yes no (← redirects (← rest).length)

/-- Reads a loop, from behind its first word. -/
def loop (fuel : Nat) (isUntil : Bool) : Parser Command :=
  match fuel with
  | 0 => unexpected
  | fuel + 1 => do
    let test ← series fuel
    expect "do"
    let body ← series fuel
    expect "done"
    return .loop isUntil test body (← redirects (← rest).length)

/-- Reads a loop over words, from behind its first word. -/
def each : Nat → Parser Command
  | 0 => unexpected
  | fuel + 1 => do
    match (← word?).bind plain? with
    | none => complain "Bad for loop variable"
    | some name => do
      if !(name.toList.head?.any isNameStart) then complain "Bad for loop variable"
      skipLines (← rest).length
      let ws ← if ← keyword "in" then some <$> words (← rest).length else pure none
      discard (operator ";")
      expect "do"
      let body ← series fuel
      expect "done"
      return .each name ws body (← redirects (← rest).length)

/-- Reads a choice by patterns, from behind its first word. -/
def choose : Nat → Parser Command
  | 0 => unexpected
  | fuel + 1 => do
    match ← word? with
    | none =>
      if (← rest).isEmpty then complain "end of file unexpected (expecting word)" else unexpected
    | some w => do
      expect "in"
      let arms ← arms fuel
      return .choose w arms (← redirects (← rest).length)

/-- Reads the arms of a choice. -/
def arms : Nat → Parser (List (List Word × Command))
  | 0 => unexpected
  | fuel + 1 => do
    skipLines (← rest).length
    if ← keyword "esac" then return []
    else do
      discard (operator "(")
      let ps ← patterns (← rest).length
      let cs ← lines fuel
      let body := match cs with
        | [c] => c
        | cs => .series cs
      skipLines (← rest).length
      if ← operator ";;" then return (ps, body) :: (← arms fuel)
      else do
        expect "esac"
        return [(ps, body)]
end

/-- How deep the commands of a script of some length may be nested, counted in readers: an opening
bracket takes one character, and the readers of a command in brackets are fewer than eight. -/
def nesting (length : Nat) : Nat := 8 * (length + 1)

/-- Reads all lines of a script. -/
def script : Nat → Source → Script
  | 0, _ => ⟨[], none⟩
  | fuel + 1, s =>
    match (skipLines s.rest.length).run s with
    | .error e => ⟨[], some e⟩
    | .ok (_, s) =>
      if s.rest.isEmpty then ⟨[], none⟩
      else
        let read : Parser (List Command) := do
          let cs ← line (nesting s.rest.length)
          skipBlanks
          match (← rest) with
          | [] => return cs
          | '\n' :: _ => return cs
          | _ => unexpected
        match read.run s with
        | .error e => ⟨[], some e⟩
        | .ok (cs, s) =>
          let more := script fuel s
          { more with commands := cs ++ more.commands }

end Parser

/-- Reads a script. -/
def Script.ofText (s : String) : Script := Parser.script (s.length + 1) ⟨s.toList, 1⟩

end GuestHarness.Shell
