import GuestHarness.FileTree
import GuestHarness.Shell.Parser
import GuestHarness.Text.Blank
import GuestHarness.Text.Carried

/-!
What the words of a command stand for when it runs: parameters are replaced by their values,
unquoted values are split at blanks, and patterns are matched against texts.
-/

namespace GuestHarness.Shell

/-- What words can refer to: parameters, variables, the last exit status, and processes. -/
structure Scope where
  name : String
  params : List String := []
  vars : List (String × String) := []
  exported : List String := []
  status : Nat := 0
  pid : Nat
  background : Option Nat := none

/-! ### Patterns -/

/-- Characters, each with a mark that it is quoted and stands for itself. -/
abbrev Field := List (Char × Bool)

/-- The text of a field. -/
def Field.text (f : Field) : String := String.ofList (f.map (·.1))

/-- The members of a set of characters, up to its closing bracket, and what is left. -/
def members : Field → List (Char × Char) → Option (List (Char × Char) × Field)
  | [], _ => none
  | (']', false) :: rest, acc => if acc = [] then members rest [(']', ']')] else some (acc, rest)
  | (a, _) :: ('-', false) :: (b, q) :: rest, acc =>
    if b = ']' && !q then some (('-', '-') :: (a, a) :: acc, rest)
    else members rest ((a, b) :: acc)
  | (a, _) :: rest, acc => members rest ((a, a) :: acc)

/-- The set of characters that an opening bracket begins, and what is left. -/
def charSet (f : Field) : Option ((Char → Bool) × Field) :=
  let (negated, f) := match f with
    | ('!', false) :: rest => (true, rest)
    | ('^', false) :: rest => (true, rest)
    | _ => (false, f)
  (members f []).map fun (ranges, rest) =>
    (fun c => (ranges.any fun r => r.1 ≤ c && c ≤ r.2) != negated, rest)

/-- Matches a pattern against all of a text. -/
def matchesPattern : Nat → Field → List Char → Bool
  | 0, _, _ => false
  | fuel + 1, f, cs =>
    match f with
    | [] => cs.isEmpty
    | ('*', false) :: rest =>
      matchesPattern fuel rest cs || (!cs.isEmpty && matchesPattern fuel f (cs.drop 1))
    | ('?', false) :: rest => !cs.isEmpty && matchesPattern fuel rest (cs.drop 1)
    | ('[', false) :: rest =>
      match charSet rest with
      | some (set, rest) => cs.head?.any set && matchesPattern fuel rest (cs.drop 1)
      | none => cs.head? == some '[' && matchesPattern fuel rest (cs.drop 1)
    | (c, _) :: rest => cs.head? == some c && matchesPattern fuel rest (cs.drop 1)

/-- A pattern matches a text. -/
def Field.accepts (f : Field) (s : List Char) : Bool := matchesPattern (f.length + s.length + 1) f s

/-- What is left of a text without the part at its end, or its front, that matches; the shortest
such part or the longest. -/
def trimMatch (fromEnd longest : Bool) (f : Field) (s : List Char) : List Char :=
  let cuts := List.range (s.length + 1)
  let cuts := if fromEnd != longest then cuts.reverse else cuts
  let cut := cuts.find? fun n => f.accepts (if fromEnd then s.drop n else s.take n)
  match cut with
  | some n => if fromEnd then s.take n else s.drop n
  | none => s

/-! ### Values -/

namespace Scope

/-- The value of a parameter, if it is set. -/
def value? (s : Scope) (name : String) : Option String :=
  match name with
  | "?" => some (Text.decimal s.status)
  | "$" => some (Text.decimal s.pid)
  | "!" => s.background.map Text.decimal
  | "#" => some (Text.decimal s.params.length)
  | "-" => some ""
  | "*" => if s.params = [] then none else some (" ".intercalate s.params)
  | "@" => if s.params = [] then none else some (" ".intercalate s.params)
  | "0" => some s.name
  | _ =>
    if Text.isDigits name.toList then s.params[Text.digitsValue name.toList - 1]?
    else s.vars.lookup name

/-- Sets a variable. -/
def set (s : Scope) (name value : String) : Scope :=
  { s with vars := (name, value) :: s.vars.filter (·.1 ≠ name) }

/-- The variables that programs get to see. -/
def environment (s : Scope) : List (String × String) :=
  s.vars.filter fun v => s.exported.contains v.1

end Scope

/-! ### Arithmetic -/

/-- A whole number, or a name or a sign in an expression. -/
inductive Lexeme where
  | number (n : Int)
  | sign (s : String)
deriving DecidableEq

/-- The signs of two characters. -/
def longSigns : List String := ["&&", "||", "==", "!=", "<=", ">=", "<<", ">>"]

/-- The number that some digits stand for: decimal, octal behind a zero, or hexadecimal. -/
def literal (ds : List Char) : Nat :=
  let digit := fun (c : Char) => if c.isDigit then Text.digitValue c else c.toLower.toNat - 87
  match ds with
  | '0' :: x :: more =>
    if x = 'x' || x = 'X' then more.foldl (fun n c => 16 * n + digit c) 0
    else (x :: more).foldl (fun n c => 8 * n + digit c) 0
  | ds => Text.digitsValue ds

/-- Takes an expression apart. Names stand for the numbers that they have as values. -/
def lexemes (value : String → Int) : Nat → List Char → List Lexeme
  | 0, _ => []
  | fuel + 1, cs =>
    match cs with
    | [] => []
    | c :: rest =>
      if c.isDigit then
        let ds := cs.takeWhile Char.isAlphanum
        .number (literal ds) :: lexemes value fuel (cs.drop ds.length)
      else if Parser.isNameStart c then
        let name := cs.takeWhile Parser.isNameChar
        .number (value (String.ofList name)) :: lexemes value fuel (cs.drop name.length)
      else if Text.isBlank c then lexemes value fuel rest
      else
        match longSigns.find? fun s => s.toList.isPrefixOf cs with
        | some s => .sign s :: lexemes value fuel (cs.drop 2)
        | none => .sign (String.singleton c) :: lexemes value fuel rest

/-- How tightly a sign between two numbers binds. -/
def binding : String → Nat
  | "||" => 1
  | "&&" => 2
  | "|" => 3
  | "^" => 4
  | "&" => 5
  | "==" => 6
  | "!=" => 6
  | "<" => 7
  | "<=" => 7
  | ">" => 7
  | ">=" => 7
  | "<<" => 8
  | ">>" => 8
  | "+" => 9
  | "-" => 9
  | "*" => 10
  | "/" => 10
  | "%" => 10
  | _ => 0

/-- A truth value as a number. -/
def truth (b : Bool) : Int := if b then 1 else 0

/-- What a sign makes of two numbers. -/
def combine (s : String) (a b : Int) : Int :=
  match s with
  | "||" => truth (a ≠ 0 || b ≠ 0)
  | "&&" => truth (a ≠ 0 && b ≠ 0)
  | "|" => (a.toNat ||| b.toNat : Nat)
  | "^" => (a.toNat ^^^ b.toNat : Nat)
  | "&" => (a.toNat &&& b.toNat : Nat)
  | "==" => truth (a = b)
  | "!=" => truth (a ≠ b)
  | "<" => truth (a < b)
  | "<=" => truth (a ≤ b)
  | ">" => truth (a > b)
  | ">=" => truth (a ≥ b)
  | "<<" => a * Nat.pow 2 b.toNat
  | ">>" => a.fdiv (Nat.pow 2 b.toNat)
  | "+" => a + b
  | "-" => a - b
  | "*" => a * b
  | "/" => a.tdiv b
  | "%" => a.tmod b
  | _ => a

mutual
/-- Evaluates a number with the signs in front of it. -/
def operand : Nat → List Lexeme → Int × List Lexeme
  | 0, ls => (0, ls)
  | fuel + 1, ls =>
    match ls with
    | .number n :: rest => (n, rest)
    | .sign "(" :: rest =>
      let (n, rest) := expression fuel 1 rest
      (n, rest.drop 1)
    | .sign "-" :: rest =>
      let (n, rest) := operand fuel rest
      (-n, rest)
    | .sign "+" :: rest => operand fuel rest
    | .sign "~" :: rest =>
      let (n, rest) := operand fuel rest
      (-n - 1, rest)
    | .sign "!" :: rest =>
      let (n, rest) := operand fuel rest
      (truth (n = 0), rest)
    | ls => (0, ls)

/-- Evaluates an expression of signs that bind at least so tightly. -/
def expression : Nat → Nat → List Lexeme → Int × List Lexeme
  | 0, _, ls => (0, ls)
  | fuel + 1, least, ls =>
    let (a, rest) := operand fuel ls
    continued fuel least a rest

/-- Evaluates what follows a number. -/
def continued : Nat → Nat → Int → List Lexeme → Int × List Lexeme
  | 0, _, a, ls => (a, ls)
  | fuel + 1, least, a, ls =>
    match ls with
    | .sign s :: rest =>
      if binding s = 0 || binding s < least then (a, ls)
      else
        let (b, rest) := expression fuel (binding s + 1) rest
        continued fuel least (combine s a b) rest
    | _ => (a, ls)
end

/-- A whole number as text. -/
def integerText (n : Int) : String := (if n < 0 then "-" else "") ++ Text.decimal n.natAbs

/-- The number that a text stands for, or zero. -/
def numberOf (s : String) : Int :=
  match s.toList with
  | '-' :: ds => if Text.isDigits ds then -(Text.digitsValue ds : Int) else 0
  | ds => if Text.isDigits ds then Text.digitsValue ds else 0

/-! ### Expansion -/

/-- A piece of what a word stands for: text that is kept together, text that is split, or the
border between two fields. -/
inductive Piece where
  | kept (quoted : Bool) (text : List Char)
  | split (text : List Char)
  | border

/-- The pieces of a value. -/
def valuePieces (quoted : Bool) (v : String) : List Piece :=
  if quoted then [.kept true v.toList] else [.split v.toList]

/-- The pieces of all parameters. -/
def paramPieces (quoted : Bool) (params : List String) : List Piece :=
  ((params.map fun p => valuePieces quoted p).intersperse [.border]).flatten

/-- The text of pieces that are not split. -/
def piecesField (ps : List Piece) : Field :=
  ps.flatMap fun
    | .kept q s => s.map (·, q)
    | .split s => s.map (·, false)
    | .border => [(' ', true)]

mutual
/-- The pieces of a part of a word. -/
def partPieces (s : Scope) : Nat → Part → List Piece
  | 0, _ => []
  | fuel + 1, p =>
    match p with
    | .literal q text => [.kept q text]
    | .output _ _ => []
    | .value q text =>
      let text := (piecesField (textPieces s fuel text)).map (·.1)
      let value := fun name => numberOf ((s.value? name).getD "")
      let ls := lexemes value (text.length + 1) text
      valuePieces q (integerText (expression (2 * ls.length + 2) 1 ls).1)
    | .parameter q name op default =>
      let v := s.value? name
      let v' := v.filter (· ≠ "")
      match op with
      | [] => if name = "@" then paramPieces q s.params else valuePieces q (v.getD "")
      | ['#'] =>
        if default = [] then valuePieces q (Text.decimal (Text.uncarried (v.getD "")).length)
        else trimmed s fuel q false false (v.getD "") default
      | ['#', '#'] => trimmed s fuel q false true (v.getD "") default
      | ['%'] => trimmed s fuel q true false (v.getD "") default
      | ['%', '%'] => trimmed s fuel q true true (v.getD "") default
      | ['+'] => if v.isSome then quotedPieces s fuel q default else []
      | [':', '+'] => if v'.isSome then quotedPieces s fuel q default else []
      | [':', _] =>
        match v' with
        | some v => valuePieces q v
        | none => quotedPieces s fuel q default
      | _ =>
        match v with
        | some v => valuePieces q v
        | none => quotedPieces s fuel q default

/-- The pieces of a text with parameters in it. -/
def textPieces (s : Scope) : Nat → List Char → List Piece
  | 0, _ => []
  | fuel + 1, text =>
    match Parser.doubleQuoted (text.length + 2) [] (text ++ ['"']) with
    | some (ps, _) => wordPieces s fuel ps
    | none => [.kept false text]

/-- The pieces of a text in place of a value. -/
def quotedPieces (s : Scope) : Nat → Bool → List Char → List Piece
  | 0, _, _ => []
  | fuel + 1, q, text =>
    valuePieces q (Field.text (piecesField (textPieces s fuel text)))

/-- The pieces of a value without a matching part. -/
def trimmed (s : Scope) : Nat → Bool → Bool → Bool → String → List Char → List Piece
  | 0, _, _, _, _, _ => []
  | fuel + 1, q, fromEnd, longest, v, pattern =>
    let w := ((Parser.wordParts (pattern.length + 1) [] pattern).map (·.1)).getD []
    let f := piecesField (wordPieces s fuel w)
    valuePieces q (String.ofList (trimMatch fromEnd longest f v.toList))

/-- The pieces of a word. -/
def wordPieces (s : Scope) : Nat → Word → List Piece
  | 0, _ => []
  | _ + 1, [] => []
  | fuel + 1, p :: rest => partPieces s fuel p ++ wordPieces s fuel rest
end

/-- How deep expansions may be nested, for a word of some size. -/
def expansionDepth (w : Word) : Nat := w.length + 64

/-- The finished fields, latest first, and the one that is begun. -/
structure Fields where
  done : List Field := []
  begun : Option Field := none

namespace Fields

/-- Ends the field that is begun. -/
def finish (f : Fields) : Fields :=
  match f.begun with
  | some g => ⟨g :: f.done, none⟩
  | none => f

/-- Adds characters to the field that is begun. -/
def add (f : Fields) (cs : Field) : Fields := { f with begun := some (f.begun.getD [] ++ cs) }

/-- Adds a piece. -/
def piece (f : Fields) : Piece → Fields
  | .kept q s => if s = [] && !q then f else f.add (s.map (·, q))
  | .border => f.finish
  | .split s =>
    s.foldl (fun f c => if c = ' ' || c = '\t' || c = '\n' then f.finish else f.add [(c, false)]) f

end Fields

/-- A tilde that is a word, or stands before a slash at its front, stands for the home directory. -/
def Scope.atHome (s : Scope) (w : Word) : Word :=
  let home := ((s.value? "HOME").getD "~").toList
  match w with
  | [.literal false ['~']] => [.literal true home]
  | .literal false ('~' :: '/' :: cs) :: rest =>
    .literal true home :: .literal false ('/' :: cs) :: rest
  | w => w

/-- All parameters between double quotes, alone, are no field at all if there are none. -/
def Scope.isNoField (s : Scope) (w : Word) : Bool :=
  s.params = [] && w.contains (.parameter true "@" [] []) && w.all fun
    | .literal _ [] => true
    | .parameter true "@" [] [] => true
    | _ => false

/-- The fields that a word stands for. -/
def Scope.fields (s : Scope) (w : Word) : List Field :=
  if s.isNoField w then []
  else
    ((wordPieces s (expansionDepth w) (s.atHome w)).foldl Fields.piece {}).finish.done.reverse

/-- What has to be done before a word can be used. -/
inductive Demand where
  | assign (name value : String)
  | refuse (what : String)

/-- What the parameters of a word call for that are missing. A strict shell takes no missing
parameter. -/
def Scope.demand? (s : Scope) (isStrict : Bool) (w : Word) : Option Demand :=
  w.findSome? fun
    | .parameter _ name op default =>
      let isMissing := match op with
        | [':', _] => (s.value? name).getD "" = ""
        | _ => (s.value? name).isNone
      let text := (piecesField (textPieces s (expansionDepth w) default)).text
      if !isMissing then none
      else
        match op.getLast? with
        | some '=' => some (.assign name text)
        | some '?' =>
          some (.refuse (name ++ ": " ++ (if default ≠ [] then text
            else "parameter not set" ++ if op = ['?'] then "" else " or null")))
        | some _ => none
        | none =>
          if isStrict && name ∉ ["", "@", "*"] then
            some (.refuse (name ++ ": parameter not set"))
          else none
    | _ => none

/-! ### Names of files -/

/-- The field is a pattern. -/
def Field.isPattern (f : Field) : Bool :=
  f.any fun c => !c.2 && ['*', '?', '['].contains c.1

/-- What a field stands for: a pattern stands for the paths whose last name matches it, in order,
if there are any, and else for itself. Hidden names only match patterns with a dot in front. -/
def Field.names (files : FileTree) (f : Field) : List String :=
  if !f.isPattern then [f.text]
  else
    let last : Field := (f.reverse.takeWhile (·.1 ≠ '/')).reverse
    let above := Field.text (f.take (f.length - last.length))
    let names : List String := match files.locate (if above = "" then "." else above) with
      | .ok place => files.entries.filterMap fun (e : List String × FileEntry) =>
          if e.1.length = place.length + 1 && place.isPrefixOf e.1 then e.1.getLast? else none
      | .error _ => []
    let visible := names.filter fun n => last.head? = some ('.', false) || !n.startsWith "."
    let found := visible.filter fun n => last.accepts n.toList
    if found = [] then [f.text]
    else (found.mergeSort fun a b => a ≤ b).map (above ++ ·)

/-- The field that a word stands for where it is not split. -/
def Scope.field (s : Scope) (w : Word) : Field := piecesField (wordPieces s (expansionDepth w) w)

/-- The text that a word stands for where it is not split. -/
def Scope.text (s : Scope) (w : Word) : String := (s.field w).text

/-! ### Outputs of scripts -/

/-- The first script in a word whose output is called for. -/
def pendingWord? (w : Word) : Option (List Char) :=
  w.findSome? fun
    | .output _ script => some script
    | _ => none

/-- Puts an output in the place of the first script. Output that is not quoted is split like any
value. -/
def fillWord (text : List Char) : Word → Word
  | .output true _ :: rest => .literal true text :: rest
  | .output false _ :: rest => .parameter false "" [':', '-'] text :: rest
  | p :: rest => p :: fillWord text rest
  | [] => []

/-- Puts an output in the place of the first script in some words. -/
def fillWords (text : List Char) : List Word → List Word
  | [] => []
  | w :: rest =>
    if (pendingWord? w).isSome then fillWord text w :: rest else w :: fillWords text rest

/-- The word of a redirection. -/
def Redirection.word : Redirection → Word
  | .read w => w
  | .write w => w
  | .append w => w
  | .copy w => w
  | .text w => w

/-- A redirection with another word. -/
def Redirection.withWord (w : Word) : Redirection → Redirection
  | .read _ => .read w
  | .write _ => .write w
  | .append _ => .append w
  | .copy _ => .copy w
  | .text _ => .text w

/-- The words of a command that must be known before it can run. -/
def Command.words : Command → List Word
  | .simple _ assigned ws redirects => ws ++ redirects.map (·.2.word) ++ assigned.map (·.2)
  | .each _ (some ws) _ _ => ws
  | .choose w _ _ => [w]
  | _ => []

/-- The first script whose output a command calls for before it can run. -/
def Command.pending? (c : Command) : Option (List Char) := c.words.findSome? pendingWord?

/-- Puts an output in the place of the first script. -/
def Command.fill (text : List Char) : Command → Command
  | .simple line assigned ws redirects =>
    let filled := fillWords text (ws ++ redirects.map (·.2.word) ++ assigned.map (·.2))
    let later := filled.drop ws.length
    .simple line ((assigned.map (·.1)).zip (later.drop redirects.length)) (filled.take ws.length)
      ((redirects.zip later).map fun (r, w) => (r.1, r.2.withWord w))
  | .each name (some ws) body redirects => .each name (some (fillWords text ws)) body redirects
  | .choose w arms redirects => .choose (fillWord text w) arms redirects
  | c => c

end GuestHarness.Shell
