import GuestHarness.FileTree
import GuestHarness.Shell.Expansion

/-!
Conditions of scripts: comparisons of texts and numbers, and questions about files.
-/

namespace GuestHarness.Shell.Condition

/-- A question about one word. -/
def unary? (files : FileTree) (op word : String) : Option Bool :=
  let found := (files.find word).toOption
  match op with
  | "-n" => some (word ≠ "")
  | "-z" => some (word = "")
  | "-e" => some found.isSome
  | "-f" => some (files.isFile word)
  | "-d" => some (files.isDirectory word)
  | "-r" => some found.isSome
  | "-w" => some found.isSome
  | "-x" => some (match found with
    | some (.file _ executable) => executable
    | some .directory => true
    | none => false)
  | "-s" => some (match found with
    | some (.file content _) => !content.isEmpty
    | some .directory => true
    | none => false)
  | "-t" => some false
  | "-L" => some false
  | "-h" => some false
  | "-p" => some false
  | "-S" => some false
  | _ => none

/-- The number that a word must be: digits behind a sign, between blanks. -/
def number (s : String) : Except String Int :=
  let trim := fun (cs : List Char) => (cs.dropWhile Text.isBlank).reverse
  let (isNegative, ds) := match trim (trim s.toList) with
    | '-' :: ds => (true, ds)
    | '+' :: ds => (false, ds)
    | ds => (false, ds)
  if Text.isDigits ds then
    .ok (if isNegative then -(Text.digitsValue ds : Int) else Text.digitsValue ds)
  else .error ("Illegal number: " ++ s)

/-- A comparison of two words. -/
def binary? (a op b : String) : Option (Except String Bool) :=
  let compare := fun (holds : Int → Int → Bool) => some (do return holds (← number a) (← number b))
  match op with
  | "=" => some (.ok (a = b))
  | "==" => some (.ok (a = b))
  | "!=" => some (.ok (a ≠ b))
  | "<" => some (.ok (a < b))
  | ">" => some (.ok (b < a))
  | "-eq" => compare fun x y => x = y
  | "-ne" => compare fun x y => x ≠ y
  | "-lt" => compare fun x y => x < y
  | "-le" => compare fun x y => x ≤ y
  | "-gt" => compare fun x y => x > y
  | "-ge" => compare fun x y => x ≥ y
  | _ => none

/-- The answer that the front of some words gives, and the words that are left. -/
abbrev Partial := Except String (Bool × List String)

mutual
/-- Reads a condition that is negated, in brackets, or a question. -/
def single (files : FileTree) : Nat → List String → Partial
  | 0, _ => .ok (false, [])
  | fuel + 1, ws =>
    match ws with
    | [] => .ok (false, [])
    | [w] => .ok (w ≠ "", [])
    | a :: op :: rest =>
      match binary? a op (rest.headD "") with
      | some answer =>
        if rest = [] then .error (op ++ ": argument expected")
        else answer.map (·, rest.drop 1)
      | none => prefixed files fuel a (op :: rest)

/-- Reads what follows a word that is no part of a comparison. -/
def prefixed (files : FileTree) : Nat → String → List String → Partial
  | 0, _, rest => .ok (false, rest)
  | fuel + 1, a, rest =>
    if a = "!" then (single files fuel rest).map fun (v, more) => (!v, more)
    else if a = "(" then do
      match ← either files fuel rest with
      | (v, ")" :: more) => return (v, more)
      | _ => throw "closing paren expected"
    else
      match rest with
      | w :: more =>
        match unary? files a w with
        | some v => .ok (v, more)
        | none => .ok (a ≠ "", rest)
      | [] => .ok (a ≠ "", [])

/-- Reads conditions that must all hold. -/
def both (files : FileTree) : Nat → List String → Partial
  | 0, ws => .ok (false, ws)
  | fuel + 1, ws => do
    match ← single files fuel ws with
    | (v, "-a" :: rest) =>
      let (w, more) ← both files fuel rest
      return (v && w, more)
    | r => return r

/-- Reads conditions of which one must hold. -/
def either (files : FileTree) : Nat → List String → Partial
  | 0, ws => .ok (false, ws)
  | fuel + 1, ws => do
    match ← both files fuel ws with
    | (v, "-o" :: rest) =>
      let (w, more) ← either files fuel rest
      return (v || w, more)
    | r => return r
end

/-- The condition holds, unless it is malformed. All of its words have to be used. -/
def holds (files : FileTree) (ws : List String) : Except String Bool := do
  let (v, left) ← either files (4 * ws.length + 4) ws
  if left = [] then return v
  else throw ((ws[ws.length - left.length - 1]?).getD "" ++ ": unexpected operator")

end GuestHarness.Shell.Condition
