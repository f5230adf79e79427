import GuestHarness.Shell.Expansion
import GuestHarness.Text.Carried

/-!
The texts that scripts print: backslashes stand for control characters and for bytes by their
octal digits, and a format says how words are written.
-/

namespace GuestHarness.Shell.Format

/-- An octal digit. -/
def isOctal (c : Char) : Bool := '0' ≤ c && c ≤ '7'

/-- The byte that some octal digits stand for. -/
def octalByte (ds : List Char) : UInt8 :=
  (ds.foldl (fun n c => 8 * n + Text.digitValue c) 0).toUInt8

/-- The characters that stand for others behind a backslash. -/
def escapes : List (Char × UInt8) :=
  [('\\', 0x5C), ('a', 7), ('b', 8), ('f', 12), ('n', 10), ('r', 13), ('t', 9), ('v', 11)]

/-- The byte that a backslash and what is behind it stand for, and what is left. -/
def escaped (cs : List Char) : UInt8 × List Char :=
  match cs with
  | [] => (0x5C, [])
  | c :: rest =>
    if isOctal c then
      let ds := (cs.take 3).takeWhile isOctal
      (octalByte ds, cs.drop ds.length)
    else
      match escapes.lookup c with
      | some b => (b, rest)
      | none => (0x5C, cs)

/-- The bytes of a word in which backslashes count, and whether nothing may follow it. Octal digits
may have a zero in front. -/
def expanded : Nat → List Char → Bytes × Bool
  | 0, _ => ([], false)
  | _, [] => ([], false)
  | fuel + 1, '\\' :: rest =>
    match rest with
    | 'c' :: _ => ([], true)
    | '0' :: d :: more =>
      let (b, left) := if isOctal d then escaped (d :: more) else escaped rest
      let (bs, stops) := expanded fuel left
      (b :: bs, stops)
    | _ =>
      let (b, left) := escaped rest
      let (bs, stops) := expanded fuel left
      (b :: bs, stops)
  | fuel + 1, c :: rest =>
    let (bs, stops) := expanded fuel rest
    (Text.carriedByte c ++ bs, stops)

/-- The bytes of a word in which backslashes count. -/
def ofWord (s : String) : Bytes × Bool := expanded (s.length + 1) s.toList

/-- What is printed for words. -/
def echo (args : List String) : Bytes :=
  let (silent, words) := match args with
    | "-n" :: rest => (true, rest)
    | _ => (false, args)
  let (bs, stops) := ofWord (" ".intercalate words)
  if silent || stops then bs else bs ++ [0x0A]

/-! ### Formats -/

/-- How a value is written: to the left, with zeros, with a sign, its width and precision. -/
structure Directive where
  flags : List Char := []
  width : Nat := 0
  precision : Option Nat := none

/-- Fills up to the width. -/
def Directive.fill (d : Directive) (bs : Bytes) : Bytes :=
  let gap := d.width - bs.length
  if d.flags.contains '-' then bs ++ List.replicate gap 0x20 else List.replicate gap 0x20 ++ bs

/-- Writes a text. -/
def Directive.text (d : Directive) (bs : Bytes) : Bytes :=
  d.fill (match d.precision with
    | some n => bs.take n
    | none => bs)

/-- Writes a number in a base. -/
def Directive.number (d : Directive) (base : Nat) (upper : Bool) (n : Int) : Bytes :=
  let ds := Nat.toDigits base n.natAbs
  let ds := if upper then ds.map Char.toUpper else ds
  let sign := if n < 0 then ['-'] else if d.flags.contains '+' then ['+']
    else if d.flags.contains ' ' then [' '] else []
  let least := match d.precision with
    | some p => p
    | none => if d.flags.contains '0' && !d.flags.contains '-' then d.width - sign.length else 0
  let zeros := List.replicate (least - ds.length) '0'
  d.fill (Text.encode (sign ++ zeros ++ ds))

/-- The number that a word stands for: decimal, octal behind a zero, hexadecimal behind `0x`, or
the character behind a quote. -/
def numberValue (s : String) : Int :=
  let magnitude := fun (cs : List Char) =>
    match cs with
    | '0' :: x :: ds =>
      if x = 'x' || x = 'X' then
        ds.foldl (fun n c => 16 * n + (if c.isDigit then Text.digitValue c
          else c.toLower.toNat - 87)) 0
      else (x :: ds).foldl (fun n c => 8 * n + Text.digitValue c) 0
    | '\'' :: c :: _ => c.toNat
    | '"' :: c :: _ => c.toNat
    | ds => Text.digitsValue (ds.takeWhile Char.isDigit)
  match s.toList with
  | '-' :: cs => -(magnitude cs : Int)
  | '+' :: cs => magnitude cs
  | cs => magnitude cs

/-- Reads a directive from behind its percent sign: the way of writing, its letter, the words that
are left after stars, and what is left of the format. -/
def directive (cs : List Char) (args : List String) :
    Directive × Option Char × List String × List Char :=
  let flags := cs.takeWhile fun c => ['-', '+', ' ', '#', '0'].contains c
  let cs := cs.drop flags.length
  let amount := fun (cs : List Char) (args : List String) =>
    match cs with
    | '*' :: rest => ((numberValue (args.headD "0")).toNat, args.drop 1, rest)
    | _ =>
      let ds := cs.takeWhile Char.isDigit
      (Text.digitsValue ds, args, cs.drop ds.length)
  let (width, args, cs) := amount cs args
  let (precision, args, cs) := match cs with
    | '.' :: rest =>
      let (n, args, rest) := amount rest args
      (some n, args, rest)
    | _ => (none, args, cs)
  (⟨flags, width, precision⟩, cs.head?, args, cs.drop 1)

/-- Writes words by a format, once: the output, the words that are left, and whether it stops. -/
def once : Nat → List Char → List String → Bytes × List String × Bool
  | 0, _, args => ([], args, true)
  | _, [], args => ([], args, false)
  | fuel + 1, '\\' :: rest, args =>
    let (b, left) := escaped rest
    let (bs, args, stops) := once fuel left args
    (b :: bs, args, stops)
  | fuel + 1, '%' :: '%' :: rest, args =>
    let (bs, args, stops) := once fuel rest args
    (0x25 :: bs, args, stops)
  | fuel + 1, '%' :: rest, args =>
    let (d, letter, args, left) := directive rest args
    let arg := args.headD ""
    let (out, ends) : Bytes × Bool := match letter with
      | some 's' => (d.text (Text.uncarried arg), false)
      | some 'b' =>
        let (bs, stops) := ofWord arg
        (d.text bs, stops)
      | some 'c' => (d.text ((Text.uncarried arg).take 1), false)
      | some 'x' => (d.number 16 false (numberValue arg), false)
      | some 'X' => (d.number 16 true (numberValue arg), false)
      | some 'o' => (d.number 8 false (numberValue arg), false)
      | _ => (d.number 10 false (numberValue arg), false)
    if ends then (out, [], true)
    else
      let (bs, args, stops) := once fuel left (args.drop 1)
      (out ++ bs, args, stops)
  | fuel + 1, c :: rest, args =>
    let (bs, args, stops) := once fuel rest args
    (Text.carriedByte c ++ bs, args, stops)

/-- Writes words by a format, as often as it takes to use them all. -/
def repeated (format : List Char) : Nat → List String → Bytes
  | 0, _ => []
  | n + 1, args =>
    let (bs, left, stops) := once (format.length + 1) format args
    if stops || left = [] || left.length = args.length then bs else bs ++ repeated format n left

/-- What is printed for a format and words. -/
def printf (args : List String) : Bytes :=
  match args with
  | [] => []
  | format :: args => repeated format.toList (args.length + 1) args

end GuestHarness.Shell.Format
