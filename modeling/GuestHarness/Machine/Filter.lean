import GuestHarness.Text.Lossy

/-!
Programs that turn what they read into what they write. Such a filter is fed pieces of its input
and says what it puts out; at the end of the input it may have something left to say.
-/

namespace GuestHarness.Machine

/-- The units in which input is counted. -/
structure Totals where
  lines : Nat := 0
  words : Nat := 0
  bytes : Nat := 0
  inWord : Bool := false

/-- A filter: it copies, keeps what is at the front or at the end, counts, or replaces each byte by
the entry of a table. -/
inductive Filter where
  | copy
  | front (byLines : Bool) (left : Nat)
  | back (byLines : Bool) (count : Nat) (held : Bytes)
  | fromOn (byLines : Bool) (skipped : Nat)
  | count (lines words bytes : Bool) (label : String) (totals : Totals)
  | replace (table : Array (Option UInt8))

namespace Filter

/-- Separates words. -/
def isSpace (b : UInt8) : Bool := b = 0x20 || (0x09 ≤ b && b ≤ 0x0D)

/-- Counts a byte. -/
def tally (t : Totals) (b : UInt8) : Totals :=
  { lines := if b = 0x0A then t.lines + 1 else t.lines
    words := if isSpace b || t.inWord then t.words else t.words + 1
    bytes := t.bytes + 1
    inWord := !isSpace b }

/-- The first lines of some bytes, and how many lines are missing. -/
def takeLines : Nat → Bytes → Bytes × Nat
  | 0, _ => ([], 0)
  | n, [] => ([], n)
  | n + 1, b :: rest =>
    let (bs, left) := takeLines (if b = 0x0A then n else n + 1) rest
    (b :: bs, left)

/-- The last lines of some bytes. -/
def lastLines (n : Nat) (bs : Bytes) : Bytes :=
  let (body, ending) : Bytes × Bytes := match bs.reverse with
    | 0x0A :: rest => (rest, [0x0A])
    | rest => (rest, [])
  let kept := go n body
  if n = 0 then [] else kept.reverse ++ ending
where
  /-- The bytes, latest first, before so many line ends. -/
  go : Nat → Bytes → Bytes
    | 0, _ => []
    | _, [] => []
    | n + 1, b :: rest =>
      if b = 0x0A then (if n = 0 then [] else b :: go n rest) else b :: go (n + 1) rest

/-- Takes a piece of input: the output for it, the filter for the rest, and whether it is done. -/
def feed (bs : Bytes) : Filter → Bytes × Filter × Bool
  | copy => (bs, copy, false)
  | front false left => (bs.take left, front false (left - bs.length), left ≤ bs.length)
  | front true left =>
    let (out, left) := takeLines left bs
    (out, front true left, left = 0)
  | back byLines n held => ([], back byLines n (held ++ bs), false)
  | fromOn false n => (bs.drop n, fromOn false (n - bs.length), false)
  | fromOn true n =>
    let (skipped, left) := takeLines n bs
    (bs.drop skipped.length, fromOn true left, false)
  | count l w b label t => ([], count l w b label (bs.foldl tally t), false)
  | replace table => (bs.filterMap fun b => (table[b.toNat]?).getD none, replace table, false)

/-- The bytes that a filter keeps back until there are so many of them. -/
def blockSize : Filter → Nat
  | replace _ => 4096
  | _ => 1

/-- A number in a column. -/
def column (width n : Nat) : String :=
  let ds := Nat.toDigits 10 n
  String.ofList (List.replicate (width - ds.length) ' ' ++ ds)

/-- The output at the end of the input. -/
def finish : Filter → Bytes
  | back true n held => lastLines n held
  | back false n held => held.drop (held.length - n)
  | count l w b label t =>
    let ns := (if l then [t.lines] else []) ++ (if w then [t.words] else []) ++
      (if b then [t.bytes] else [])
    let width := if ns.length = 1 then 1
      else if label = "" then 7
      else (Nat.toDigits 10 t.bytes).length
    Text.bytes (" ".intercalate (ns.map (column width)) ++
      (if label = "" then "" else " " ++ label) ++ "\n")
  | _ => []

end Filter
end GuestHarness.Machine
