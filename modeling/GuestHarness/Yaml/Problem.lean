import GuestHarness.Text.Quoted

/-!
What can be wrong with a node that is read as something: its kind, its value, or its fields. A
problem is reported with the place of the node in the document.
-/

namespace GuestHarness.Yaml

/-- What a node turned out to be. -/
inductive Found where
  | null
  | bool (b : Bool)
  | integer (n : Int)
  | float (shown : String)
  | text (s : String)
  | sequence
  | mapping
  | variant
  | plainVariant
  | option
deriving DecidableEq

/-- Names what was found. Numbers of more than 64 bits are named so. -/
def Found.render : Found → String
  | .null => "unit value"
  | .bool b => "boolean " ++ "`" ++ (if b then "true" else "false") ++ "`"
  | .integer n =>
    let width :=
      if 0x10000000000000000 ≤ n then " as u128"
      else if n < -0x8000000000000000 then " as i128" else ""
    let sign := if n < 0 then "-" else ""
    "integer `" ++ sign ++ Text.decimal n.natAbs ++ "`" ++ width
  | .float shown => "floating point `" ++ shown ++ "`"
  | .text s => "string " ++ Text.quoted s
  | .sequence => "sequence"
  | .mapping => "map"
  | .variant => "enum"
  | .plainVariant => "unit variant"
  | .option => "Option value"

/-- What can be wrong with a node. -/
inductive Problem where
  | wrongType (found : Found) (expected : String)
  | wrongValue (found : Found) (expected : String)
  | wrongLength (length : Nat) (expected : String)
  | unknownVariant (name : String) (known : List String)
  | missingField (name : String)
  | duplicateField (name : String)
  | other (text : String)
deriving DecidableEq

/-- A name as it stands in a message. -/
def ticked (name : String) : String := "`" ++ name ++ "`"

/-- Lists the names that are possible. -/
def choices : List String → String
  | [] => ""
  | [a] => ticked a
  | [a, b] => ticked a ++ " or " ++ ticked b
  | names => "one of " ++ ", ".intercalate (names.map ticked)

/-- The text of a problem. -/
def Problem.message : Problem → String
  | .wrongType found expected => s!"invalid type: {found.render}, expected {expected}"
  | .wrongValue found expected => s!"invalid value: {found.render}, expected {expected}"
  | .wrongLength length expected => s!"invalid length {Text.decimal length}, expected {expected}"
  | .unknownVariant name [] => "unknown variant " ++ ticked name ++ ", there are no variants"
  | .unknownVariant name known =>
    "unknown variant " ++ ticked name ++ ", expected " ++ choices known
  | .missingField name => "missing field " ++ ticked name
  | .duplicateField name => "duplicate field " ++ ticked name
  | .other text => text

/-! ### Places -/

/-- Where a node stands in a document: under which keys and at which positions. A key that is no
scalar has no name. -/
inductive Path where
  | root
  | item (parent : Path) (index : Nat)
  | entry (parent : Path) (key : String)
  | unnamed (parent : Path)
deriving DecidableEq

namespace Path

mutual
/-- The text of a path. -/
def render : Path → String
  | .root => "."
  | .item parent index => parent.render ++ "[" ++ Text.decimal index ++ "]"
  | .entry parent key => parent.lead ++ key
  | .unnamed parent => parent.lead ++ "?"

/-- The text of a path in front of a key. -/
def lead : Path → String
  | .root => ""
  | .item parent index => parent.render ++ "[" ++ Text.decimal index ++ "]."
  | .entry parent key => parent.lead ++ key ++ "."
  | .unnamed parent => parent.lead ++ "?."
end

end Path

/-- Why a text cannot be read: the text is at fault, there is nothing in it, or a node has a
problem. A problem that arises between nodes has no place until it is known where that was. -/
inductive ReadError where
  | faulty
  | absent
  | problem (path : Option Path) (p : Problem)
deriving DecidableEq

namespace ReadError

/-- Gives a place to a problem that has none yet. -/
def locate (path : Path) : ReadError → ReadError
  | .problem none p => .problem (some path) p
  | e => e

/-- The text of an error, if it does not lie in the text that was read. -/
def message? : ReadError → Option String
  | .faulty => none
  | .absent => some "EOF while parsing a value"
  | .problem none p => some p.message
  | .problem (some .root) p => some p.message
  | .problem (some path) p => some (path.render ++ ": " ++ p.message)

end ReadError
end GuestHarness.Yaml
