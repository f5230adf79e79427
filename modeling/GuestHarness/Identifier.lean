import GuestHarness.Error
import GuestHarness.Text.Alphanumeric

/-!
Session identifiers: between 1 and 64 bytes of letters, numbers, hyphens and underscores.
-/

namespace GuestHarness

/-- What makes a text unfit to identify a session. -/
inductive IdentifierFault where
  | empty
  | tooLong (id : String)
  | badCharacter (id : String)
deriving DecidableEq, Repr

namespace IdentifierFault

/-- The wording of a fault. -/
def message : IdentifierFault → String
  | empty => "Session ID cannot be empty"
  | tooLong id => "Session ID too long (max 64 characters): " ++ id
  | badCharacter id =>
    "Session ID can only contain alphanumeric characters, hyphens, and underscores: " ++ id

/-- A fault as an error of the harness. -/
def toError (f : IdentifierFault) : HarnessError := .configuration f.message

end IdentifierFault

/-- The character may stand in an identifier. -/
def isIdentifierChar (c : Char) : Bool := Text.isAlphanumeric c || c = '-' || c = '_'

/-- Checks the length, in bytes, before the characters. -/
def checkIdentifier (id : String) : Except IdentifierFault Unit :=
  if id = "" then .error .empty
  else if 64 < Text.byteLength id then .error (.tooLong id)
  else if ¬ id.toList.all isIdentifierChar then .error (.badCharacter id)
  else .ok ()

end GuestHarness
