/-!
Options on a command line. An option is a flag or takes a value, which follows it or is attached
to it; it may be given once. Words that are no options are free: a program either takes all from
the first of them on, or none.
-/

namespace GuestHarness.CommandLine

/-- An option: its name, its letter if it has one, whether it takes a value and which values it
accepts, and whether it ends the reading of the command line. -/
structure OptionSpec where
  name : String
  letter : Option Char := none
  takesValue : Bool := true
  accepts : String → Bool := fun _ => true
  isFinal : Bool := false

/-- Why the reading of a command line ends early: it is malformed, or an option asks for it. -/
inductive Stop where
  | usage
  | asked (name : String)
deriving DecidableEq

/-- The options of a command line with their values, which are empty for flags, and the free
words. -/
structure Options where
  given : List (String × String) := []
  free : List String := []
deriving DecidableEq

namespace Options

/-- A flag is given. -/
def has (o : Options) (name : String) : Bool := o.given.any (·.1 = name)

/-- The value of an option. -/
def value? (o : Options) (name : String) : Option String := o.given.lookup name

/-- Adds an option. -/
def add (spec : OptionSpec) (value : String) (o : Options) : Except Stop Options :=
  if spec.isFinal then .error (.asked spec.name)
  else if o.has spec.name || !spec.accepts value then .error .usage
  else .ok { o with given := o.given ++ [(spec.name, value)] }

/-- A word is no option. -/
def isFree (word : String) : Bool := word.toList.head? != some '-' || word = "-"

/-- Adds an option whose value is the next word. -/
def addNext (spec : OptionSpec) (rest : List String) (o : Options) :
    Except Stop (Options × List String) :=
  match rest with
  | value :: rest => if isFree value then return (← add spec value o, rest) else throw .usage
  | [] => throw .usage

/-- Adds the options of a cluster of letters, and what is left of the words behind it. -/
def addLetters (specs : List OptionSpec) :
    List Char → List String → Options → Except Stop (Options × List String)
  | [], rest, o => .ok (o, rest)
  | c :: more, rest, o =>
    match specs.find? (·.letter = some c) with
    | none => .error .usage
    | some spec =>
      if !spec.takesValue then do addLetters specs more rest (← add spec "" o)
      else
        match more with
        | [] => addNext spec rest o
        | '=' :: value => do return (← add spec (String.ofList value) o, rest)
        | value => do return (← add spec (String.ofList value) o, rest)

/-- The name and the attached value of an option. -/
def splitLong (cs : List Char) : String × Option String :=
  let name := cs.takeWhile (· ≠ '=')
  let value := cs.drop name.length
  (String.ofList name, if value = [] then none else some (String.ofList (value.drop 1)))

/-- Adds an option that is given by its name. -/
def addLong (spec : OptionSpec) (attached : Option String) (rest : List String) (o : Options) :
    Except Stop (Options × List String) :=
  match spec.takesValue, attached with
  | true, some value => do return (← add spec value o, rest)
  | true, none => addNext spec rest o
  | false, none => do return (← add spec "" o, rest)
  | false, some _ => .error .usage

/-- Reads words, of which there are at most so many. -/
def readWords (specs : List OptionSpec) (takesFree : Bool) :
    Nat → List String → Options → Except Stop Options
  | 0, _, o => .ok o
  | _, [], o => .ok o
  | n + 1, word :: rest, o =>
    let freeFrom := fun (words : List String) =>
      if takesFree || words = [] then .ok { o with free := words } else .error Stop.usage
    match word.toList with
    | ['-', '-'] => freeFrom rest
    | '-' :: '-' :: cs =>
      let (name, attached) := splitLong cs
      match specs.find? (·.name = name) with
      | some spec => do
        let (o, rest) ← addLong spec attached rest o
        readWords specs takesFree n rest o
      | none => freeFrom (word :: rest)
    | '-' :: c :: cs =>
      if takesFree && !((c :: cs).all fun c => specs.any (·.letter = some c)) then
        freeFrom (word :: rest)
      else do
        let (o, rest) ← addLetters specs (c :: cs) rest o
        readWords specs takesFree n rest o
    | _ => freeFrom (word :: rest)

/-- Reads the words of a command line. -/
def read (specs : List OptionSpec) (takesFree : Bool) (words : List String) :
    Except Stop Options :=
  readWords specs takesFree words.length words {}

end Options
end GuestHarness.CommandLine
