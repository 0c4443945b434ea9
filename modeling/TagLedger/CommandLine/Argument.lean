import TagLedger.Store.Asset
import TagLedger.Text.Digits

/-!
# Arguments

An argument is either named, by a long name or a letter, or known by its position.  A named argument
is a switch or takes one value.  Values must have the form that their argument asks for.
-/

namespace TagLedger.CommandLine

/-! ## Counts -/

inductive CountFault where
  | empty
  | invalidDigit
  | tooLarge
  deriving DecidableEq, Repr

def CountFault.text : CountFault → String
  | .empty => "cannot parse integer from empty string"
  | .invalidDigit => "invalid digit found in string"
  | .tooLarge => "number too large to fit in target type"

def countLimit : Nat :=
  twoTo 64

def countFrom (value : Nat) : List Char → Except CountFault Nat
  | [] => .ok value
  | digit :: rest =>
      if digit.isDigit then
        let value := value * 10 + Text.digitValue digit
        if value < countLimit then countFrom value rest else .error .tooLarge
      else .error .invalidDigit

def count (text : String) : Except CountFault Nat :=
  match text.toList with
  | [] => .error .empty
  | ['+'] => .error .invalidDigit
  | '+' :: digits => countFrom 0 digits
  | digits => countFrom 0 digits

/-! ## Forms of values -/

inductive ValueForm where
  | text
  | path
  | count
  | assetKind
  | oneOf (names : List String)

inductive ValueFault where
  | missing
  | refused (reason : Option String)
  deriving DecidableEq, Repr

/-- A value that is one of a list counts as missing when it is empty, and so does a path. -/
def ValueForm.check (value : String) : ValueForm → Except ValueFault Unit
  | .text => .ok ()
  | .path => if value.isEmpty then .error .missing else .ok ()
  | .count =>
      match CommandLine.count value with
      | .ok _ => .ok ()
      | .error fault => .error (.refused (some fault.text))
  | .assetKind =>
      match AssetKind.parse? value with
      | some _ => .ok ()
      | none => .error (.refused (some (unknownAssetKindText value)))
  | .oneOf names =>
      if names.contains value then .ok ()
      else if value.isEmpty then .error .missing
      else .error (.refused none)

/-! ## Named arguments and positions -/

inductive Switch where
  | set
  | help
  | version
  deriving DecidableEq, Repr

inductive Taking where
  | nothing (switch : Switch)
  | value (placeholder : String) (form : ValueForm) (repeatable : Bool)

structure NamedArgument where
  long : String
  letter : Option Char
  takes : Taking

namespace NamedArgument

def takesValue (argument : NamedArgument) : Bool :=
  match argument.takes with
  | .nothing _ => false
  | .value .. => true

def repeatable (argument : NamedArgument) : Bool :=
  match argument.takes with
  | .nothing _ => false
  | .value _ _ repeatable => repeatable

def usage (argument : NamedArgument) : String :=
  match argument.takes with
  | .nothing _ => "--" ++ argument.long
  | .value placeholder _ _ => "--" ++ argument.long ++ " <" ++ placeholder ++ ">"

def form (argument : NamedArgument) : ValueForm :=
  match argument.takes with
  | .nothing _ => .text
  | .value _ form _ => form

end NamedArgument

/-- An argument known by its position; a repeated one takes all that follow. -/
structure Positional where
  name : String
  form : ValueForm
  repeated : Bool

def Positional.usage (positional : Positional) : String :=
  "<" ++ positional.name ++ ">"

/-! ## Words -/

inductive Word where
  | plain
  | escape
  | long (name : String) (attached : Option String)
  | letters (letters : List Char)

def Word.of (word : String) : Word :=
  match word.toList with
  | ['-', '-'] => .escape
  | '-' :: '-' :: rest =>
      let name := String.ofList (rest.takeWhile (· != '='))
      match rest.dropWhile (· != '=') with
      | [] => .long name none
      | _ :: value => .long name (some (String.ofList value))
  | '-' :: first :: rest => .letters (first :: rest)
  | _ => .plain

/-! ## What was given -/

/-- The values given to arguments, by the arguments' names, in the order of their coming.  A switch
that was given has an empty value. -/
structure Given where
  values : List (String × String)
  deriving DecidableEq, Repr

namespace Given

def has (given : Given) (name : String) : Bool :=
  given.values.any (·.1 == name)

def value? (given : Given) (name : String) : Option String :=
  given.values.lookup name

def all (given : Given) (name : String) : List String :=
  (given.values.filter (·.1 == name)).map (·.2)

def add (given : Given) (name value : String) : Given :=
  ⟨given.values ++ [(name, value)]⟩

end Given

end TagLedger.CommandLine
