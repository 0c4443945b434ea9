import TagLedger.CommandLine.Argument
import TagLedger.CommandLine.UsageError

/-!
# Command grammars

A command is an action with arguments or a group of commands.  A command line is read word by word.
A value that was not attached to its argument stays pending until the next argument or the end, and
only then is checked; an argument that nothing has a place for is reported before.
-/

namespace TagLedger.CommandLine

/-- A command; an action builds its result from what it was given, unless something it requires is
missing. -/
inductive Command (α : Type) where
  | action (name about : String) (named : List NamedArgument) (positionals : List Positional)
      (build : Given → Option α)
  | group (name about : String) (named : List NamedArgument) (subcommands : List (Command α))

variable {α : Type}

namespace Command

def name : Command α → String
  | action name .. => name
  | group name .. => name

def about : Command α → String
  | action _ about .. => about
  | group _ about .. => about

def named : Command α → List NamedArgument
  | action _ _ named _ _ => named
  | group _ _ named _ => named

def positionals : Command α → List Positional
  | action _ _ _ positionals _ => positionals
  | group .. => []

def subcommands : Command α → List (Command α)
  | action .. => []
  | group _ _ _ subcommands => subcommands

def withLong? (command : Command α) (long : String) : Option NamedArgument :=
  command.named.find? (·.long == long)

def withLetter? (command : Command α) (letter : Char) : Option NamedArgument :=
  command.named.find? (·.letter == some letter)

def isGroup (command : Command α) : Bool :=
  !command.subcommands.isEmpty

def subcommand? (command : Command α) (name : String) : Option (Command α) :=
  command.subcommands.find? (·.name == name)

def helpName : String := "help"

def isSubcommand (command : Command α) (name : String) : Bool :=
  (command.subcommand? name).isSome || (command.isGroup && name == helpName)

end Command

inductive Stop where
  | usage (error : UsageError)
  | help (lines : List String)
  | version
  deriving DecidableEq, Repr

inductive Target where
  | named (argument : NamedArgument)
  | positional (positional : Positional)

structure Pending where
  target : Target
  values : List String

/-- How far a command's own words have been read.  `position` counts the positional arguments that
are filled; after an escape, `literal`, every word is positional. -/
structure Progress where
  given : Given
  pending : Option Pending
  position : Nat
  literal : Bool

namespace Progress

def start : Progress :=
  ⟨⟨[]⟩, none, 0, false⟩

def awaitsValue (progress : Progress) : Bool :=
  match progress.pending with
  | some ⟨.named _, []⟩ => true
  | _ => false

def checkValue (usage value : String) (form : ValueForm) : Except UsageError Unit :=
  match form.check value with
  | .ok () => .ok ()
  | .error .missing => .error (.missingValue usage)
  | .error (.refused reason) => .error (.invalidValue usage value reason)

/-- Takes note of the value of a named argument, which may come a second time only if it is
repeatable. -/
def recordNamed (argument : NamedArgument) (value : String) (given : Given) :
    Except UsageError Given :=
  if given.has argument.long && !argument.repeatable then
    .error (.repeatedArgument argument.usage)
  else
    match checkValue argument.usage value argument.form with
    | .ok () => .ok (given.add argument.long value)
    | .error error => .error error

def recordPositional (positional : Positional) (given : Given) (value : String) :
    Except UsageError Given :=
  match checkValue positional.usage value positional.form with
  | .ok () => .ok (given.add positional.name value)
  | .error error => .error error

def recordPending (given : Given) : Pending → Except UsageError Given
  | ⟨.named argument, []⟩ => .error (.missingValue argument.usage)
  | ⟨.named argument, value :: _⟩ => recordNamed argument value given
  | ⟨.positional positional, values⟩ => values.foldlM (recordPositional positional) given

def settle (progress : Progress) : Except UsageError Progress :=
  match progress.pending with
  | none => .ok progress
  | some pending =>
      match recordPending progress.given pending with
      | .ok given => .ok { progress with given, pending := none }
      | .error error => .error error

def record (argument : NamedArgument) (value : String) (progress : Progress) :
    Except UsageError Progress := do
  let progress ← progress.settle
  return { progress with given := ← recordNamed argument value progress.given }

def await (argument : NamedArgument) (progress : Progress) : Except UsageError Progress := do
  let progress ← progress.settle
  return { progress with pending := some ⟨.named argument, []⟩ }

def giveValue (value : String) (progress : Progress) : Progress :=
  { progress with pending := progress.pending.map fun pending =>
      { pending with values := pending.values ++ [value] } }

def isRepeating (progress : Progress) : Bool :=
  match progress.pending with
  | some ⟨.positional positional, _⟩ => positional.repeated
  | _ => false

def givePositional (positional : Positional) (value : String) (progress : Progress) :
    Except UsageError Progress :=
  if progress.isRepeating then .ok (progress.giveValue value)
  else do
    let progress ← progress.settle
    return { progress with
      pending := some ⟨.positional positional, [value]⟩
      position := if positional.repeated then progress.position else progress.position + 1 }

end Progress

/-! ## Reading one word -/

namespace Command

def helpLines (command : Command α) : List String :=
  command.about ::
    (if command.isGroup then
      "" :: "Commands:" :: command.subcommands.map fun subcommand =>
        "  " ++ subcommand.name ++ "  " ++ subcommand.about
    else [])

def orStop {β : Type} : Except UsageError β → Except Stop β
  | .ok value => .ok value
  | .error error => .error (.usage error)

def flip (command : Command α) (argument : NamedArgument) (switch : Switch)
    (progress : Progress) : Except Stop Progress := do
  match switch with
  | .set => orStop (progress.record argument "")
  | .help => do
      let _ ← orStop progress.settle
      throw (.help command.helpLines)
  | .version => do
      let _ ← orStop progress.settle
      throw .version

def readLong (command : Command α) (progress : Progress) (long : String)
    (attached : Option String) : Except Stop Progress :=
  match command.withLong? long with
  | none => .error (.usage (.unexpectedArgument ("--" ++ long)))
  | some argument =>
      match argument.takes, attached with
      | .value .., some value => orStop (progress.record argument value)
      | .value .., none => orStop (progress.await argument)
      | .nothing _, some value => .error (.usage (.unexpectedValue argument.usage value))
      | .nothing switch, none => command.flip argument switch progress

/-- Letters that stand together; the first that takes a value takes the letters behind it. -/
def readLetters (command : Command α) (progress : Progress) : List Char → Except Stop Progress
  | [] => .ok progress
  | letter :: rest =>
      match command.withLetter? letter with
      | none => .error (.usage (.unexpectedArgument (String.ofList ['-', letter])))
      | some argument =>
          match argument.takes, rest with
          | .value .., [] => orStop (progress.await argument)
          | .value .., '=' :: value => orStop (progress.record argument (String.ofList value))
          | .value .., value => orStop (progress.record argument (String.ofList value))
          | .nothing switch, rest =>
              match command.flip argument switch progress with
              | .ok progress => command.readLetters progress rest
              | .error stop => .error stop

/-- A word that no argument has a place for.  Where subcommands are expected it is taken for one,
unless it is one behind an escape. -/
def misplaced (command : Command α) (progress : Progress) (word : String) : UsageError :=
  if !command.isGroup || (progress.literal && command.isSubcommand word) then
    .unexpectedArgument word
  else .unrecognizedSubcommand word

def readPositional (command : Command α) (progress : Progress) (word : String) :
    Except Stop Progress :=
  match command.positionals[progress.position]? with
  | some positional => orStop (progress.givePositional positional word)
  | none => .error (.usage (command.misplaced progress word))

def readWord (command : Command α) (progress : Progress) (word : String) :
    Except Stop Progress :=
  if progress.literal then command.readPositional progress word
  else
    match Word.of word with
    | .escape => .ok { progress with literal := true }
    | .long name attached => command.readLong progress name attached
    | .letters letters => command.readLetters progress letters
    | .plain =>
        if progress.awaitsValue then .ok (progress.giveValue word)
        else command.readPositional progress word

/-! ## Reading a command line -/

/-- A command to perform, with what each command on the way to it was given, the outermost first. -/
structure Invocation (α : Type) where
  result : α
  levels : List Given

def finish (command : Command α) (path : String) (progress : Progress) :
    Except Stop (Invocation α) := do
  let progress ← orStop progress.settle
  match command with
  | .action _ _ _ _ build =>
      match build progress.given with
      | some result => return ⟨result, [progress.given]⟩
      | none => throw (.usage .missingArguments)
  | .group _ about _ _ =>
      if progress.given.values.isEmpty then throw (.usage (.nothingGiven about))
      else throw (.usage (.missingSubcommand path))

def helpOn (command : Command α) : List String → Stop
  | [] => .help command.helpLines
  | word :: rest =>
      match command.subcommand? word with
      | some subcommand => subcommand.helpOn rest
      | none =>
          if command.isSubcommand word then
            match rest with
            | [] => .help command.helpLines
            | next :: _ => .usage (.unrecognizedSubcommand next)
          else .usage (.unrecognizedSubcommand word)

def read (command : Command α) (path : String) (progress : Progress) :
    List String → Except Stop (Invocation α)
  | [] => command.finish path progress
  | word :: rest =>
      if progress.literal || progress.awaitsValue then
        match command.readWord progress word with
        | .ok progress => command.read path progress rest
        | .error stop => .error stop
      else
        match command.subcommand? word with
        | some subcommand =>
            match subcommand.read (path ++ " " ++ subcommand.name) .start rest with
            | .error stop => .error stop
            | .ok invocation =>
                match progress.settle with
                | .ok progress =>
                    .ok { invocation with levels := progress.given :: invocation.levels }
                | .error error => .error (.usage error)
        | none =>
            if command.isSubcommand word then .error (command.helpOn rest)
            else
              match command.readWord progress word with
              | .ok progress => command.read path progress rest
              | .error stop => .error stop

end Command

end TagLedger.CommandLine
