import TagLedger.Terminal.Marked
import TagLedger.Terminal.Visible

/-!
# Usage errors

The ways in which a command line is no command of the program.  A report of one stands out in parts
on a terminal; elsewhere it is what can be seen of it, whatever the words of the command line hold.
-/

namespace TagLedger.CommandLine

open Terminal

inductive UsageError where
  | unexpectedArgument (argument : String)
  | unexpectedValue (usage value : String)
  | missingValue (usage : String)
  | invalidValue (usage value : String) (reason : Option String)
  | repeatedArgument (usage : String)
  | missingArguments
  | unrecognizedSubcommand (name : String)
  | missingSubcommand (command : String)
  | nothingGiven (about : String)
  deriving DecidableEq, Repr

namespace UsageError

def ordinary (text : String) : Part :=
  ⟨[], text⟩

def wrong (text : String) : Part :=
  ⟨[.yellow], text⟩

def literal (text : String) : Part :=
  ⟨[.bold], text⟩

def heading : List Part :=
  [⟨[.bold, .red], "error:"⟩, ordinary " "]

def hint : List Part :=
  [ordinary "\n\nFor more information, try '", literal "--help", ordinary "'.\n"]

def problem : UsageError → List Part
  | .unexpectedArgument argument =>
      [ordinary "unexpected argument '", wrong argument, ordinary "' found"]
  | .unexpectedValue usage value =>
      [ordinary "unexpected value '", wrong value, ordinary "' for '", literal usage,
        ordinary "' found; no more were expected"]
  | .missingValue usage =>
      [ordinary "a value is required for '", wrong usage, ordinary "' but none was supplied"]
  | .invalidValue usage value reason =>
      [ordinary "invalid value '", wrong value, ordinary "' for '", literal usage, ordinary "'"] ++
        (reason.map fun reason => ordinary (": " ++ reason)).toList
  | .repeatedArgument usage =>
      [ordinary "the argument '", wrong usage, ordinary "' cannot be used multiple times"]
  | .missingArguments => [ordinary "the following required arguments were not provided:"]
  | .unrecognizedSubcommand name =>
      [ordinary "unrecognized subcommand '", wrong name, ordinary "'"]
  | .missingSubcommand command =>
      [ordinary "'", wrong command, ordinary "' requires a subcommand but one was not provided"]
  | .nothingGiven about => [ordinary about]

def parts (error : UsageError) : List Part :=
  match error with
  | .nothingGiven _ => error.problem ++ [ordinary "\n"]
  | _ => heading ++ error.problem ++ hint

def report (marks : Bool) (error : UsageError) : String :=
  if marks then marked error.parts else visible (marked error.parts)

end UsageError

end TagLedger.CommandLine
