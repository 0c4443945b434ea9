import TagLedger.CommandLine.Layout
import TagLedger.Json.Printer
import TagLedger.Response
import TagLedger.Workspace.Opening

/-!
# Failures of commands

A command fails with an error of the ledger, which has a code, or because of a file, which has none.
The report of a failure names its cause; only an error with a code comes with a suggestion.
-/

namespace TagLedger.CommandLine

inductive Failure where
  | coded (error : LedgerError)
  | alreadyInitialized
  | cannotCreate (path : String) (fault : FileFault)
  | cannotWrite (what path : String) (fault : FileFault)
  | cannotRead (path : String) (fault : FileFault)
  | notJson (path : String)
  | cannotOpen (path : String) (failure : OpenFailure)
  | store (fault : StoreFault)
  deriving DecidableEq, Repr

namespace Failure

def text : Failure → String
  | .coded error => error.text
  | .alreadyInitialized =>
      s!"{storeDirectory}/ already exists. Use \x60tb init --force\x60 to reinitialize."
  | .cannotCreate path fault => s!"Failed to create {path}: {fault.text}"
  | .cannotWrite what path fault => s!"Failed to write {what}: {path}: {fault.text}"
  | .cannotRead path fault => s!"Failed to read {path}: {fault.text}"
  | .notJson path => s!"Failed to parse {path} as JSON"
  | .cannotOpen path failure => failure.context path ++ ": " ++ failure.cause path
  | .store fault => fault.text

def error? : Failure → Option LedgerError
  | .coded error => some error
  | _ => none

def details (failure : Failure) : List (String × Json) :=
  match failure.error? with
  | some error =>
      [("error_code", .string error.code.text), ("message", .string failure.text),
        ("status", .ofNat error.code.status), ("suggestion", .string error.suggestion)]
  | none => [("message", .string failure.text)]

def json (failure : Failure) : Json :=
  .object [("error", .object failure.details), ("success", .bool false)]

def lines (failure : Failure) : List String :=
  match failure.error? with
  | some error =>
      [s!"error[{error.code.text}]: {failure.text}", "  suggestion: " ++ error.suggestion]
  | none => ["error: " ++ failure.text]

def render (failure : Failure) : OutputMode → String
  | .json => failure.json.pretty ++ "\n"
  | .text | .pretty => unlines failure.lines

end Failure

end TagLedger.CommandLine
