import TagLedger.CommandLine.Completion
import TagLedger.CommandLine.Trace

/-!
# Running the program

One run reads a command line, performs it on a workspace, and ends with a status and what it printed.
Status 0 means success, 1 that the command failed, and 2 that the command line was no command.  What
a run logs stands before the errors that it prints.
-/

namespace TagLedger.CommandLine

/-- What a run learns from its surroundings: the output mode that they name, whether its output goes
to a terminal, whether its errors are written with marks for one, and what becomes of its log. -/
structure Environment where
  format : Option String
  terminal : Bool
  marks : Bool
  logging : Logging

structure Ending where
  status : Nat
  output : String
  errors : String
  deriving DecidableEq, Repr

namespace Ending

def success (output : String) : Ending :=
  ⟨0, output, ""⟩

def failure (errors : String) : Ending :=
  ⟨1, "", errors⟩

def usage (errors : String) : Ending :=
  ⟨2, "", errors⟩

def ofStop (marks : Bool) : Stop → Ending
  | .usage error => usage (error.report marks)
  | .help lines => success (unlines lines)
  | .version => success (unlines [versionText])

def ofResult (mode : OutputMode) : Except Failure Report → Ending
  | .ok report => success (report.render mode)
  | .error error => failure (error.render mode)

/-- The same ending after a log has been written. -/
def logged (log : String) (ending : Ending) : Ending :=
  { ending with errors := log ++ ending.errors }

end Ending

def outputMode (environment : Environment) (flag : Option OutputMode) (workspace : Workspace) :
    OutputMode :=
  .resolve (flag.map (·.name)) environment.format workspace.userOutput environment.terminal

def runRequest (sources : Sources) (mode : OutputMode) (request : Request)
    (workspace : Workspace) : Ending × Workspace :=
  let (result, workspace) := (perform sources request).run workspace
  (.ofResult mode result, workspace.closeStore)

def runDemand (sources : Sources) (mode : OutputMode) (workspace : Workspace) :
    Demand → Ending × Workspace
  | .complete shell => (.success (completionScript shell), workspace)
  | .perform request => runRequest sources mode request workspace

/-- What a call writes to its log. -/
def logOf (sources : Sources) (environment : Environment) (call : Call) (workspace : Workspace) :
    String :=
  environment.logging.write call.verbose (callEvents sources call workspace)

def run (sources : Sources) (environment : Environment) (words : List String)
    (workspace : Workspace) : Ending × Workspace :=
  match readCall words with
  | .error stop => (.ofStop environment.marks stop, workspace)
  | .ok call =>
      let mode := outputMode environment call.mode workspace
      let (ending, final) := runDemand sources mode workspace call.demand
      (ending.logged (logOf sources environment call workspace), final)

end TagLedger.CommandLine
