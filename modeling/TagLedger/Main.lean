import TagLedger.CommandLine.Run
import TagLedger.Identifier
import TagLedger.Store.Snapshot
import TagLedger.Terminal.Coloring
import TagLedger.Timestamp
import Std.Time

/-!
# The program

Reads the files that a command line asks for, runs it on them, writes what it changed, and prints
what it has to say.
-/

namespace TagLedger

open CommandLine

def readNode (path : String) : IO (Option FileNode) := do
  try
    let bytes ← IO.FS.readBinFile path
    return some (((String.fromUTF8? bytes).map FileNode.text).getD .binary)
  catch
    | .inappropriateType _ 21 _ => return some .directory
    | .permissionDenied file code details => throw (.permissionDenied file code details)
    | _ => return none

def systemPath (place : Place) : String :=
  "/" ++ place.path

def addNodes (files : Files) (place : Place) : List String → IO Files
  | [] => return files
  | name :: rest => do
      if name = "" || name = "." then addNodes files place rest
      else if name = ".." then addNodes files place.dropLast rest
      else
        let place := place ++ [name]
        match ← readNode (systemPath place) with
        | some node => addNodes (files.put place node) place rest
        | none => addNodes files place rest

def addPath (directory : Place) (files : Files) (path : String) : IO Files :=
  addNodes files (if path.startsWith "/" then [] else directory) (path.splitOn "/")

def namesOf (path : String) : Place :=
  (path.splitOn "/").filter (· ≠ "")

def inputPaths (words : List String) : List String :=
  match readCall words with
  | .ok ⟨.perform (.load projects charts), _, _⟩ => projects.toList ++ charts.toList
  | _ => []

def Workspace.recallStore (workspace : Workspace) : Workspace :=
  match workspace.files.node? workspace.storePlace with
  | some (.text text) => ((Store.ofText? text).map (workspace.putStore ·)).getD workspace
  | _ => workspace

def userSettings : IO (Option String) := do
  let directory := settingsDirectory? (← IO.getEnv "XDG_CONFIG_HOME") (← IO.getEnv "HOME")
  return directory.map userSettingsPath

def readWorkspace (words : List String) : IO Workspace := do
  let root := (← IO.currentDir).toString
  let project := namesOf root
  let settings ← userSettings
  let own := [storeFileName, settingsFileName, ignoreFileName].map (joinPath storeDirectory)
  let paths := settings.toList ++ own ++ inputPaths words
  let files ← paths.foldlM (addPath project) .empty
  let workspace := ⟨root, project, settings, files.addDirectories [] project⟩
  return Workspace.recallStore workspace

def writeNode (path : String) : Option FileNode → Option FileNode → IO Unit
  | none, some .directory => IO.FS.createDirAll path
  | some (.text old), some (.text new) => if old = new then return else IO.FS.writeFile path new
  | _, some (.text new) => IO.FS.writeFile path new
  | _, some (.store store _ _) => IO.FS.writeFile path (store.snapshot.compact ++ "\n")
  | _, _ => return

def writeWorkspace (old new : Workspace) : IO Unit := do
  let own := new.storeDirectoryPlace
  let places := own :: [storeFileName, settingsFileName, ignoreFileName].map (own ++ [·])
  places.forM fun place =>
    writeNode (systemPath place) (old.files.node? place) (new.files.node? place)

def readColoring : IO Terminal.Coloring := do
  return {
    forbidden := ← IO.getEnv "NO_COLOR"
    forced := ← IO.getEnv "CLICOLOR_FORCE"
    wanted := ← IO.getEnv "CLICOLOR"
    terminalKind := ← IO.getEnv "TERM"
    continuousIntegration := ← IO.getEnv "CI" }

def readLogging : IO Logging := do
  let named ← IO.getEnv "TAGBOARD_LOG"
  return {
    filter := named.bind LogFilter.ofName?
    detailed := (← IO.getEnv "DEBUG").isSome
    line := fun _ event => event.entry.line }

def readEnvironment : IO Environment := do
  let marks := (← readColoring).marks (← (← IO.getStderr).isTty)
  return ⟨← IO.getEnv "FORMAT", ← (← IO.getStdout).isTty, marks, ← readLogging⟩

def readSources : IO Sources := do
  let random ← IO.getRandomBytes 32
  let numbers := random.toList.map (·.toNat)
  let join (bytes : List Nat) := bytes.foldl (fun value byte => value * 256 + byte) 0
  let now ← Std.Time.Timestamp.now
  return {
    now := timestamp now.toMillisecondsSinceUnixEpoch.toInt.toNat
    candidates := Identifier.sequence (join (numbers.take 16)) (join (numbers.drop 16)) }

end TagLedger

open TagLedger CommandLine in
def main (words : List String) : IO UInt32 := do
  let environment ← readEnvironment
  let old ← readWorkspace words
  let (ending, new) := run (← readSources) environment words old
  writeWorkspace old new
  (← IO.getStdout).putStr ending.output
  (← IO.getStderr).putStr ending.errors
  return ending.status.toUInt32
