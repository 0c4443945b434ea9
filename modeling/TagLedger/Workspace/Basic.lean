import TagLedger.Error
import TagLedger.Settings.OutputMode
import TagLedger.Settings.Project
import TagLedger.Workspace.Files

/-!
# Workspaces

What a command works with: files, among them those of a project and the user's settings.  A project
keeps its store and its settings in a directory of its own.
-/

namespace TagLedger

inductive SettingsFailure where
  | unreadable (path : String) (fault : FileFault)
  | unparsable (path : String)
  deriving DecidableEq, Repr

namespace SettingsFailure

def context : SettingsFailure → String
  | .unreadable path _ => "Failed to read " ++ path
  | .unparsable path => "Failed to parse " ++ path

def text (failure : SettingsFailure) : String :=
  match failure with
  | .unreadable _ fault => failure.context ++ ": " ++ fault.text
  | .unparsable _ => failure.context

end SettingsFailure

def settingsFileName : String := "config.toml"

def projectSettingsPath (root : String) : String :=
  joinPath (joinPath root storeDirectory) settingsFileName

def userSettingsPath (directory : String) : String :=
  joinPath (joinPath directory "tagboard") settingsFileName

/-- Reads the settings in a file; without a file, all are as they are by default. -/
def loadSettings {α : Type} (default : α) (read : String → Option α) (path : String) :
    Option FileNode → Except SettingsFailure α
  | none => .ok default
  | some node =>
      match node.content with
      | .error fault => .error (.unreadable path fault)
      | .ok text =>
          match read text with
          | some settings => .ok settings
          | none => .error (.unparsable path)

def ProjectSettings.load : String → Option FileNode → Except SettingsFailure ProjectSettings :=
  loadSettings ProjectSettings.default ProjectSettings.read

def UserSettings.load : String → Option FileNode → Except SettingsFailure UserSettings :=
  loadSettings UserSettings.default UserSettings.read

/-- The directory of all settings of the user: the one named for them if its path is absolute, or
else one in the home directory. -/
def settingsDirectory? (named home : Option String) : Option String :=
  match named.filter (·.startsWith "/"), home.filter (· ≠ "") with
  | some directory, _ => some directory
  | none, some home => some (joinPath home ".config")
  | none, none => none

structure Workspace where
  root : String
  project : Place
  userSettings : Option String
  files : Files

/-- What a file means to one who looks for a store in it. -/
def StoreFile.ofNode : Option FileNode → StoreFile
  | none => .absent
  | some .directory => .directory
  | some (.text content) => .ofBytes content.toUTF8
  | some .binary => .garbage
  | some (.store content logged _) => .store content logged

namespace Workspace

def storeDirectoryPlace (workspace : Workspace) : Place :=
  workspace.project ++ [storeDirectory]

def storePlace (workspace : Workspace) : Place :=
  workspace.storeDirectoryPlace ++ [storeFileName]

def settingsPlace (workspace : Workspace) : Place :=
  workspace.storeDirectoryPlace ++ [settingsFileName]

def storePath (workspace : Workspace) : String :=
  TagLedger.storePath workspace.root

def settingsPath (workspace : Workspace) : String :=
  projectSettingsPath workspace.root

def storeFile (workspace : Workspace) : StoreFile :=
  .ofNode (workspace.files.node? workspace.storePlace)

/-- Keeps a store in its file.  What the file itself says stays: whether it can be written, whether
there is a log, and the text that it reads as. -/
def putStore (store : Store) (workspace : Workspace) : Workspace :=
  let text := (workspace.files.node? workspace.storePlace).bind (·.content.toOption)
  let node :=
    match workspace.storeFile with
    | .store held logged => .store { store with refusal := held.refusal } logged text
    | _ => .store store true none
  { workspace with files := workspace.files.put workspace.storePlace node }

def settings (workspace : Workspace) : Except LedgerError ProjectSettings :=
  let node := workspace.files.node? workspace.settingsPlace
  match ProjectSettings.load workspace.settingsPath node with
  | .ok settings => .ok settings
  | .error failure => .error (.config failure.text)

def userOutput (workspace : Workspace) : Option String := do
  let path ← workspace.userSettings
  let text ← (workspace.files.readText workspace.project path).toOption
  (← UserSettings.read text).output

end Workspace

end TagLedger
