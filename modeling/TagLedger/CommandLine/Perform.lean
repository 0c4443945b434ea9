import TagLedger.Cache.Colors
import TagLedger.CommandLine.Failure
import TagLedger.CommandLine.Report
import TagLedger.CommandLine.Request
import TagLedger.Json.Reader

/-!
# Performing requests

A request changes the workspace and ends with a report or a failure.  What was written before a
failure stays written.
-/

namespace TagLedger.CommandLine

structure Sources where
  now : String
  candidates : Nat → String

abbrev Task (α : Type) : Type :=
  ExceptT Failure (StateM Workspace) α

namespace Task

def ofLedger {α : Type} : Except LedgerError α → Task α
  | .ok value => return value
  | .error error => throw (.coded error)

def changeFiles (change : Files → Except FileFault Files) (failure : FileFault → Failure) :
    Task Unit := do
  let workspace ← get
  match change workspace.files with
  | .ok files => set { workspace with files }
  | .error fault => throw (failure fault)

def settings : Task ProjectSettings := do
  ofLedger (← get).settings

def openStore (sources : Sources) : Task Store := do
  let (result, workspace) := (← get).openStore sources.now
  set workspace
  ofLedger result

def onStore {α : Type} (store : Store) (operation : Store → Outcome α) : Task α := do
  let (result, store) := operation store
  modify (·.putStore store)
  ofLedger result

def withStore {α : Type} (sources : Sources) (operation : Store → Outcome α) : Task α := do
  onStore (← openStore sources) operation

def asking {α : Type} (sources : Sources) (question : Store → Except LedgerError α) : Task α :=
  withStore sources fun store => (question store, store)

end Task

/-! ## Setting up -/

def ignoreFileName : String := ".gitignore"

def ignoreText : String :=
  unlines [storeFileName, logFileName, indexFileName]

/-- Creates the project's directory, settings and store.  Where the directory exists, that takes
force, and data in the store is kept. -/
def setUp (sources : Sources) (force : Bool) : Task Report := do
  let workspace ← get
  let place := workspace.storeDirectoryPlace
  if workspace.files.contains place && !force then throw .alreadyInitialized
  let path := joinPath workspace.root storeDirectory
  Task.changeFiles (·.createDirectory place) (.cannotCreate path)
  Task.changeFiles (·.writeText workspace.settingsPlace ProjectSettings.defaultText)
    (.cannotWrite "config" workspace.settingsPath)
  Task.changeFiles (·.writeText (place ++ [ignoreFileName]) ignoreText)
    (.cannotWrite ignoreFileName (joinPath path ignoreFileName))
  let (result, opened) := (← get).createStore sources.now
  set opened
  match result with
  | .error failure => throw (.cannotOpen workspace.storePath failure)
  | .ok store =>
      match store.schemaVersion with
      | .error fault => throw (.store fault)
      | .ok version => return .initialized workspace.storePath workspace.settingsPath version

/-! ## Loading documents -/

def readDocuments (path : String) : Task (List Json) := do
  let workspace ← get
  match workspace.files.readText workspace.project path with
  | .error fault => throw (.cannotRead path fault)
  | .ok text =>
      match Json.read text with
      | none => throw (.notJson path)
      | some (.array documents) => return documents
      | some _ => throw (.coded (.invalidDocument 0 (path ++ " must contain a JSON array")))

def readOptional : Option String → Task (Option (List Json))
  | none => return none
  | some path => return some (← readDocuments path)

def loadBatch (sources : Sources) (first : Nat) (collection : Collection)
    (batch : Option (List Json)) (store : Store) : Outcome Nat :=
  match batch with
  | none => (.ok 0, store)
  | some documents =>
      match store.upsertDocuments (fun index => sources.candidates (first + index)) sources.now
          collection documents with
      | (.error error, store) => (.error error, store)
      | (.ok ids, store) => (.ok ids.length, store)

def totals (projectsLoaded chartsLoaded : Nat) (store : Store) : Except LedgerError LoadReport :=
  match store.countDocuments .projects, store.countDocuments .charts with
  | .ok projects, .ok charts => .ok ⟨projectsLoaded, chartsLoaded, projects, charts⟩
  | .error fault, _ => .error (.store fault)
  | _, .error fault => .error (.store fault)

/-- Writes the projects and then the charts, each batch in one transaction. -/
def loadBatches (sources : Sources) (projects charts : Option (List Json)) (store : Store) :
    Outcome LoadReport :=
  match loadBatch sources 0 .projects projects store with
  | (.error error, store) => (.error error, store)
  | (.ok projectsLoaded, store) =>
      match loadBatch sources projectsLoaded .charts charts store with
      | (.error error, store) => (.error error, store)
      | (.ok chartsLoaded, store) => (totals projectsLoaded chartsLoaded store, store)

/-- Loads documents from files, all of which are read before any is written. -/
def load (sources : Sources) (projects charts : Option String) : Task Report := do
  if projects.isNone && charts.isNone then
    throw (.coded (.missingParameter "--projects or --charts"))
  let store ← Task.openStore sources
  let projects ← readOptional projects
  let charts ← readOptional charts
  return .loaded (← Task.onStore store (loadBatches sources projects charts))

/-! ## Hashtags and colors -/

def hashtags (sources : Sources) (debug : Bool) (limit : Option Nat) : Task Report := do
  let settings ← Task.settings
  let options := ⟨debug || settings.includeDebug, limit <|> settings.limit⟩
  return .usage (← Task.withStore sources (·.hashtagUsage sources.candidates sources.now options))

def withColors (sources : Sources)
    (display : String → Nat → Board → Except LedgerError (List ColorRow) × Board) : Task Report := do
  let fallback := (← Task.settings).fallbackColor
  let store ← Task.openStore sources
  let path := (← get).storePath
  let (consumer, board) := (Board.new path path store).mount
  let (result, board) := display fallback consumer board
  modify (·.putStore board.store)
  return .colors fallback (← Task.ofLedger result)

def renderColors (now : String) (consumer : Nat) (board : Board) :
    Except LedgerError ColorTable × Board :=
  match board.render now consumer with
  | (.ok colors, board) => (.ok colors, board)
  | (.error failure, board) => (.error (.cacheFetch failure), board)

def setColor (now tag color fallback : String) (consumer : Nat) (board : Board) :
    Except LedgerError (List ColorRow) × Board :=
  match board.setColorAndInvalidate now tag color with
  | (.error error, board) => (.error error, board)
  | (.ok canonical, board) =>
      match renderColors now consumer board with
      | (.error error, board) => (.error error, board)
      | (.ok colors, board) => (.ok [⟨canonical, colors.colorFor canonical fallback⟩], board)

def effectiveRow (colors : ColorTable) (fallback tag : String) : Except LedgerError ColorRow :=
  match Tag.canonicalize tag with
  | some canonical => .ok ⟨canonical, colors.colorFor canonical fallback⟩
  | none => .error (.invalidTag tag)

def listColors (now : String) (tags : List String) (fallback : String) (consumer : Nat)
    (board : Board) : Except LedgerError (List ColorRow) × Board :=
  match renderColors now consumer board with
  | (.error error, board) => (.error error, board)
  | (.ok colors, board) =>
      if tags.isEmpty then (.ok (colors.rows.map fun row => ⟨row.1, row.2⟩), board)
      else (tags.mapM (effectiveRow colors fallback), board)

/-! ## Requests -/

def perform (sources : Sources) : Request → Task Report
  | .setUp force => setUp sources force
  | .load projects charts => load sources projects charts
  | .hashtags debug limit => hashtags sources debug limit
  | .resolveSlugs tags =>
      return .resolved (← Task.withStore sources (·.resolveAll sources.candidates sources.now tags))
  | .showSlug slug => return .shownSlug (← Task.asking sources (·.lookupSlug slug))
  | .listSlugs => return .listedSlugs (← Task.asking sources (·.listEntries))
  | .references key => return .references (← Task.asking sources (·.referenceUsage key))
  | .addAsset key kind title content =>
      return .savedAsset
        (← Task.withStore sources (·.upsertAsset sources.now key kind title content))
  | .removeAsset key force => return .deletedAsset (← Task.withStore sources (·.deleteAsset key force))
  | .listAssets => return .listedAssets (← Task.asking sources (·.listAssets))
  | .setColor tag color => withColors sources (setColor sources.now tag color)
  | .listColors tags => withColors sources (listColors sources.now tags)

end TagLedger.CommandLine
