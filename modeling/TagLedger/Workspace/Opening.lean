import TagLedger.Workspace.Basic

/-!
# Opening the store of a project

Opening looks at the files beside the store's own, in this order: the journal, which has to be
settled; the log, which is followed if it is in use; the index of the log, without which the store
can only be read.  A log that is not in use is begun.  Then the store is migrated.

Whatever a step did to the files stays done if a later step fails.
-/

namespace TagLedger

abbrev Opening (α : Type) : Type :=
  ExceptT OpenFailure (StateM Workspace) α

namespace Workspace

def placeBeside (workspace : Workspace) (name : String) : Place :=
  workspace.storeDirectoryPlace ++ [name]

def beside? (workspace : Workspace) (name : String) : Option FileNode :=
  workspace.files.node? (workspace.placeBeside name)

def hasDirectory (workspace : Workspace) (name : String) : Bool :=
  (workspace.beside? name).any (·.isDirectory)

def putBeside (name : String) (node : FileNode) (workspace : Workspace) : Workspace :=
  { workspace with files := workspace.files.put (workspace.placeBeside name) node }

def removeBeside (name : String) (workspace : Workspace) : Workspace :=
  { workspace with files := workspace.files.remove (workspace.placeBeside name) }

/-- A store that is open has a log, which holds what has been written, and an index of it. -/
def beginLog (written : Bool) (workspace : Workspace) : Workspace :=
  let log := if written then .binary else (workspace.beside? logFileName).getD (.text "")
  let workspace := workspace.putBeside logFileName log
  if workspace.hasDirectory indexFileName then workspace
  else workspace.putBeside indexFileName .binary

/-- Takes what the log holds into the store's own file, which is no text then. -/
def settleStore (workspace : Workspace) : Workspace :=
  match workspace.files.node? workspace.storePlace with
  | some (.store content logged _) =>
      { workspace with
        files := workspace.files.put workspace.storePlace (.store content logged none) }
  | _ => workspace

/-- Ends the log of an open store.  Without an index the log stays. -/
def closeStore (workspace : Workspace) : Workspace :=
  match workspace.beside? indexFileName with
  | some .binary =>
      ((workspace.removeBeside indexFileName).removeBeside logFileName).settleStore
  | _ => workspace

end Workspace

namespace Opening

/-! ## The journal -/

/-- Whether something was begun in a journal: its first byte is not zero then.  Beside a fresh store
any byte counts. -/
def isBegunJournal (fresh : Bool) : FileNode → Bool
  | .text content => !content.isEmpty && (fresh || !content.startsWith "\x00")
  | _ => true

def settleJournal (fresh : Bool) : Opening Unit := do
  match (← get).beside? journalFileName with
  | none => return
  | some journal =>
      if journal.isDirectory then
        if !fresh then throw .cannotReadBeside
      else if isBegunJournal fresh journal then modify (·.removeBeside journalFileName)

/-! ## The log -/

def dropLog : Opening Unit := do
  match (← get).beside? logFileName with
  | none => return
  | some log =>
      if log.isDirectory then throw .cannotDeleteBeside
      if !log.isEmpty then modify (·.removeBeside logFileName)

/-- The length of a log's header, and where in it the marks of the log begin and end. -/
def logHeaderSize : Nat := 32

def logMarksStart : Nat := 16

def logMarksEnd : Nat := 24

/-- A log whose header carries marks has to be gone through, for which an index is needed. -/
def isMarkedLog : FileNode → Bool
  | .text content =>
      let header := content.toUTF8.extract 0 logHeaderSize
      let marks := header.extract logMarksStart logMarksEnd
      header.size = logHeaderSize && marks.toList.any (· ≠ 0)
  | _ => false

/-- Follows the log of a store, if it is in use; the result says whether it is. -/
def followLog (logged : Bool) : Opening Bool := do
  let workspace ← get
  let log := (workspace.beside? logFileName).getD (.text "")
  if !logged && log.isEmpty then return false
  if log.isDirectory then throw .cannotOpenBeside
  if workspace.hasDirectory indexFileName && isMarkedLog log then throw .unsettledLog
  return true

/-- Writes into the store's own file that there is a log from now on.  That write needs a journal,
which is gone after it. -/
def setUpLog (content : Store) : Opening Unit := do
  if content.refusesLog then throw (.setUp .readOnly)
  let workspace ← get
  if workspace.hasDirectory journalFileName then throw .cannotOpenBeside
  let workspace := workspace.removeBeside journalFileName
  set { workspace with files := workspace.files.put workspace.storePlace (.store content true none) }

/-! ## Opening -/

/-- Migrates a store that has a log.  Without an index it refuses to be written. -/
def migrate (now : String) (content : Store) : Opening Store := do
  let workspace ← get
  let opened :=
    if workspace.hasDirectory indexFileName then { content with refusal := some .readOnly }
    else content
  let (result, migrated) := opened.migrate now
  let written := migrated.version ≠ content.version
  set ((if written then workspace.putStore migrated else workspace).beginLog written)
  match result with
  | .error fault => throw (.migration fault)
  | .ok _ => return migrated

def openFresh (now : String) : Opening Store := do
  settleJournal true
  dropLog
  setUpLog .blank
  migrate now .blank

def openContent (now : String) (content : Store) (logged : Bool) : Opening Store := do
  settleJournal false
  if !(← followLog logged) then setUpLog content
  migrate now content

/-- A defect is met only once the log has been found. -/
def openDamaged (defect : Defect) (logged : Bool) : Opening Store := do
  settleJournal false
  if ← followLog logged then modify (·.beginLog false)
  throw (.damaged defect)

def openStore (now : String) : Opening Store := do
  let workspace ← get
  match workspace.storeFile with
  | .directory => throw .cannotOpen
  | .absent =>
      set { workspace with files := workspace.files.put workspace.storePlace (.text "") }
      openFresh now
  | .fresh => openFresh now
  | .damaged defect logged => openDamaged defect logged
  | .store content logged => openContent now content logged

end Opening

namespace Workspace

def createStore (now : String) (workspace : Workspace) : Except OpenFailure Store × Workspace :=
  (Opening.openStore now).run workspace

def openStore (now : String) (workspace : Workspace) : Except LedgerError Store × Workspace :=
  match workspace.storeFile with
  | .absent => (.error (.notInitialized workspace.storePath), workspace)
  | _ =>
      let (result, opened) := workspace.createStore now
      match result with
      | .ok store =>
          if store.hasMetadata then (.ok store, opened)
          else (.error (.corruptStore workspace.storePath), opened)
      | .error _ => (.error (.corruptStore workspace.storePath), opened)

end Workspace

end TagLedger
