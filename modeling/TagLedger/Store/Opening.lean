import TagLedger.Store.Image
import TagLedger.Store.Migration

/-!
# Opening a store

A store lives in one file of a project.  Opening it creates the file if need be and migrates the
store; whoever asks for an existing store is told apart a missing file from one that cannot be used.
-/

namespace TagLedger

def storeDirectory : String := ".tagboard"

def storeFileName : String := "tagboard.db"

/-! ## Files beside a store

While a store is open, what was written to it stands in a log, for which there is an index.  A journal
is what a write left that was broken off, or a write without a log has begun. -/

def logFileName : String :=
  storeFileName ++ "-wal"

def indexFileName : String :=
  storeFileName ++ "-shm"

def journalFileName : String :=
  storeFileName ++ "-journal"

/-! ## Opening -/

def joinPath (base path : String) : String :=
  if path.startsWith "/" || base.isEmpty then path
  else if base.endsWith "/" then base ++ path
  else base ++ "/" ++ path

def storePath (root : String) : String :=
  joinPath (joinPath root storeDirectory) storeFileName

/-- What stands where a store is looked for.  A file is fresh if nothing has been written to it, and
logged if it says that changes to the store are kept in a log. -/
inductive StoreFile where
  | absent
  | directory
  | fresh
  | damaged (defect : Defect) (logged : Bool)
  | store (content : Store) (logged : Bool)

structure ConnectionSettings where
  busyTimeout : Nat
  foreignKeys : Bool
  journalMode : String
  synchronous : Nat
  deriving DecidableEq, Repr

def connectionSettings : ConnectionSettings :=
  ⟨5000, true, "wal", 1⟩

/-- How opening fails: because of the file itself, because of another file beside it, because the
store cannot be set up to be written through a log, or in a migration. -/
inductive OpenFailure where
  | cannotOpen
  | cannotOpenBeside
  | cannotReadBeside
  | cannotDeleteBeside
  | unsettledLog
  | damaged (defect : Defect)
  | setUp (fault : StoreFault)
  | migration (fault : StoreFault)
  deriving DecidableEq, Repr

namespace OpenFailure

def context (path : String) : OpenFailure → String
  | .cannotOpen => "open store database " ++ path
  | .migration _ => "apply store migrations"
  | _ => "configure sqlite pragmas"

def cannotOpenCause : String :=
  errorCode 14 "Unable to open the database file"

def cause (path : String) : OpenFailure → String
  | .cannotOpen => s!"unable to open database file: {path}: " ++ cannotOpenCause
  | .cannotOpenBeside => "unable to open database file: " ++ cannotOpenCause
  | .cannotReadBeside => "disk I/O error: " ++ errorCode 266 "Error reading from disk"
  | .cannotDeleteBeside =>
      "disk I/O error: " ++ errorCode 2570 "I/O error within xDelete of a VFS object"
  | .unsettledLog => "locking protocol: " ++ errorCode 15 "Database lock protocol error"
  | .damaged defect => defect.text
  | .setUp fault | .migration fault => fault.report

end OpenFailure

/-- A store whose file cannot be written is not given a log. -/
def Store.refusesLog (store : Store) : Bool :=
  store.refusal = some .readOnly

namespace StoreFile

/-- What the bytes of a file make of it; a file of one byte at most counts as fresh. -/
def ofBytes (bytes : ByteArray) : StoreFile :=
  if bytes.size ≤ 1 then .fresh
  else
    let image := Image.ofBytes bytes
    match image.content with
    | .error defect => .damaged defect image.logged
    | .ok content => .store content image.logged

def garbage : StoreFile :=
  .damaged .notADatabase false

def migrateContent (now : String) (content : Store) : Except OpenFailure Store × StoreFile :=
  match content.migrate now with
  | (.error fault, content) => (.error (.migration fault), .store content true)
  | (.ok _, content) => (.ok content, .store content true)

def openStore (now : String) : StoreFile → Except OpenFailure Store × StoreFile
  | .directory => (.error .cannotOpen, .directory)
  | .damaged defect logged => (.error (.damaged defect), .damaged defect logged)
  | .absent | .fresh => migrateContent now .blank
  | .store content logged =>
      if !logged && content.refusesLog then (.error (.setUp .readOnly), .store content logged)
      else migrateContent now content

def tryOpenStore (now : String) (file : StoreFile) : Option Store × StoreFile :=
  match file with
  | .absent => (none, .absent)
  | file =>
      match file.openStore now with
      | (.error _, file) => (none, file)
      | (.ok content, file) => (if content.hasMetadata then some content else none, file)

def openProjectStore (now root : String) (file : StoreFile) : Except LedgerError Store × StoreFile :=
  match file with
  | .absent => (.error (.notInitialized (storePath root)), .absent)
  | file =>
      match file.tryOpenStore now with
      | (some content, file) => (.ok content, file)
      | (none, file) => (.error (.corruptStore (storePath root)), file)

end StoreFile

end TagLedger
