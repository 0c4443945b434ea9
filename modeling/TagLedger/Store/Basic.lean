import TagLedger.Error
import TagLedger.Table

/-!
# The document store

A store is six tables and a version.  A table may be missing, and a document's text or a column of
an asset may be unreadable; these are states that operations meet and report.  So is a store that
refuses to be written.  `Outcome` is what an operation does: its result or error, and the store as it
leaves it in either case.
-/

namespace TagLedger

inductive Cell where
  | text (value : String)
  | blob (value : String)
  deriving DecidableEq, Repr

/-- Reads the cell of a column that is to hold a text. -/
def Cell.read (index : Nat) (column : String) : Cell → Except StoreFault String
  | .text value => .ok value
  | .blob _ => .error (.blobColumn index column)

structure DocumentRow where
  body : Cell
  createdAt : String
  updatedAt : String
  deriving DecidableEq, Repr

structure SlugRow where
  slug : String
  createdAt : String
  updatedAt : String
  deriving DecidableEq, Repr

structure ColorRow where
  color : String
  updatedAt : String
  deriving DecidableEq, Repr

structure AssetRow where
  kind : Cell
  title : Cell
  content : Option Cell
  createdAt : Cell
  updatedAt : Cell
  deriving DecidableEq, Repr

structure MetaRow where
  schemaVersion : Int
  initializedAt : String
  deriving DecidableEq, Repr

structure Store where
  projects : Option (Table DocumentRow)
  charts : Option (Table DocumentRow)
  slugs : Option (Table SlugRow)
  colors : Option (Table ColorRow)
  assets : Option (Table AssetRow)
  metadata : Option (Option MetaRow)
  version : Int
  /-- The fault that every statement that writes meets, if nothing can be written. -/
  refusal : Option StoreFault

namespace Store

def blank : Store :=
  ⟨none, none, none, none, none, none, 0, none⟩

def hasTable (store : Store) : TableName → Bool
  | .projects => store.projects.isSome
  | .charts => store.charts.isSome
  | .slugs => store.slugs.isSome
  | .colors => store.colors.isSome
  | .assets => store.assets.isSome
  | .metadata => store.metadata.isSome

def dropTable (store : Store) : TableName → Store
  | .projects => { store with projects := none }
  | .charts => { store with charts := none }
  | .slugs => { store with slugs := none }
  | .colors => { store with colors := none }
  | .assets => { store with assets := none }
  | .metadata => { store with metadata := none }

def hasMetadata (store : Store) : Bool :=
  store.metadata.join.isSome

def require {α : Type} (name : TableName) : Option α → Except StoreFault α
  | some table => .ok table
  | none => .error (.noSuchTable name)

def attempt {α : Type} (store : Store) (write : Except StoreFault α) : Except StoreFault α :=
  match store.refusal with
  | some fault => .error fault
  | none => write

end Store

abbrev Outcome (α : Type) : Type :=
  Except LedgerError α × Store

/-- The schema's condition on a key: something is left before the first NUL once spaces are
stripped. -/
def notEmpty (text : String) : Bool :=
  match text.toList.dropWhile (· == ' ') with
  | first :: _ => first != '\x00'
  | [] => false

def requireNotEmpty (column text : String) : Except StoreFault Unit :=
  if notEmpty text then .ok () else .error (.checkFailed (.notEmpty column))

end TagLedger
