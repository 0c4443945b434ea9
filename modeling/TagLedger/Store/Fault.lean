import TagLedger.Text.Quoted

/-!
# Faults of the document store

The causes for which the store itself refuses a statement, with the text that reports each.
-/

namespace TagLedger

inductive TableName where
  | projects
  | charts
  | slugs
  | colors
  | assets
  | metadata
  deriving DecidableEq, Repr

def TableName.text : TableName → String
  | .projects => "projects"
  | .charts => "chart_configurations"
  | .slugs => "hashtag_slugs"
  | .colors => "hashtag_colors"
  | .assets => "content_assets"
  | .metadata => "store_meta"

def TableName.all : List TableName :=
  [.projects, .charts, .slugs, .colors, .assets, .metadata]

inductive Check where
  | notEmpty (column : String)
  | assetKind
  deriving DecidableEq, Repr

def Check.text : Check → String
  | .notEmpty column => s!"length(trim({column})) > 0"
  | .assetKind => "kind IN ('media', 'text')"

inductive StoreFault where
  | noSuchTable (table : TableName)
  | checkFailed (check : Check)
  | notUnique (table : TableName) (column : String)
  | blobColumn (index : Nat) (column : String)
  | unknownAssetKind (raw : String)
  | negativeVersion
  | readOnly
  | malformed
  | noRows
  | queryNotReadOnly
  deriving DecidableEq, Repr

def unknownAssetKindText (raw : String) : String :=
  s!"unknown asset kind '{raw}', expected one of: media, text"

def StoreFault.text : StoreFault → String
  | .noSuchTable table => "no such table: " ++ table.text
  | .checkFailed check => "CHECK constraint failed: " ++ check.text
  | .notUnique table column => s!"UNIQUE constraint failed: {table.text}.{column}"
  | .blobColumn index column => s!"Invalid column type Blob at index: {index}, name: {column}"
  | .unknownAssetKind raw =>
      "Conversion error from type Text at index: 1, " ++ unknownAssetKindText raw
  | .negativeVersion =>
      "Conversion error from type Integer at index: 0, number too small to fit in target type"
  | .readOnly => "attempt to write a readonly database"
  | .malformed => "database disk image is malformed"
  | .noRows => "Query returned no rows"
  | .queryNotReadOnly => "Query is not read-only"

def errorCode (number : Nat) (meaning : String) : String :=
  s!"Error code {number}: {meaning}"

def StoreFault.cause? : StoreFault → Option String
  | .noSuchTable _ => some (errorCode 1 "SQL error or missing database")
  | .readOnly => some (errorCode 8 "Attempt to write a readonly database")
  | .malformed => some (errorCode 11 "The database disk image is malformed")
  | .negativeVersion => some "number too small to fit in target type"
  | _ => none

def StoreFault.report (fault : StoreFault) : String :=
  match fault.cause? with
  | some cause => fault.text ++ ": " ++ cause
  | none => fault.text

end TagLedger
