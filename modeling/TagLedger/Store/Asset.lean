import TagLedger.Store.References
import TagLedger.Text.Lowercase

/-!
# Content assets

An asset is an image or a text block that formulas refer to by its key.  Deleting an asset that is
still referred to needs force, and the deletion then reports the references it leaves behind.
-/

namespace TagLedger

inductive AssetKind where
  | media
  | text
  deriving DecidableEq, Repr

namespace AssetKind

def name : AssetKind → String
  | .media => "media"
  | .text => "text"

def parse? (raw : String) : Option AssetKind :=
  match Text.asciiLower (Text.trim raw) with
  | "media" | "image" => some .media
  | "text" => some .text
  | _ => none

end AssetKind

structure ContentAsset where
  key : String
  kind : AssetKind
  title : String
  content : Option String
  createdAt : String
  updatedAt : String
  deriving DecidableEq, Repr

namespace ContentAsset

def readKind (cell : Cell) : Except StoreFault AssetKind := do
  let name ← cell.read 1 "kind"
  match AssetKind.parse? name with
  | some kind => return kind
  | none => throw (.unknownAssetKind name)

def readContent : Option Cell → Except StoreFault (Option String)
  | none => .ok none
  | some cell => (cell.read 3 "content").map some

/-- The columns are read in the order of the fields of an asset, only the kind before the others. -/
def ofRow (row : String × AssetRow) : Except StoreFault ContentAsset := do
  let kind ← readKind row.2.kind
  return {
    key := row.1
    kind
    title := ← row.2.title.read 2 "title"
    content := ← readContent row.2.content
    createdAt := ← row.2.createdAt.read 4 "created_at"
    updatedAt := ← row.2.updatedAt.read 5 "updated_at" }

end ContentAsset

structure DeleteReport where
  key : String
  dangling : List Reference.Hit
  deriving DecidableEq, Repr

def requiredKey (key : String) : Except LedgerError String :=
  let key := Text.trim key
  if key.isEmpty then .error (.missingParameter "key") else .ok key

namespace Store

/-- Writes one asset over the one with its key, which keeps its time of creation. -/
def writeAsset (now key : String) (kind : AssetKind) (title : String) (content : Option String)
    (table : Table AssetRow) : Except StoreFault (Table AssetRow) :=
  match requireNotEmpty "asset_key" key with
  | .error fault => .error fault
  | .ok () =>
      let createdAt := ((table.find? key).map (·.createdAt)).getD (.text now)
      .ok (table.insert key
        ⟨.text kind.name, .text title, content.map .text, createdAt, .text now⟩)

def getAsset (key : String) (store : Store) : Except LedgerError ContentAsset :=
  match requiredKey key with
  | .error error => .error error
  | .ok key =>
      match require .assets store.assets with
      | .error fault => .error (.store fault)
      | .ok table =>
          match table.find? key with
          | none => .error (.assetNotFound key)
          | some row =>
              match ContentAsset.ofRow (key, row) with
              | .error fault => .error (.store fault)
              | .ok asset => .ok asset

def upsertAsset (now key : String) (kind : AssetKind) (title : String) (content : Option String)
    (store : Store) : Outcome ContentAsset :=
  match requiredKey key with
  | .error error => (.error error, store)
  | .ok key =>
      match (require .assets store.assets).bind fun table =>
          store.attempt (writeAsset now key kind title content table) with
      | .error fault => (.error (.store fault), store)
      | .ok table =>
          let store := { store with assets := some table }
          (store.getAsset key, store)

def listAssets (store : Store) : Except LedgerError (List ContentAsset) :=
  match (require .assets store.assets).bind fun table => table.rows.mapM ContentAsset.ofRow with
  | .error fault => .error (.store fault)
  | .ok assets => .ok assets

def eraseAsset (key : String) (store : Store) : Store :=
  { store with assets := store.assets.map (·.erase key) }

def deleteAsset (key : String) (force : Bool) (store : Store) : Outcome DeleteReport :=
  match store.getAsset key with
  | .error error => (.error error, store)
  | .ok asset =>
      match store.scanReferences asset.key with
      | .error error => (.error error, store)
      | .ok scan =>
          if 0 < scan.usageCount ∧ force = false then
            (.error (.assetInUse asset.key scan.usageCount), store)
          else
            match store.attempt (.ok (store.eraseAsset asset.key)) with
            | .error fault => (.error (.store fault), store)
            | .ok store => (.ok ⟨asset.key, scan.hits⟩, store)

end Store

end TagLedger
