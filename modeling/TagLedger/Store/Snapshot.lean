import TagLedger.Json.Printer
import TagLedger.Json.Reader
import TagLedger.Store.Basic

/-!
# Snapshots of a store

A store as one JSON text, in which it is kept between runs: its version and its tables, each a list
of rows or null where it is missing.
-/

namespace TagLedger.Store

def formName : String := "tag-ledger-store"

def tableJson {ρ : Type} (row : String × ρ → Json) : Option (Table ρ) → Json
  | some table => .array (table.rows.map row)
  | none => .null

def documentJson (row : String × DocumentRow) : Json :=
  let (isText, body) :=
    match row.2.body with
    | .text body => (true, body)
    | .blob body => (false, body)
  .array [.string row.1, .bool isText, .string body, .string row.2.createdAt,
    .string row.2.updatedAt]

def slugJson (row : String × SlugRow) : Json :=
  .array [.string row.1, .string row.2.slug, .string row.2.createdAt, .string row.2.updatedAt]

def colorJson (row : String × ColorRow) : Json :=
  .array [.string row.1, .string row.2.color, .string row.2.updatedAt]

/-- A text stands as it is, and a blob in brackets. -/
def cellJson : Cell → Json
  | .text value => .string value
  | .blob value => .array [.string value]

def assetJson (row : String × AssetRow) : Json :=
  .array [.string row.1, cellJson row.2.kind, cellJson row.2.title,
    (row.2.content.map cellJson).getD .null, cellJson row.2.createdAt, cellJson row.2.updatedAt]

def metadataJson : Option (Option MetaRow) → Json
  | none => .null
  | some none => .array []
  | some (some row) => .array [.number (.integer row.schemaVersion), .string row.initializedAt]

def snapshot (store : Store) : Json :=
  .object
    [("form", .string formName), ("version", .number (.integer store.version)),
      ("projects", tableJson documentJson store.projects),
      ("charts", tableJson documentJson store.charts),
      ("slugs", tableJson slugJson store.slugs),
      ("colors", tableJson colorJson store.colors),
      ("assets", tableJson assetJson store.assets),
      ("metadata", metadataJson store.metadata)]

/-! ## Reading -/

def table? {ρ : Type} (row : Json → Option (String × ρ)) : Json → Option (Option (Table ρ))
  | .null => some none
  | .array rows => (rows.mapM row).map fun rows => some (.ofList rows)
  | _ => none

def documentRow? : Json → Option (String × DocumentRow)
  | .array [.string id, .bool isText, .string body, .string createdAt, .string updatedAt] =>
      some (id, ⟨if isText then .text body else .blob body, createdAt, updatedAt⟩)
  | _ => none

def slugRow? : Json → Option (String × SlugRow)
  | .array [.string tag, .string slug, .string createdAt, .string updatedAt] =>
      some (tag, ⟨slug, createdAt, updatedAt⟩)
  | _ => none

def colorRow? : Json → Option (String × ColorRow)
  | .array [.string tag, .string color, .string updatedAt] => some (tag, ⟨color, updatedAt⟩)
  | _ => none

def cell? : Json → Option Cell
  | .string value => some (.text value)
  | .array [.string value] => some (.blob value)
  | _ => none

def content? : Json → Option (Option Cell)
  | .null => some none
  | content => (cell? content).map some

def assetRow? : Json → Option (String × AssetRow)
  | .array [.string key, kind, title, content, createdAt, updatedAt] => do
      return (key, ⟨← cell? kind, ← cell? title, ← content? content, ← cell? createdAt,
        ← cell? updatedAt⟩)
  | _ => none

def metadata? : Json → Option (Option (Option MetaRow))
  | .null => some none
  | .array [] => some (some none)
  | .array [.number (.integer version), .string initializedAt] =>
      some (some (some ⟨version, initializedAt⟩))
  | _ => none

def ofSnapshot? (snapshot : Json) : Option Store := do
  let form ← snapshot.stringField? "form"
  if form ≠ formName then none
  let .number (.integer version) ← snapshot.field? "version" | none
  return {
    projects := ← table? documentRow? (← snapshot.field? "projects")
    charts := ← table? documentRow? (← snapshot.field? "charts")
    slugs := ← table? slugRow? (← snapshot.field? "slugs")
    colors := ← table? colorRow? (← snapshot.field? "colors")
    assets := ← table? assetRow? (← snapshot.field? "assets")
    metadata := ← metadata? (← snapshot.field? "metadata")
    version
    refusal := none }

def ofText? (text : String) : Option Store :=
  (Json.read text).bind ofSnapshot?

end TagLedger.Store
