import TagLedger.Proofs.Table
import TagLedger.Proofs.Tag.Canonical
import TagLedger.Store.Asset

/-!
# Reading and writing of assets

An asset is read column by column.  The reading succeeds exactly if every column holds a text and the
kind is known, and a row that was written from an asset reads as that asset again.

A write puts a row in place and reads it back.  All its columns are new then, except for the time of
creation of a row that was there before.
-/

namespace TagLedger

theorem bind_eq_ok_iff {ε α β : Type} {first : Except ε α} {next : α → Except ε β} {result : β} :
    (first >>= next) = .ok result ↔ ∃ value, first = .ok value ∧ next value = .ok result := by
  cases first <;> simp [bind, Except.bind]

theorem Cell.read_eq_ok_iff {index : Nat} {column value : String} {cell : Cell} :
    cell.read index column = .ok value ↔ cell = .text value := by
  cases cell <;> simp [read]

theorem AssetKind.parse?_name (kind : AssetKind) : parse? kind.name = some kind := by
  cases kind <;> decide +kernel

namespace ContentAsset

theorem readKind_eq_ok_iff {cell : Cell} {kind : AssetKind} :
    readKind cell = .ok kind ↔ ∃ name, cell = .text name ∧ AssetKind.parse? name = some kind := by
  cases cell with
  | blob value => simp [readKind, Cell.read, bind, Except.bind]
  | text name =>
      cases hkind : AssetKind.parse? name <;>
        simp [readKind, Cell.read, hkind, bind, Except.bind, pure, Except.pure, throw, throwThe,
          MonadExceptOf.throw]

theorem readContent_eq_ok_iff {cell : Option Cell} {content : Option String} :
    readContent cell = .ok content ↔ cell = content.map .text := by
  cases cell with
  | none => cases content <;> simp [readContent]
  | some cell => cases cell <;> cases content <;> simp [readContent, Cell.read, Except.map]

/-- The row that is written for an asset. -/
def row (asset : ContentAsset) : AssetRow :=
  ⟨.text asset.kind.name, .text asset.title, asset.content.map .text, .text asset.createdAt,
    .text asset.updatedAt⟩

def cells (asset : ContentAsset) : String × AssetRow :=
  (asset.key, asset.row)

theorem ofRow_eq_ok_iff {key : String} {row : AssetRow} {asset : ContentAsset} :
    ofRow (key, row) = .ok asset ↔ asset.key = key ∧
      (∃ name, row.kind = .text name ∧ AssetKind.parse? name = some asset.kind) ∧
      row = { asset.row with kind := row.kind } := by
  obtain ⟨kindCell, titleCell, contentCell, createdCell, updatedCell⟩ := row
  obtain ⟨assetKey, kind, title, content, createdAt, updatedAt⟩ := asset
  simp only [ofRow, ContentAsset.row, bind_eq_ok_iff, readKind_eq_ok_iff, readContent_eq_ok_iff,
    Cell.read_eq_ok_iff, pure, Except.pure, Except.ok.injEq, ContentAsset.mk.injEq,
    AssetRow.mk.injEq]
  constructor
  · rintro ⟨_, ⟨name, rfl, hname⟩, _, rfl, _, rfl, _, rfl, _, rfl, rfl, rfl, rfl, rfl, rfl, rfl⟩
    exact ⟨rfl, ⟨name, rfl, hname⟩, trivial, rfl, rfl, rfl, rfl⟩
  · rintro ⟨rfl, hkind, -, rfl, rfl, rfl, rfl⟩
    exact ⟨kind, hkind, title, rfl, content, rfl, createdAt, rfl, updatedAt, rfl, rfl, rfl, rfl, rfl,
      rfl, rfl⟩

theorem ofRow_cells (asset : ContentAsset) : ofRow asset.cells = .ok asset :=
  ofRow_eq_ok_iff.mpr ⟨rfl, ⟨_, rfl, asset.kind.parse?_name⟩, rfl⟩

theorem mapM_ofRow_cells (assets : List ContentAsset) :
    (assets.map cells).mapM ofRow = .ok assets := by
  induction assets with
  | nil => rfl
  | cons asset rest ih =>
      rw [List.map_cons, List.mapM_cons, ofRow_cells, ih]
      rfl

theorem cells_injective : Function.Injective cells := by
  intro asset other h
  have hasset := asset.ofRow_cells
  rw [h, other.ofRow_cells] at hasset
  exact (Except.ok.inj hasset).symm

end ContentAsset

theorem ne_empty_of_notEmpty {text : String} (h : notEmpty text = true) : text ≠ "" := by
  rintro rfl
  cases h

theorem requiredKey_eq_ok_iff {key trimmed : String} :
    requiredKey key = .ok trimmed ↔ Text.trim key ≠ "" ∧ trimmed = Text.trim key := by
  by_cases hkey : Text.trim key = ""
  · simp [requiredKey, hkey]
  · simpa [requiredKey, hkey] using eq_comm

namespace Store

/-- The row that a write leaves: one that it replaces keeps its time of creation. -/
def writtenRow (now : String) (kind : AssetKind) (title : String) (content : Option String)
    (held : Option AssetRow) : AssetRow :=
  ⟨.text kind.name, .text title, content.map .text, (held.map (·.createdAt)).getD (.text now),
    .text now⟩

variable (now key : String) (kind : AssetKind) (title : String) (content : Option String)

theorem ofRow_writtenRow (held : Option AssetRow) :
    let row := writtenRow now kind title content held
    ContentAsset.ofRow (key, row) =
      (row.createdAt.read 4 "created_at").map (⟨key, kind, title, content, ·, now⟩) := by
  intro row
  cases hcreated : row.createdAt with
  | text createdAt =>
      have hrow : row = ContentAsset.row ⟨key, kind, title, content, createdAt, now⟩ := by
        simp [row, writtenRow, ContentAsset.row, ← hcreated]
      rw [hrow]
      exact ContentAsset.ofRow_cells _
  | blob value =>
      have hkind : ContentAsset.readKind row.kind = .ok kind :=
        ContentAsset.readKind_eq_ok_iff.mpr ⟨_, rfl, kind.parse?_name⟩
      have hcontent : ContentAsset.readContent row.content = .ok content :=
        ContentAsset.readContent_eq_ok_iff.mpr rfl
      simp only [ContentAsset.ofRow, hkind, hcontent, hcreated]
      rfl

/-- A write that the schema takes puts its row in place, and fails after that if it cannot read the
time of creation back. -/
theorem upsertAsset_of_notEmpty {store : Store} {table : Table AssetRow}
    (hassets : store.assets = some table) (hrefusal : store.refusal = none)
    (hkey : notEmpty (Text.trim key) = true) :
    let row := writtenRow now kind title content (table.find? (Text.trim key))
    store.upsertAsset now key kind title content =
      (((row.createdAt.read 4 "created_at").map
          (⟨Text.trim key, kind, title, content, ·, now⟩)).mapError .store,
        { store with assets := some (table.insert (Text.trim key) row) }) := by
  intro row
  have hblank := ne_empty_of_notEmpty hkey
  have hrequired := requiredKey_eq_ok_iff.mpr ⟨hblank, rfl⟩
  have hagain : requiredKey (Text.trim key) = .ok (Text.trim key) :=
    requiredKey_eq_ok_iff.mpr (by rw [Text.trim_trim]; exact ⟨hblank, rfl⟩)
  have hwrite : ((require .assets store.assets).bind fun table => store.attempt
      (writeAsset now (Text.trim key) kind title content table)) =
      .ok (table.insert (Text.trim key) row) := by
    simp [hassets, require, Except.bind, attempt, hrefusal, writeAsset, requireNotEmpty, hkey, row,
      writtenRow]
  have hread : ContentAsset.ofRow (Text.trim key, row) = _ :=
    ofRow_writtenRow now (Text.trim key) kind title content (table.find? (Text.trim key))
  simp only [upsertAsset, hrequired, hwrite]
  simp only [getAsset, hagain, require, Table.find?_insert_self, hread]
  cases Cell.read 4 "created_at" row.createdAt <;> rfl

/-- A write is refused without effect, or it puts its row in place. -/
theorem upsertAsset_cases (store : Store) :
    (∃ error, store.upsertAsset now key kind title content = (.error error, store)) ∨
      ∃ table, store.assets = some table ∧ store.refusal = none ∧
        notEmpty (Text.trim key) = true := by
  by_cases hkey : Text.trim key = ""
  · exact Or.inl ⟨.missingParameter "key", by simp [upsertAsset, requiredKey, hkey]⟩
  have hrequired := requiredKey_eq_ok_iff.mpr ⟨hkey, rfl⟩
  have hrefused (fault : StoreFault)
      (hfault : ((require .assets store.assets).bind fun table =>
        store.attempt (writeAsset now (Text.trim key) kind title content table)) = .error fault) :
      ∃ error, store.upsertAsset now key kind title content = (.error error, store) :=
    ⟨.store fault, by simp only [upsertAsset, hrequired, hfault]⟩
  cases hassets : store.assets with
  | none => exact Or.inl (hrefused (.noSuchTable .assets) (by rw [hassets]; rfl))
  | some table =>
      cases hrefusal : store.refusal with
      | some fault =>
          refine Or.inl (hrefused fault ?_)
          simp [hassets, require, Except.bind, attempt, hrefusal]
      | none =>
          cases hempty : notEmpty (Text.trim key) with
          | false =>
              refine Or.inl (hrefused (.checkFailed (.notEmpty "asset_key")) ?_)
              simp [hassets, require, Except.bind, attempt, hrefusal, writeAsset, requireNotEmpty,
                hempty]
          | true => exact Or.inr ⟨table, rfl, rfl, rfl⟩

end Store

end TagLedger
