import TagLedger.Proofs.Reference.Definition
import TagLedger.Proofs.Store.Asset
import TagLedger.Proofs.Store.Document
import TagLedger.Proofs.Table

/-!
# Deletion of assets

An asset that a chart refers to is not deleted unless the deletion is forced.  What counts is the
stored text alone: a text that is no JSON refers to nothing, and neither does one without elements.
The guard looks at the scan of the references, so the main step is that the scan of a readable
store comes back empty exactly when no chart refers to the key.
-/

namespace TagLedger

namespace Store

/-! ## Stores -/

/-- Every chart is stored as text, and every asset can be read. -/
structure Readable (store : Store) : Prop where
  charts : ∃ table, store.charts = some table ∧
    ∀ id row, (id, row) ∈ table.rows → ∃ text, row.body = .text text
  assets : ∃ table, store.assets = some table ∧
    ∀ key row, (key, row) ∈ table.rows → ∃ asset, ContentAsset.ofRow (key, row) = .ok asset

def HoldsAsset (store : Store) (key : String) : Prop :=
  ∃ table row, store.assets = some table ∧ (key, row) ∈ table.rows

/-- The text of some chart is JSON with an element that mentions the key. -/
def Refers (store : Store) (key : String) : Prop :=
  ∃ table id row text definition, store.charts = some table ∧ (id, row) ∈ table.rows ∧
    row.body = .text text ∧ Json.read text = some definition ∧ Reference.Refers definition key

/-- One asset is gone, and everything else is as before. -/
def LosesAsset (key : String) (before after : Store) : Prop :=
  ∃ table left row earlier later, before.assets = some table ∧
    table.rows = earlier ++ (key, row) :: later ∧ left.rows = earlier ++ later ∧
    after = { before with assets := some left }

theorem losesAsset_eraseAsset {store : Store} {key : String} (h : store.HoldsAsset key) :
    LosesAsset key store (store.eraseAsset key) := by
  obtain ⟨table, row, hassets, hrow⟩ := h
  obtain ⟨earlier, later, hrows, hleft⟩ := Table.exists_rows_erase (Table.mem_rows_iff.mp hrow)
  exact ⟨table, table.erase key, row, earlier, later, hassets, hrows, hleft,
    by simp [eraseAsset, hassets]⟩

/-! ## Scan of the references -/

theorem storedHits_ne_nil_iff {key : String} {stored : StoredDocument} :
    (ReferenceScan.storedHits key stored).getD [] ≠ [] ↔
      ∃ definition, Json.read stored.body = some definition ∧ Reference.Refers definition key := by
  unfold ReferenceScan.storedHits
  cases hread : Json.read stored.body with
  | none => simp
  | some definition => simpa using Reference.scanDefinition_ne_nil_iff

theorem usageCount_pos_iff {key : String} {documents : List StoredDocument} :
    0 < (ReferenceScan.ofDocuments key documents).usageCount ↔
      ∃ stored ∈ documents, ∃ definition,
        Json.read stored.body = some definition ∧ Reference.Refers definition key := by
  rw [ReferenceScan.usageCount, List.length_pos_iff, ReferenceScan.ofDocuments]
  simp only [ne_eq, Reference.distinctHits_eq_nil_iff, List.flatMap_map, List.flatMap_eq_nil_iff,
    ← storedHits_ne_nil_iff, not_forall, exists_prop]

/-- The references of a readable store can be scanned, and a use is found exactly if there is
one. -/
theorem exists_scanReferences {store : Store} (h : store.Readable) (key : String) :
    ∃ scan, store.scanReferences key = .ok scan ∧ (0 < scan.usageCount ↔ store.Refers key) := by
  obtain ⟨table, hcharts, htexts⟩ := h.charts
  obtain ⟨charts, hrows⟩ := exists_map_cells htexts
  have hscan : store.scanDocuments .charts = .ok charts :=
    scanDocuments_eq_ok_iff.mpr ⟨table, hcharts, hrows.symm⟩
  have hmem (stored : StoredDocument) : stored ∈ charts ↔
      ∃ row, (stored.id, row) ∈ table.rows ∧ row.body = .text stored.body := by
    rw [← List.mem_map_of_injective StoredDocument.cells_injective, hrows]
    simp [StoredDocument.cells]
  refine ⟨.ofDocuments key charts, by rw [scanReferences, hscan], ?_⟩
  rw [usageCount_pos_iff]
  constructor
  · rintro ⟨stored, hstored, definition, hread, hrefers⟩
    obtain ⟨row, hrow, hbody⟩ := (hmem stored).mp hstored
    exact ⟨table, stored.id, row, stored.body, definition, hcharts, hrow, hbody, hread, hrefers⟩
  · rintro ⟨other, id, row, text, definition, hother, hrow, hbody, hread, hrefers⟩
    cases hcharts.symm.trans hother
    exact ⟨⟨id, text⟩, (hmem _).mpr ⟨row, hrow, hbody⟩, definition, hread, hrefers⟩

/-! ## Deletion -/

theorem of_getAsset_eq_ok {store : Store} {key : String} {asset : ContentAsset}
    (h : store.getAsset key = .ok asset) :
    asset.key = Text.trim key ∧ Text.trim key ≠ "" ∧ store.HoldsAsset (Text.trim key) := by
  simp only [getAsset, requiredKey] at h
  split at h
  · cases h
  · next hkey =>
      split at hkey
      · cases hkey
      · next hne =>
          cases hkey
          cases hassets : store.assets with
          | none => simp [hassets, require] at h
          | some table =>
              simp only [hassets, require] at h
              split at h
              · cases h
              · next row hrow =>
                  refine ⟨?_, by simpa using hne, table, row, hassets, Table.mem_rows_iff.mpr hrow⟩
                  split at h
                  · cases h
                  · next hread =>
                      cases h
                      exact (ContentAsset.ofRow_eq_ok_iff.mp hread).1

theorem exists_getAsset {store : Store} (h : store.Readable) {key : String}
    (hkey : Text.trim key ≠ "") (hholds : store.HoldsAsset (Text.trim key)) :
    ∃ asset, store.getAsset key = .ok asset ∧ asset.key = Text.trim key := by
  obtain ⟨table, row, hassets, hrow⟩ := hholds
  obtain ⟨other, hother, hreadable⟩ := h.assets
  cases hassets.symm.trans hother
  obtain ⟨asset, hasset⟩ := hreadable _ _ hrow
  refine ⟨asset, ?_, (ContentAsset.ofRow_eq_ok_iff.mp hasset).1⟩
  have hrequired := requiredKey_eq_ok_iff.mpr ⟨hkey, rfl⟩
  simp [getAsset, hrequired, hassets, require, Table.mem_rows_iff.mp hrow, hasset]

/-- What the deletion of an asset that exists comes to. -/
theorem deleteAsset_of_holdsAsset {store : Store} (h : store.Readable) {key : String}
    (hkey : Text.trim key ≠ "") (hholds : store.HoldsAsset (Text.trim key)) :
    ∃ scan, store.scanReferences (Text.trim key) = .ok scan ∧
      (0 < scan.usageCount ↔ store.Refers (Text.trim key)) ∧
      ∀ force, store.deleteAsset key force =
        if 0 < scan.usageCount ∧ force = false then
          (.error (.assetInUse (Text.trim key) scan.usageCount), store)
        else match store.refusal with
          | some fault => (.error (.store fault), store)
          | none => (.ok ⟨Text.trim key, scan.hits⟩, store.eraseAsset (Text.trim key)) := by
  obtain ⟨asset, hasset, hassetKey⟩ := exists_getAsset h hkey hholds
  obtain ⟨scan, hscan, hused⟩ := exists_scanReferences h (Text.trim key)
  refine ⟨scan, hscan, hused, fun force => ?_⟩
  simp only [deleteAsset, hasset, hassetKey, hscan, attempt]
  cases store.refusal <;> rfl

theorem holdsAsset_of_deleteAsset {store after : Store} {key : String} {force : Bool}
    {report : DeleteReport} (h : store.deleteAsset key force = (.ok report, after)) :
    Text.trim key ≠ "" ∧ store.HoldsAsset (Text.trim key) := by
  unfold deleteAsset at h
  split at h
  · cases h
  · next asset hasset => exact (of_getAsset_eq_ok hasset).2

theorem eq_of_deleteAsset_eq_error {store after : Store} {key : String} {force : Bool}
    {error : LedgerError} (h : store.deleteAsset key force = (.error error, after)) :
    after = store := by
  unfold deleteAsset at h
  split at h
  · cases h
    rfl
  · split at h
    · cases h
      rfl
    · split at h
      · cases h
        rfl
      · split at h
        · cases h
          rfl
        · cases h

/-- An unforced deletion of an asset that exists goes through exactly if the store can be
written and nothing refers to the asset. -/
theorem deleteAsset_unforced {store after : Store} (h : store.Readable) {key : String}
    {report : DeleteReport} (hkey : Text.trim key ≠ "")
    (hholds : store.HoldsAsset (Text.trim key)) :
    store.deleteAsset key false = (.ok report, after) ↔
      store.refusal = none ∧ ¬ store.Refers (Text.trim key) ∧ report = ⟨Text.trim key, []⟩ ∧
        after = store.eraseAsset (Text.trim key) := by
  obtain ⟨scan, -, hused, hdelete⟩ := deleteAsset_of_holdsAsset h hkey hholds
  rw [hdelete, ← hused]
  by_cases hcount : 0 < scan.usageCount
  · simp [hcount]
  · have hhits : scan.hits = [] := List.length_eq_zero_iff.mp (Nat.eq_zero_of_not_pos hcount)
    cases store.refusal with
    | some fault => simp [hcount]
    | none => simp [hcount, hhits, eq_comm]

theorem ne_empty_of_refers {store : Store} {key : String} (h : store.Refers key) : key ≠ "" := by
  obtain ⟨_, _, _, _, definition, -, -, -, -, hdefinition⟩ := h
  obtain ⟨_, _, formula, -, -, -, hmentions⟩ := hdefinition
  obtain ⟨_, _, _, -, hkey, -⟩ := hmentions
  exact hkey.1

theorem referenceUsage_eq_ok {store : Store} {key : String} {scan : ReferenceScan}
    (hkey : Text.trim key ≠ "") (hscan : store.scanReferences (Text.trim key) = .ok scan) :
    store.referenceUsage (some key) =
      .ok ⟨Text.trim key, scan.usageCount, scan.hits.map .ofHit⟩ := by
  have hempty : (Text.trim key).isEmpty = false := by simpa using hkey
  simp [referenceUsage, hempty, hscan]

end Store

/-- An asset is deleted if it exists and no chart refers to it, and otherwise nothing changes: a use
is reported with the count that the report of the references has.  A forced deletion reports the
uses that it leaves behind. -/
theorem deletion_guarded {store : Store} (hreadable : store.Readable) (key : String) :
    ((∃ report after, store.deleteAsset key false = (.ok report, after)) ↔
      store.refusal = none ∧ Text.trim key ≠ "" ∧ store.HoldsAsset (Text.trim key) ∧
        ¬ store.Refers (Text.trim key)) ∧
    (∀ report after, store.deleteAsset key false = (.ok report, after) →
      report = ⟨Text.trim key, []⟩ ∧ Store.LosesAsset (Text.trim key) store after) ∧
    (store.HoldsAsset (Text.trim key) → store.Refers (Text.trim key) →
      ∃ report, store.referenceUsage (some key) = .ok report ∧ store.deleteAsset key false =
        (.error (.assetInUse (Text.trim key) report.usageCount), store)) ∧
    (store.refusal = none → Text.trim key ≠ "" → store.HoldsAsset (Text.trim key) →
      ∃ scan after, store.scanReferences (Text.trim key) = .ok scan ∧
        store.deleteAsset key true = (.ok ⟨Text.trim key, scan.hits⟩, after) ∧
        Store.LosesAsset (Text.trim key) store after) ∧
    (∀ force error after, store.deleteAsset key force = (.error error, after) →
      after = store) := by
  refine ⟨?_, ?_, ?_, ?_, fun force error after => Store.eq_of_deleteAsset_eq_error⟩
  · constructor
    · rintro ⟨report, after, hdeleted⟩
      obtain ⟨hkey, hholds⟩ := Store.holdsAsset_of_deleteAsset hdeleted
      obtain ⟨hwritable, hunused, -⟩ :=
        (Store.deleteAsset_unforced hreadable hkey hholds).mp hdeleted
      exact ⟨hwritable, hkey, hholds, hunused⟩
    · rintro ⟨hwritable, hkey, hholds, hunused⟩
      exact ⟨_, _, (Store.deleteAsset_unforced hreadable hkey hholds).mpr
        ⟨hwritable, hunused, rfl, rfl⟩⟩
  · intro report after hdeleted
    obtain ⟨hkey, hholds⟩ := Store.holdsAsset_of_deleteAsset hdeleted
    obtain ⟨-, -, hreport, rfl⟩ :=
      (Store.deleteAsset_unforced hreadable hkey hholds).mp hdeleted
    exact ⟨hreport, Store.losesAsset_eraseAsset hholds⟩
  · intro hholds hrefers
    have hkey := Store.ne_empty_of_refers hrefers
    obtain ⟨scan, hscan, hused, hdelete⟩ :=
      Store.deleteAsset_of_holdsAsset hreadable hkey hholds
    refine ⟨_, Store.referenceUsage_eq_ok hkey hscan, ?_⟩
    rw [hdelete, if_pos ⟨hused.mpr hrefers, rfl⟩]
  · intro hwritable hkey hholds
    obtain ⟨scan, hscan, -, hdelete⟩ := Store.deleteAsset_of_holdsAsset hreadable hkey hholds
    refine ⟨scan, _, hscan, ?_, Store.losesAsset_eraseAsset hholds⟩
    rw [hdelete, if_neg (by simp), hwritable]

/-- A definition with one element that mentions the logo and one that is not even an object. -/
def sponsorWall : String :=
  "\x7b\"elements\":[3,\x7b\"formula\":\"[MEDIA:logo]\"\x7d]\x7d"

/-- One asset, a chart that refers to it and a chart whose text is cut off. -/
def sponsors : Store :=
  { Store.blank with
    charts := some (.ofList
      [("cut", ⟨.text "\x7b", "t0", "t0"⟩), ("wall", ⟨.text sponsorWall, "t0", "t0"⟩)])
    assets := some (.ofList
      [("logo", ⟨.text "media", .text "Logo", none, .text "t0", .text "t0"⟩)]) }

theorem readable_sponsors : sponsors.Readable where
  charts := by
    refine ⟨_, rfl, fun id row hrow => ?_⟩
    simp only [Table.ofList, Table.empty, Table.insert] at hrow
    rcases List.mem_pair.mp hrow with heq | heq
    · cases heq
      exact ⟨_, rfl⟩
    · cases heq
      exact ⟨_, rfl⟩
  assets := by
    refine ⟨_, rfl, fun key row hrow => ?_⟩
    cases List.mem_singleton.mp hrow
    exact ⟨_, ContentAsset.ofRow_cells ⟨"logo", .media, "Logo", none, "t0", "t0"⟩⟩

theorem refers_sponsors : sponsors.Refers "logo" := by
  have hread : Json.read sponsorWall = some (.object [("elements", .array [.number (.integer 3),
      .object [("formula", .string "[MEDIA:logo]")]])]) := by rfl
  have hmentions : Reference.Mentions "[MEDIA:logo]" "logo" :=
    Reference.referencesKey_eq_true_iff.mp (by decide +kernel)
  exact ⟨_, "wall", _, sponsorWall, _, rfl, List.mem_of_getLast? rfl, rfl, hread, _, _,
    "[MEDIA:logo]", rfl, List.mem_of_getLast? rfl, rfl, hmentions⟩

theorem referenced_logo_guarded :
    sponsors.Readable ∧
      (∃ report, sponsors.referenceUsage (some " logo ") = .ok report ∧
        sponsors.deleteAsset " logo " false =
          (.error (.assetInUse "logo" report.usageCount), sponsors)) ∧
      ∃ scan after, sponsors.scanReferences "logo" = .ok scan ∧
        sponsors.deleteAsset " logo " true = (.ok ⟨"logo", scan.hits⟩, after) ∧
        Store.LosesAsset "logo" sponsors after := by
  have htrim : Text.trim " logo " = "logo" := by decide +kernel
  have hholds : sponsors.HoldsAsset "logo" := ⟨_, _, rfl, List.mem_singleton_self _⟩
  obtain ⟨-, -, hguarded, hforced, -⟩ := deletion_guarded readable_sponsors " logo "
  rw [htrim] at hguarded hforced
  exact ⟨readable_sponsors, hguarded hholds refers_sponsors, hforced rfl (by decide) hholds⟩

end TagLedger
