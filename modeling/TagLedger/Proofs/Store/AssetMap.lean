import TagLedger.Proofs.Store.Atomicity
import TagLedger.Proofs.Store.Within
import TagLedger.Proofs.Text.Utf8

/-!
# Assets as a map

Any operations on one store, one after another.  Each asset is what those of them have made of it
that wrote or deleted an asset under its key: it is as its last write says, and as old as the first
write since it was last deleted.  Operations that fail and operations on other keys have no part in
that, and the list of the assets says the same as the assets one by one.
-/

namespace TagLedger

/-! ## What operations make of an asset -/

namespace Operation

def performAll (store : Store) : List Operation → List (Operation × Answer) × Store
  | [] => ([], store)
  | operation :: rest =>
      let (answer, after) := operation.perform store
      let (answered, final) := performAll after rest
      ((operation, answer) :: answered, final)

/-- The key of the asset that an operation writes or deletes if it succeeds. -/
def assetKey? : Operation → Option String
  | .upsertAsset key _ _ _ _ => some (Text.trim key)
  | .deleteAsset key _ => some (Text.trim key)
  | _ => none

end Operation

structure AssetWrite where
  kind : AssetKind
  title : String
  content : Option String
  now : String
  deriving DecidableEq, Repr

/-- A write that succeeded is added to those of its key, and a deletion that succeeded ends them. -/
def recordAsset (key : String) (writes : List AssetWrite) : Operation × Answer → List AssetWrite
  | (.upsertAsset written kind title content now, .asset (.ok _)) =>
      if Text.trim written = key then writes ++ [⟨kind, title, content, now⟩] else writes
  | (.deleteAsset deleted _, .deletion (.ok _)) => if Text.trim deleted = key then [] else writes
  | _ => writes

/-- The writes under a key since the asset there was last deleted. -/
def assetWrites (key : String) (answered : List (Operation × Answer)) : List AssetWrite :=
  answered.foldl (recordAsset key) []

/-- The asset that is left by writes under its key. -/
def writtenAsset (key : String) : List AssetWrite → Option ContentAsset
  | [] => none
  | first :: later =>
      let last := later.getLastD first
      some ⟨key, last.kind, last.title, last.content, first.now, last.now⟩

theorem recordAsset_of_assetKey?_ne {operation : Operation} {key : String}
    (h : operation.assetKey? ≠ some key) (writes : List AssetWrite) (answer : Answer) :
    recordAsset key writes (operation, answer) = writes := by
  unfold recordAsset
  split
  · next hsame =>
      cases hsame
      exact if_neg fun hkey => h (congrArg some hkey)
  · next hsame =>
      cases hsame
      exact if_neg fun hkey => h (congrArg some hkey)
  · rfl

theorem key_of_writtenAsset {key : String} {writes : List AssetWrite} {asset : ContentAsset}
    (h : writtenAsset key writes = some asset) : asset.key = key := by
  cases writes with
  | nil => cases h
  | cons first later =>
      cases h
      rfl

/-! ## Rows of assets -/

/-- A write keeps the time of creation of the row that it replaces. -/
theorem row_writtenAsset_concat (key : String) (writes : List AssetWrite) (write : AssetWrite) :
    (writtenAsset key (writes ++ [write])).map ContentAsset.row =
      some (Store.writtenRow write.now write.kind write.title write.content
        ((writtenAsset key writes).map ContentAsset.row)) := by
  cases writes with
  | nil => rfl
  | cons first later => simp [writtenAsset, ContentAsset.row, Store.writtenRow]

namespace Store

theorem upsertAsset_eq_ok {now key : String} {kind : AssetKind} {title : String}
    {content : Option String} {store after : Store} {asset : ContentAsset}
    (h : store.upsertAsset now key kind title content = (.ok asset, after)) :
    Text.trim key ≠ "" ∧ ∃ table, store.assets = some table ∧ after = { store with
      assets := some (table.insert (Text.trim key)
        (writtenRow now kind title content (table.find? (Text.trim key)))) } := by
  rcases upsertAsset_cases now key kind title content store with
    ⟨error, hrefused⟩ | ⟨table, hassets, hrefusal, hkey⟩
  · cases hrefused.symm.trans h
  · rw [upsertAsset_of_notEmpty now key kind title content hassets hrefusal hkey] at h
    exact ⟨ne_empty_of_notEmpty hkey, table, hassets, ((Prod.mk.inj h).2).symm⟩

theorem deleteAsset_eq_ok {key : String} {force : Bool} {store after : Store}
    {report : DeleteReport} (h : store.deleteAsset key force = (.ok report, after)) :
    after = store.eraseAsset (Text.trim key) := by
  unfold deleteAsset at h
  split at h
  · cases h
  · next asset hasset =>
      rw [(of_getAsset_eq_ok hasset).1] at h
      split at h
      · cases h
      · split at h
        · cases h
        · split at h
          · cases h
          · next erased herased =>
              obtain rfl := (Prod.mk.inj h).2
              exact (Except.ok.inj (attempt_eq_ok_iff.mp herased).2).symm

/-! ## Operations that leave the assets alone -/

def KeepsAssets (store after : Store) : Prop :=
  Kept store.assets after.assets

theorem KeepsAssets.refl (store : Store) : KeepsAssets store store :=
  Kept.refl _

theorem KeepsAssets.of_eq {store after : Store} (h : after.assets = store.assets) :
    KeepsAssets store after :=
  Or.inl h

theorem assets_registerTag (candidate now canonical : String) (store : Store) :
    (registerTag candidate now canonical store).2.assets = store.assets := by
  unfold registerTag
  split <;> rfl

theorem assets_registerMisses (candidates : Nat → String) (now : String) (misses : List String)
    (found : Table String) (store : Store) :
    (registerMisses candidates now misses found store).2.assets = store.assets := by
  unfold registerMisses
  split <;> rfl

theorem assets_upsertDocuments (candidates : Nat → String) (now : String) (collection : Collection)
    (documents : List Json) (store : Store) :
    (store.upsertDocuments candidates now collection documents).2.assets = store.assets :=
  part_upsertDocuments (·.assets) (fun _ collection _ => by cases collection <;> rfl) ..

theorem assets_setColor (now tag color : String) (store : Store) :
    (store.setColor now tag color).2.assets = store.assets :=
  part_setColor (·.assets) (fun _ _ => rfl) ..

theorem keepsAssets_upgradeTo (now : String) (version : Nat) (store : Store) :
    KeepsAssets store (upgradeTo now version store).2 := by
  unfold upgradeTo
  split
  · exact .refl store
  · next after hupgrade => exact (keepsRows_upgrade hupgrade).assets

theorem writesWithin_keepsAssets {operation : Operation} (h : operation.assetKey? = none) :
    operation.WritesWithin KeepsAssets := by
  cases operation with
  | resolve tag candidate now =>
      exact fun canonical _ store => .of_eq (assets_registerTag candidate now canonical store)
  | resolveAll tags candidates now =>
      exact fun misses found _ store =>
        .of_eq (assets_registerMisses candidates now misses found store)
  | hashtagUsage options candidates now =>
      exact fun misses found _ store =>
        .of_eq (assets_registerMisses candidates now misses found store)
  | lookupSlug slug => trivial
  | findTag tag => trivial
  | listEntries => trivial
  | upsertDocuments collection documents candidates now =>
      exact fun store => .of_eq (assets_upsertDocuments candidates now collection documents store)
  | setColor tag color now => exact fun store => .of_eq (assets_setColor now tag color store)
  | upsertAsset key kind title content now => cases h
  | deleteAsset key force => cases h
  | migrate now => exact keepsAssets_upgradeTo now
  | reopen root now logged => exact keepsAssets_upgradeTo now
  | setRefusal refusal => exact fun store => .of_eq rfl
  | setVersion version => exact fun store => .of_eq rfl

theorem keepsAssets_perform {operation : Operation} (h : operation.assetKey? = none)
    (store : Store) : KeepsAssets store (operation.perform store).2 := by
  rw [← operation.run_program]
  exact ((writesWithin_keepsAssets h).program .refl).run .refl Kept.trans store

/-! ## Stores as writes have left them -/

/-- Under each key the store has the asset that these writes leave. -/
structure WrittenBy (writes : String → List AssetWrite) (store : Store) : Prop where
  rows : ∃ table, store.assets = some table ∧
    ∀ key, table.find? key = (writtenAsset key (writes key)).map ContentAsset.row
  keys : ∀ key, writes key ≠ [] → key ≠ "" ∧ Text.trim key = key

namespace WrittenBy

variable {writes : String → List AssetWrite} {store : Store}

theorem keepsAssets (h : WrittenBy writes store) {after : Store}
    (hkeeps : KeepsAssets store after) : WrittenBy writes after := by
  obtain ⟨table, htable, hrows⟩ := h.rows
  exact ⟨⟨table, Kept.eq_some hkeeps htable, hrows⟩, h.keys⟩

/-- Times of creation that were written can be read. -/
theorem knowsAge (h : WrittenBy writes store) (key : String) : store.KnowsAge key := by
  intro other row hother hrow
  obtain ⟨table, htable, hrows⟩ := h.rows
  cases htable.symm.trans hother
  rw [hrows] at hrow
  obtain ⟨asset, -, rfl⟩ := Option.map_eq_some_iff.mp hrow
  exact ⟨asset.createdAt, rfl⟩

theorem upsertAsset (h : WrittenBy writes store) (key : String) (kind : AssetKind) (title : String)
    (content : Option String) (now : String) :
    let operation := Operation.upsertAsset key kind title content now
    WrittenBy (fun key => recordAsset key (writes key) (operation, (operation.perform store).1))
      (operation.perform store).2 := by
  simp only [Operation.perform]
  cases hresult : store.upsertAsset now key kind title content with
  | mk result after =>
      cases result with
      | error error =>
          obtain rfl := eq_of_upsertAsset_eq_error (h.knowsAge _) hresult
          exact h
      | ok asset =>
          obtain ⟨hblank, table, htable, rfl⟩ := upsertAsset_eq_ok hresult
          obtain ⟨held, hheld, hrows⟩ := h.rows
          cases htable.symm.trans hheld
          simp only [Prod.map, id, recordAsset]
          refine ⟨⟨_, rfl, fun other => ?_⟩, fun other hother => ?_⟩
          · rw [Table.find?_insert]
            by_cases hkey : other = Text.trim key
            · subst hkey
              rw [if_pos rfl, if_pos rfl, row_writtenAsset_concat, hrows]
            · rw [if_neg hkey, if_neg (Ne.symm hkey), hrows]
          · by_cases hkey : Text.trim key = other
            · subst hkey
              exact ⟨hblank, Text.trim_trim key⟩
            · rw [if_neg hkey] at hother
              exact h.keys other hother

theorem deleteAsset (h : WrittenBy writes store) (key : String) (force : Bool) :
    let operation := Operation.deleteAsset key force
    WrittenBy (fun key => recordAsset key (writes key) (operation, (operation.perform store).1))
      (operation.perform store).2 := by
  simp only [Operation.perform]
  cases hresult : store.deleteAsset key force with
  | mk result after =>
      cases result with
      | error error =>
          obtain rfl := allOrNothing_deleteAsset key force _ _ _ hresult
          exact h
      | ok report =>
          obtain rfl := deleteAsset_eq_ok hresult
          obtain ⟨table, htable, hrows⟩ := h.rows
          simp only [Prod.map, id, recordAsset]
          refine ⟨⟨table.erase (Text.trim key), by simp [eraseAsset, htable], fun other => ?_⟩,
            fun other hother => ?_⟩
          · rw [Table.find?_erase]
            by_cases hkey : other = Text.trim key
            · subst hkey
              rw [if_pos rfl, if_pos rfl]
              rfl
            · rw [if_neg hkey, if_neg (Ne.symm hkey), hrows]
          · by_cases hkey : Text.trim key = other
            · rw [if_pos hkey] at hother
              exact absurd rfl hother
            · rw [if_neg hkey] at hother
              exact h.keys other hother

theorem perform (h : WrittenBy writes store) (operation : Operation) :
    WrittenBy (fun key => recordAsset key (writes key) (operation, (operation.perform store).1))
      (operation.perform store).2 := by
  cases hkey : operation.assetKey? with
  | none =>
      have hsame : (fun key => recordAsset key (writes key)
          (operation, (operation.perform store).1)) = writes := by
        funext key
        exact recordAsset_of_assetKey?_ne (by simp [hkey]) _ _
      rw [hsame]
      exact h.keepsAssets (keepsAssets_perform hkey store)
  | some _ =>
      cases operation with
      | upsertAsset key kind title content now => exact h.upsertAsset key kind title content now
      | deleteAsset key force => exact h.deleteAsset key force
      | _ => cases hkey

theorem performAll (h : WrittenBy writes store) (operations : List Operation) :
    let ran := Operation.performAll store operations
    WrittenBy (fun key => ran.1.foldl (recordAsset key) (writes key)) ran.2 := by
  induction operations generalizing writes store with
  | nil => exact h
  | cons operation rest ih => exact ih (h.perform operation)

theorem getAsset (h : WrittenBy writes store) (key : String) :
    store.getAsset key =
      if Text.trim key = "" then .error (.missingParameter "key")
      else match writtenAsset (Text.trim key) (writes (Text.trim key)) with
        | none => .error (.assetNotFound (Text.trim key))
        | some asset => .ok asset := by
  obtain ⟨table, htable, hrows⟩ := h.rows
  by_cases hblank : Text.trim key = ""
  · simp [Store.getAsset, requiredKey, hblank]
  · have hrequired : requiredKey key = .ok (Text.trim key) :=
      requiredKey_eq_ok_iff.mpr ⟨hblank, rfl⟩
    rw [if_neg hblank]
    simp only [Store.getAsset, hrequired, htable, require, hrows]
    cases hwritten : writtenAsset (Text.trim key) (writes (Text.trim key)) with
    | none => rfl
    | some asset =>
        have hkey := key_of_writtenAsset hwritten
        have hread := asset.ofRow_cells
        rw [ContentAsset.cells, hkey] at hread
        simp only [Option.map_some, hread]

theorem listAssets (h : WrittenBy writes store) :
    ∃ assets, store.listAssets = .ok assets ∧
      assets.Pairwise (fun left right => Text.utf8 left.key < Text.utf8 right.key) ∧
      ∀ asset, asset ∈ assets ↔ writtenAsset asset.key (writes asset.key) = some asset := by
  obtain ⟨table, htable, hrows⟩ := h.rows
  have hassets : ∃ assets : List ContentAsset, assets.map ContentAsset.cells = table.rows := by
    refine (Set.ext_iff.mp (Set.range_list_map ContentAsset.cells) _).mpr fun entry hentry => ?_
    obtain ⟨asset, hasset, hrow⟩ :=
      Option.map_eq_some_iff.mp ((hrows _).symm.trans (Table.mem_rows_iff.mp hentry))
    exact ⟨asset, Prod.ext (key_of_writtenAsset hasset) hrow⟩
  obtain ⟨assets, hassets⟩ := hassets
  refine ⟨assets, ?_, ?_, fun asset => ?_⟩
  · simp only [Store.listAssets, htable, require, Except.bind, ← hassets,
      ContentAsset.mapM_ofRow_cells]
  · have hordered := table.ordered
    rw [← hassets, List.pairwise_map] at hordered
    exact hordered.imp Text.utf8_lt_iff.mpr
  · rw [← List.mem_map_of_injective ContentAsset.cells_injective, hassets]
    change (asset.key, asset.row) ∈ table.rows ↔ _
    rw [Table.mem_rows_iff, hrows, Option.map_eq_some_iff]
    constructor
    · rintro ⟨other, hother, hrow⟩
      have hsame := ContentAsset.cells_injective (Prod.ext (key_of_writtenAsset hother) hrow)
      rw [hother, hsame]
    · exact fun hasset => ⟨asset, hasset, rfl⟩

theorem getAsset_eq_ok_iff (h : WrittenBy writes store) {key : String} {asset : ContentAsset} :
    store.getAsset key = .ok asset ↔
      writtenAsset asset.key (writes asset.key) = some asset ∧ asset.key = Text.trim key := by
  rw [h.getAsset]
  constructor
  · intro hasset
    split at hasset
    · cases hasset
    · split at hasset
      · cases hasset
      · next hwritten =>
          cases hasset
          have hkey := key_of_writtenAsset hwritten
          rw [hkey]
          exact ⟨hwritten, rfl⟩
  · rintro ⟨hwritten, hkey⟩
    have hsome : writes asset.key ≠ [] := by
      intro hnone
      rw [hnone] at hwritten
      cases hwritten
    rw [← hkey, if_neg (h.keys _ hsome).1, hwritten]

end WrittenBy

end Store

/-- After any operations on a store that was blank.  A key that is blank is refused.  Under any
other key there is an asset exactly if one was written there since the last deletion that went
through; it is as the last of these writes says, and as old as the first.  All assets are listed,
each of them once and in the order of the bytes of their keys, as they are found one by one.  An
operation changes at most the asset whose key it was given. -/
theorem assets_as_written (created : String) (operations : List Operation) :
    let (answered, store) := Operation.performAll (Store.blank.migrate created).2 operations
    (∀ key, store.getAsset key =
      if Text.trim key = "" then .error (.missingParameter "key")
      else match writtenAsset (Text.trim key) (assetWrites (Text.trim key) answered) with
        | none => .error (.assetNotFound (Text.trim key))
        | some asset => .ok asset) ∧
    (∃ assets, store.listAssets = .ok assets ∧
      assets.Pairwise (fun left right => Text.utf8 left.key < Text.utf8 right.key) ∧
      ∀ key asset, store.getAsset key = .ok asset ↔ asset ∈ assets ∧ asset.key = Text.trim key) ∧
    ∀ (operation : Operation) key, operation.assetKey? ≠ some (Text.trim key) →
      (operation.perform store).2.getAsset key = store.getAsset key := by
  have hstart : Store.WrittenBy (fun _ => []) (Store.blank.migrate created).2 :=
    ⟨⟨.empty, rfl, fun _ => rfl⟩, fun _ hsome => absurd rfl hsome⟩
  have h := hstart.performAll operations
  refine ⟨h.getAsset, ?_, fun operation key hother => ?_⟩
  · obtain ⟨assets, hlisted, hordered, hmem⟩ := h.listAssets
    refine ⟨assets, hlisted, hordered, fun key asset => ?_⟩
    rw [h.getAsset_eq_ok_iff, hmem]
  · rw [(h.perform operation).getAsset, h.getAsset, recordAsset_of_assetKey?_ne hother]

/-- An asset that is replaced, kept from deletion by a chart, deleted by force, and written anew. -/
def logoRun : List Operation :=
  [.upsertAsset " logo" .media "Logo" none "t1",
    .upsertAsset "logo " .media "Wide logo" (some "wide.svg") "t2",
    .upsertDocuments .charts [.object [("id", .string "wall"), ("elements", .array
      [.object [("formula", .string "[MEDIA:logo]")]])]] toString "t3",
    .deleteAsset "logo" false,
    .deleteAsset "logo" true,
    .upsertAsset "logo" .text "Slogan" none "t4"]

theorem logo_as_written :
    let kept := (Operation.performAll (Store.blank.migrate "t0").2 (logoRun.take 4)).2
    let renewed := (Operation.performAll (Store.blank.migrate "t0").2 logoRun).2
    kept.getAsset "logo" =
      .ok ⟨"logo", .media, "Wide logo", some "wide.svg", "t1", "t2"⟩ ∧
    renewed.getAsset " logo " = .ok ⟨"logo", .text, "Slogan", none, "t4", "t4"⟩ ∧
    (renewed.upsertAsset "t5" "banner" .media "Banner" none).2.getAsset "logo" =
      renewed.getAsset "logo" := by
  obtain ⟨hkept, -, -⟩ := assets_as_written "t0" (logoRun.take 4)
  obtain ⟨hrenewed, -, hothers⟩ := assets_as_written "t0" logoRun
  refine ⟨(hkept "logo").trans ?_, (hrenewed " logo ").trans ?_, ?_⟩
  · decide +kernel
  · decide +kernel
  · exact hothers (.upsertAsset "banner" .media "Banner" none "t5") "logo" (by decide +kernel)

end TagLedger
