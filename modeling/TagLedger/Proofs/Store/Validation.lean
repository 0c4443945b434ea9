import TagLedger.Proofs.Store.Batch
import TagLedger.Proofs.Store.Color
import TagLedger.Proofs.Store.Reporting

/-!
# Two notions of blankness

Input is checked twice: an operation refuses a text that is blank once trimmed, and the schema
refuses a key in which nothing is left before the first NUL once spaces are stripped.  On a trimmed
text the two disagree exactly if it starts with a NUL, so such a text passes the first check and
fails at the second one.
-/

namespace TagLedger

/-! ## How a write ends -/

/-- The error for the first blank one of several tags. -/
def blankTag? (tags : List String) : Option LedgerError :=
  (tags.find? fun tag => Text.trim tag == "").map .invalidTag

def blank? (parameter text : String) : Option LedgerError :=
  if Text.trim text = "" then some (.missingParameter parameter) else none

/-- The first entry of a batch that is no object. -/
def misfit? (documents : List Json) : Option LedgerError :=
  (documents.findIdx? (·.object?.isNone)).map (.invalidDocument · "expected a JSON object")

/-- A key that a write puts into a column which must not be empty. -/
structure ColumnKey where
  column : String
  text : String
  deriving DecidableEq

def ColumnKey.startsWithNul (key : ColumnKey) : Bool :=
  key.text.toList.head? == some '\x00'

/-- The schema takes a trimmed key that is not empty unless it starts with a NUL. -/
theorem notEmpty_eq_not_startsWithNul (column : String) {text : String} (hempty : text ≠ "")
    (htrimmed : Text.Trimmed text.toList) :
    notEmpty text = !(ColumnKey.mk column text).startsWithNul := by
  rw [Bool.eq_iff_iff, notEmpty_iff_of_trimmed hempty htrimmed, ColumnKey.startsWithNul]
  simp

theorem Tag.Normal.notEmpty_eq {tag : String} (h : Tag.Normal tag) (column : String) :
    notEmpty tag = !(ColumnKey.mk column tag).startsWithNul :=
  notEmpty_eq_not_startsWithNul column h.nonempty h.trimmed

theorem notEmpty_trim_eq {text : String} (h : Text.trim text ≠ "") (column : String) :
    notEmpty (Text.trim text) = !(ColumnKey.mk column (Text.trim text)).startsWithNul :=
  notEmpty_eq_not_startsWithNul column h (Text.trimmed_trim text)

def tagKeys (tags : List String) : List ColumnKey :=
  (tags.filterMap Tag.canonicalize).map (⟨"tag", ·⟩)

theorem column_of_mem_tagKeys {tags : List String} {key : ColumnKey} (h : key ∈ tagKeys tags) :
    key.column = "tag" := by
  obtain ⟨canonical, -, rfl⟩ := List.mem_map.mp h
  rfl

theorem blankTag?_of_none {tag : String} (h : Tag.canonicalize tag = none) :
    blankTag? [tag] = some (.invalidTag tag) := by
  simp [blankTag?, Tag.canonicalize_eq_none_iff.mp h]

theorem blankTag?_of_some {tag canonical : String} (h : Tag.canonicalize tag = some canonical) :
    blankTag? [tag] = none := by
  have htrim : Text.trim tag ≠ "" := fun hblank => by
    rw [Tag.canonicalize_eq_none_iff.mpr hblank] at h
    cases h
  simp [blankTag?, htrim]

namespace Store

/-- How a write ends: input that it refuses itself is reported as such, a key that starts with a NUL
is refused by the schema, in both cases without effect, and everything else is stored. -/
@[irreducible] def Ends {α : Type} (refused : Option LedgerError) (keys : List ColumnKey)
    (stored : α → Store → Prop) (store : Store) (outcome : Outcome α) : Prop :=
  match refused, keys.find? ColumnKey.startsWithNul with
  | some error, _ => outcome = (.error error, store)
  | none, some key => outcome = (.error (.store (.checkFailed (.notEmpty key.column))), store)
  | none, none => ∃ result after, outcome = (.ok result, after) ∧ stored result after

section Ends

variable {α : Type} {keys : List ColumnKey} {stored : α → Store → Prop} {store : Store}
  {outcome : Outcome α}

theorem ends_refused_iff {refused : Option LedgerError} {error : LedgerError}
    (hrefused : refused = some error) :
    Ends refused keys stored store outcome ↔ outcome = (.error error, store) := by
  unfold Ends
  rw [hrefused]

theorem ends_nul_iff {key : ColumnKey} (hkey : keys.find? ColumnKey.startsWithNul = some key) :
    Ends none keys stored store outcome ↔
      outcome = (.error (.store (.checkFailed (.notEmpty key.column))), store) := by
  unfold Ends
  rw [hkey]

theorem ends_stored_iff (hkeys : keys.find? ColumnKey.startsWithNul = none) :
    Ends none keys stored store outcome ↔
      ∃ result after, outcome = (.ok result, after) ∧ stored result after := by
  unfold Ends
  rw [hkeys]

/-- A write whose keys all go into one column. -/
theorem ends_of_column {refused : Option LedgerError} (column : String)
    (hrefused : refused = none) (hcolumn : ∀ key ∈ keys, key.column = column)
    (hnul : ∀ key ∈ keys, key.startsWithNul = true →
      outcome = (.error (.store (.checkFailed (.notEmpty column))), store))
    (hstored : (∀ key ∈ keys, key.startsWithNul = false) →
      ∃ result after, outcome = (.ok result, after) ∧ stored result after) :
    Ends refused keys stored store outcome := by
  rw [hrefused]
  cases hkey : keys.find? ColumnKey.startsWithNul with
  | none => exact (ends_stored_iff hkey).mpr (hstored (by simpa using hkey))
  | some key =>
      have hmem := List.mem_of_find?_eq_some hkey
      refine (ends_nul_iff hkey).mpr ?_
      rw [hcolumn key hmem]
      exact hnul key hmem (List.find?_some hkey)

end Ends

/-- Every table is there and can be written, the registry holds keys that the schema takes, and the
assets have times of creation that can be read. -/
structure Intact (store : Store) : Prop where
  registry : store.RegistryIntact
  documents : ∀ collection, (store.documents collection).isSome = true
  colors : store.colors.isSome = true
  assets : store.assets.isSome = true
  ages : ∀ key, store.KnowsAge key

variable {store : Store}

/-- A statement on a table that is there, in a store that takes writes, ends as its write does. -/
theorem statement_eq {ρ α : Type} (name : TableName) {held : Option (Table ρ)} {table : Table ρ}
    (hheld : held = some table) (hrefusal : store.refusal = none)
    (write : Table ρ → Except StoreFault α) :
    ((require name held).bind fun table => store.attempt (write table)) = write table := by
  simp [hheld, require, Except.bind, attempt, hrefusal]

/-! ## Tags -/

theorem mapM_canonicalOrInvalid_of_find? {tags : List String} {tag : String}
    (h : (tags.find? fun tag => Text.trim tag == "") = some tag) :
    tags.mapM canonicalOrInvalid = .error (.invalidTag tag) := by
  induction tags with
  | nil => cases h
  | cons first rest ih =>
      rw [List.mapM_cons, canonicalOrInvalid]
      rw [List.find?_cons] at h
      split at h
      · next hblank =>
          obtain rfl := Option.some.inj h
          rw [Tag.canonicalize_eq_none_iff.mpr (by simpa using hblank)]
          rfl
      · next hblank =>
          cases hcanonical : Tag.canonicalize first with
          | none =>
              rw [Tag.canonicalize_eq_none_iff] at hcanonical
              simp [hcanonical] at hblank
          | some canonical =>
              rw [ih h]
              rfl

theorem exists_canonical_of_find? {tags : List String}
    (h : (tags.find? fun tag => Text.trim tag == "") = none) :
    tags.mapM canonicalOrInvalid = .ok (tags.filterMap Tag.canonicalize) := by
  have hforms : ∀ tag ∈ tags, ∃ canonical, Tag.canonicalize tag = some canonical := by
    intro tag htag
    rw [← Option.ne_none_iff_exists', ne_eq, Tag.canonicalize_eq_none_iff]
    simpa using List.find?_eq_none.mp h tag htag
  obtain ⟨canonical, hcanonical⟩ := exists_mapM_of_canonicalize hforms
  have hmap := congrArg (List.filterMap id) (map_canonicalize_of_mapM hcanonical)
  rw [List.filterMap_map, List.filterMap_map, Function.id_comp] at hmap
  rw [hcanonical, hmap]
  simp

theorem ends_resolve (hintact : store.Intact) {candidate : String}
    (hnew : ∀ entry ∈ store.entries, entry.slug ≠ candidate) (now tag : String) :
    Ends (blankTag? [tag]) (tagKeys [tag]) (fun slug after => Carries after.entries tag slug)
      store (store.resolve candidate now tag) := by
  cases hcanonical : Tag.canonicalize tag with
  | none =>
      have hinvalid : store.resolve candidate now tag = (.error (.invalidTag tag), store) := by
        simp [Store.resolve, canonicalOrInvalid, hcanonical]
      exact (ends_refused_iff (blankTag?_of_none hcanonical)).mpr hinvalid
  | some canonical =>
      have hkeys : tagKeys [tag] = [⟨"tag", canonical⟩] := by simp [tagKeys, hcanonical]
      have hempty := (Tag.normal_of_canonicalize hcanonical).notEmpty_eq "tag"
      have hready : store.Ready [candidate] := by
        refine ⟨hintact.registry.slugs, hintact.registry.refusal, fun other row hrow hslug => ?_⟩
        exact hnew _ (ofRow_mem_entries hrow) (List.mem_singleton.mp hslug)
      rw [hkeys]
      refine ends_of_column "tag" (blankTag?_of_some hcanonical) (by simp)
        (fun key hkey hnul => ?_) fun hnul => ?_
      · obtain rfl := List.mem_singleton.mp hkey
        rw [hnul] at hempty
        simp [Store.resolve, canonicalOrInvalid, hcanonical, hready.write, insertSlug,
          requireNotEmpty, hempty]
      · rw [hnul _ List.mem_cons_self] at hempty
        have hensures : (resolveProgram candidate now tag).Ensures _ _ _ store :=
          ensures_ok_resolveProgram hready hcanonical hempty
        obtain ⟨slug, hslug⟩ := hensures.run Extends.refl
        rw [run_resolveProgram] at hslug
        have hheld := (ensures_resolveProgram candidate now tag store).run Keeps.refl
        rw [run_resolveProgram] at hheld
        obtain ⟨form, row, hform, hrow, hsame⟩ := hheld slug hslug
        generalize store.resolve candidate now tag = outcome at hslug hrow ⊢
        obtain ⟨result, after⟩ := outcome
        obtain rfl : result = .ok slug := hslug
        exact ⟨slug, after, rfl, _, ofRow_mem_entries hrow, hform, hsame⟩

theorem ends_resolveAll (hintact : store.Intact) {candidates : Nat → String} {tags : List String}
    (hnew : ∀ entry ∈ store.entries, ∀ index, entry.slug ≠ candidates index)
    (hdistinct : ((List.range tags.length).map candidates).Nodup) (now : String) :
    Ends (blankTag? tags) (tagKeys tags)
      (fun slugs after => ∀ tag ∈ tags, ∃ slug,
        (Tag.canonicalize tag).bind slugs.find? = some slug ∧ Carries after.entries tag slug)
      store (store.resolveAll candidates now tags) := by
  cases hfind : tags.find? fun tag => Text.trim tag == "" with
  | some tag =>
      have hblank : blankTag? tags = some (.invalidTag tag) := by simp [blankTag?, hfind]
      refine (ends_refused_iff hblank).mpr ?_
      rw [Store.resolveAll, mapM_canonicalOrInvalid_of_find? hfind]
  | none =>
      have hblank : blankTag? tags = none := by simp [blankTag?, hfind]
      have hcanonical := exists_canonical_of_find? hfind
      have hlength : (tags.filterMap Tag.canonicalize).length = tags.length := by
        simpa using (congrArg List.length (map_canonicalize_of_mapM hcanonical)).symm
      have hnormal : ∀ form ∈ tags.filterMap Tag.canonicalize, Tag.Normal form := by
        intro form hform
        obtain ⟨tag, -, htag⟩ := List.mem_filterMap.mp hform
        exact Tag.normal_of_canonicalize htag
      have hforms : store.resolveAll candidates now tags =
          store.resolveAll candidates now (tags.filterMap Tag.canonicalize) := by
        rw [Store.resolveAll, Store.resolveAll, hcanonical, mapM_canonicalOrInvalid hnormal]
      rw [← hlength] at hdistinct
      refine ends_of_column "tag" hblank (fun _ => column_of_mem_tagKeys)
        (fun key hkey hnul => ?_) fun hnul => ?_
      · obtain ⟨form, hform, rfl⟩ := List.mem_map.mp hkey
        have hempty : notEmpty form = false := by
          rw [(hnormal form hform).notEmpty_eq "tag", hnul]
          rfl
        rw [hforms, resolveAll_of_refused hintact.registry hdistinct hnew hnormal hform hempty]
      · have hempty : ∀ form ∈ tags.filterMap Tag.canonicalize, notEmpty form = true := by
          intro form hform
          rw [(hnormal form hform).notEmpty_eq "tag",
            hnul _ (List.mem_map_of_mem hform)]
          rfl
        obtain ⟨slugs, after, hslugs⟩ :=
          exists_resolveAll_of_notEmpty hintact.registry hdistinct hnew hnormal hempty now
        rw [← hforms] at hslugs
        have hheld := (ensures_resolveAllProgram candidates now tags store).run Keeps.refl
        rw [run_resolveAllProgram, hslugs] at hheld
        obtain ⟨hholds, hcontains⟩ := hheld slugs rfl
        refine ⟨slugs, after, hslugs, fun tag htag => ?_⟩
        obtain ⟨form, hform, hfound⟩ := hcontains tag htag
        obtain ⟨slug, hslug⟩ := Table.contains_iff.mp hfound
        obtain ⟨row, hrow, hsame⟩ := hholds form slug hslug
        refine ⟨slug, ?_, _, ofRow_mem_entries hrow, hform, hsame⟩
        rw [hform, Option.bind_some, hslug]

/-! ## Colors, assets and documents -/

/-- The first of the two keys that the schema refuses is the one that is reported. -/
theorem writeColor_eq {tag color : String} (htag : Tag.Normal tag) (hcolor : Text.trim color ≠ "")
    (now : String) (table : Table ColorRow) :
    writeColor now tag (Text.trim color) table =
      match [ColumnKey.mk "tag" tag, ⟨"color", Text.trim color⟩].find? ColumnKey.startsWithNul with
      | some key => .error (.checkFailed (.notEmpty key.column))
      | none => .ok (table.insert tag ⟨Text.trim color, now⟩) := by
  rw [writeColor, requireNotEmpty, requireNotEmpty, htag.notEmpty_eq "tag",
    notEmpty_trim_eq hcolor "color", List.find?_cons, List.find?_cons]
  cases (ColumnKey.mk "tag" tag).startsWithNul with
  | true => rfl
  | false => cases (ColumnKey.mk "color" (Text.trim color)).startsWithNul <;> rfl

theorem setColor_eq (hintact : store.Intact) {tag canonical color : String}
    (hcanonical : Tag.canonicalize tag = some canonical) (hcolor : Text.trim color ≠ "")
    (now : String) : ∃ table, store.setColor now tag color =
      match writeColor now canonical (Text.trim color) table with
      | .error fault => (.error (.store fault), store)
      | .ok written => (.ok canonical, { store with colors := some written }) := by
  obtain ⟨table, htable⟩ := Option.isSome_iff_exists.mp hintact.colors
  have hnonempty : (Text.trim color).isEmpty = false := by simpa using hcolor
  have hwrite := statement_eq .colors htable hintact.registry.refusal
    (writeColor now canonical (Text.trim color))
  refine ⟨table, ?_⟩
  cases hwritten : writeColor now canonical (Text.trim color) table <;>
    simp only [Store.setColor, hcanonical, hnonempty, Bool.false_eq_true, ↓reduceIte, hwrite,
      hwritten]

theorem ends_setColor (hintact : store.Intact) (now tag color : String) :
    Ends ((blankTag? [tag]).or (blank? "color" color))
      (tagKeys [tag] ++ [⟨"color", Text.trim color⟩])
      (fun canonical after => Tag.canonicalize tag = some canonical ∧
        ∀ other, after.color? other =
          if other = canonical then some (Text.trim color) else store.color? other)
      store (store.setColor now tag color) := by
  cases hcanonical : Tag.canonicalize tag with
  | none =>
      have hrefused : (blankTag? [tag]).or (blank? "color" color) = some (.invalidTag tag) := by
        rw [blankTag?_of_none hcanonical, Option.some_or]
      exact (ends_refused_iff hrefused).mpr (by simp [Store.setColor, hcanonical])
  | some canonical =>
      have hkeys : tagKeys [tag] ++ [⟨"color", Text.trim color⟩] =
          [⟨"tag", canonical⟩, ⟨"color", Text.trim color⟩] := by
        simp [tagKeys, hcanonical]
      rw [blankTag?_of_some hcanonical, Option.none_or, hkeys]
      by_cases hcolor : Text.trim color = ""
      · have hmissing : store.setColor now tag color = (.error (.missingParameter "color"), store) := by
          simp [Store.setColor, hcanonical, hcolor]
        exact (ends_refused_iff (if_pos hcolor)).mpr hmissing
      · obtain ⟨table, hset⟩ := setColor_eq hintact hcanonical hcolor now
        rw [writeColor_eq (Tag.normal_of_canonicalize hcanonical) hcolor] at hset
        rw [blank?, if_neg hcolor]
        cases hnul : [ColumnKey.mk "tag" canonical, ⟨"color", Text.trim color⟩].find?
            ColumnKey.startsWithNul with
        | some key =>
            rw [hnul] at hset
            exact (ends_nul_iff hnul).mpr hset
        | none =>
            rw [hnul] at hset
            exact (ends_stored_iff hnul).mpr
              ⟨canonical, _, hset, rfl, color?_of_setColor hset⟩

theorem getAsset_insert (asset : ContentAsset) {key : String}
    (hkey : requiredKey key = .ok asset.key) (table : Table AssetRow) (store : Store) :
    getAsset key { store with assets := some (table.insert asset.key asset.row) } = .ok asset := by
  have hread : ContentAsset.ofRow (asset.key, asset.row) = .ok asset := asset.ofRow_cells
  simp only [getAsset, hkey, require, Table.find?_insert_self, hread]

/-- The row that a write leaves is that of an asset if the time of creation can be read. -/
theorem KnowsAge.exists_writtenRow {key : String} {table : Table AssetRow}
    (h : store.KnowsAge key) (hassets : store.assets = some table) (now : String)
    (kind : AssetKind) (title : String) (content : Option String) :
    ∃ time, writtenRow now kind title content (table.find? key) =
      ContentAsset.row ⟨key, kind, title, content, time, now⟩ := by
  cases hheld : table.find? key with
  | none => exact ⟨now, rfl⟩
  | some row =>
      obtain ⟨time, htime⟩ := h table row hassets hheld
      exact ⟨time, by simp [writtenRow, ContentAsset.row, htime]⟩

theorem ends_upsertAsset (hintact : store.Intact) (now key : String) (kind : AssetKind)
    (title : String) (content : Option String) :
    Ends (blank? "key" key) [⟨"asset_key", Text.trim key⟩]
      (fun asset after => asset.key = Text.trim key ∧ asset.kind = kind ∧ asset.title = title ∧
        asset.content = content ∧ after.getAsset key = .ok asset)
      store (store.upsertAsset now key kind title content) := by
  by_cases hkey : Text.trim key = ""
  · have hmissing : store.upsertAsset now key kind title content =
        (.error (.missingParameter "key"), store) := by
      simp [Store.upsertAsset, requiredKey, hkey]
    exact (ends_refused_iff (if_pos hkey)).mpr hmissing
  · obtain ⟨table, htable⟩ := Option.isSome_iff_exists.mp hintact.assets
    have hrefusal := hintact.registry.refusal
    have hrequired := requiredKey_eq_ok_iff.mpr ⟨hkey, rfl⟩
    have hempty := notEmpty_trim_eq hkey "asset_key"
    refine ends_of_column "asset_key" (if_neg hkey) (by simp) (fun held hheld hnul => ?_)
      fun hnul => ?_
    · obtain rfl := List.mem_singleton.mp hheld
      have hwrite := statement_eq .assets htable hrefusal
        (writeAsset now (Text.trim key) kind title content)
      have hrefused : writeAsset now (Text.trim key) kind title content table =
          .error (.checkFailed (.notEmpty "asset_key")) := by
        simp [writeAsset, requireNotEmpty, hempty, hnul]
      simp only [Store.upsertAsset, hrequired, hwrite, hrefused]
    · rw [hnul _ List.mem_cons_self] at hempty
      obtain ⟨time, hrow⟩ :=
        (hintact.ages (Text.trim key)).exists_writtenRow htable now kind title content
      have hwritten := upsertAsset_of_notEmpty now key kind title content htable hrefusal hempty
      rw [hrow] at hwritten
      let asset : ContentAsset := ⟨Text.trim key, kind, title, content, time, now⟩
      refine ⟨asset, { store with assets := some (table.insert asset.key asset.row) }, hwritten,
        rfl, rfl, rfl, rfl, ?_⟩
      exact getAsset_insert asset hrequired table store

theorem ends_upsertDocuments (hintact : store.Intact) {candidates : Nat → String}
    (hidentifiers : ∀ index, IsIdentifier (candidates index)) (now : String)
    (collection : Collection) (documents : List Json) :
    Ends (misfit? documents)
      ((namedIds collection documents).map (⟨collection.idColumn, ·⟩))
      (fun ids after =>
        let written := identified collection candidates documents
        ids = written.map (·.1) ∧ ∃ table, after.documents collection = some table ∧
          ∀ id, (bodies table).find? id = ((written.reverse.lookup id).map fun document =>
            Cell.text document.compact).or
              ((store.documents collection).bind fun held => (bodies held).find? id))
      store (store.upsertDocuments candidates now collection documents) := by
  cases hmisfit : documents.findIdx? (·.object?.isNone) with
  | some index =>
      have hrefused : misfit? documents =
          some (.invalidDocument index "expected a JSON object") := by
        rw [misfit?, hmisfit]
        rfl
      exact (ends_refused_iff hrefused).mpr
        (upsertDocuments_of_findIdx? candidates now collection hmisfit store)
  | none =>
      have hobjects := objects_of_findIdx? hmisfit
      have hrefused : misfit? documents = none := by
        rw [misfit?, hmisfit]
        rfl
      obtain ⟨table, htable⟩ := Option.isSome_iff_exists.mp (hintact.documents collection)
      have hrefusal := hintact.registry.refusal
      have hnamed {id : String} (h : id ∈ namedIds collection documents) :
          notEmpty id = !(ColumnKey.mk collection.idColumn id).startsWithNul := by
        obtain ⟨document, -, hid⟩ := List.mem_filterMap.mp h
        obtain ⟨fields, -, hid⟩ := Option.bind_eq_some_iff.mp hid
        obtain ⟨hempty, htrimmed⟩ := trimmed_of_documentId hid
        exact notEmpty_eq_not_startsWithNul collection.idColumn hempty htrimmed
      refine ends_of_column collection.idColumn hrefused ?_ (fun key hkey hnul => ?_)
        fun hnul => ?_
      · intro key hkey
        obtain ⟨id, -, rfl⟩ := List.mem_map.mp hkey
        rfl
      · obtain ⟨id, hid, rfl⟩ := List.mem_map.mp hkey
        obtain ⟨document, hentry⟩ := exists_of_mem_namedIds hobjects hid
        refine upsertDocuments_of_refused now hobjects htable hrefusal hentry ?_
        rw [hnamed hid, hnul]
        rfl
      · have hempty : ∀ entry ∈ identified collection candidates documents,
            notEmpty entry.1 = true := by
          intro entry hentry
          rcases id_of_mem_identified hobjects hentry with hid | ⟨index, hindex⟩
          · rw [hnamed hid, hnul _ (List.mem_map_of_mem hid)]
            rfl
          · rw [hindex]
            exact (hidentifiers index).solid.notEmpty
        obtain ⟨written, hbatch, hbodies⟩ :=
          upsertDocuments_of_notEmpty now hobjects htable hrefusal hempty
        refine ⟨_, _, hbatch, rfl, written, store.documents_withDocuments collection written,
          fun id => ?_⟩
        have hlast := Table.find?_foldl_insert_eq_lookup_reverse
          ((identified collection candidates documents).map fun entry =>
            (entry.1, Cell.text entry.2.compact)) (bodies table) id
        rw [List.foldl_map, ← List.map_reverse,
          Table.lookup_map fun document : Json => Cell.text document.compact] at hlast
        rw [hbodies, htable]
        exact hlast

end Store

/-- Every write on an intact store, under identifiers that are not in use: blank input and entries
that are no objects are reported as such, a key that starts with a NUL makes the store refuse the
write, and everything else is stored.  For what is written as a key, trimmed tags, colors, asset
keys and ids, that NUL is all that the two notions of blankness disagree on. -/
theorem writes_validated {candidates : Nat → String} {store : Store} (hintact : store.Intact)
    (hidentifiers : ∀ index, IsIdentifier (candidates index))
    (hnew : ∀ entry ∈ store.entries, ∀ index, entry.slug ≠ candidates index) (now : String) :
    (∀ key, ((∃ text, Tag.canonicalize text = some key) ∨ (∃ text, Text.trim text = key ∧ key ≠ "") ∨
        ∃ collection fields, documentId collection fields = some key) →
      (notEmpty key = true ↔ key.toList.head? ≠ some '\x00')) ∧
    (∀ tag, Store.Ends (blankTag? [tag]) (tagKeys [tag])
      (fun slug after => Carries after.entries tag slug)
      store (store.resolve (candidates 0) now tag)) ∧
    (∀ tags, ((List.range tags.length).map candidates).Nodup →
      Store.Ends (blankTag? tags) (tagKeys tags)
        (fun slugs after => ∀ tag ∈ tags, ∃ slug,
          (Tag.canonicalize tag).bind slugs.find? = some slug ∧ Carries after.entries tag slug)
        store (store.resolveAll candidates now tags)) ∧
    (∀ tag color, Store.Ends ((blankTag? [tag]).or (blank? "color" color))
      (tagKeys [tag] ++ [⟨"color", Text.trim color⟩])
      (fun canonical after => Tag.canonicalize tag = some canonical ∧
        ∀ other, after.color? other =
          if other = canonical then some (Text.trim color) else store.color? other)
      store (store.setColor now tag color)) ∧
    (∀ key kind title content, Store.Ends (blank? "key" key) [⟨"asset_key", Text.trim key⟩]
      (fun asset after => asset.key = Text.trim key ∧ asset.kind = kind ∧ asset.title = title ∧
        asset.content = content ∧ after.getAsset key = .ok asset)
      store (store.upsertAsset now key kind title content)) ∧
    ∀ collection documents, Store.Ends (misfit? documents)
      ((namedIds collection documents).map (⟨collection.idColumn, ·⟩))
      (fun ids after =>
        let written := identified collection candidates documents
        ids = written.map (·.1) ∧ ∃ table, after.documents collection = some table ∧
          ∀ id, (bodies table).find? id = ((written.reverse.lookup id).map fun document =>
            Cell.text document.compact).or
              ((store.documents collection).bind fun held => (bodies held).find? id))
      store (store.upsertDocuments candidates now collection documents) := by
  refine ⟨?_, fun tag => ?_, fun tags hdistinct => ?_, Store.ends_setColor hintact now,
    Store.ends_upsertAsset hintact now, Store.ends_upsertDocuments hintact hidentifiers now⟩
  · rintro key (⟨text, htext⟩ | ⟨text, rfl, hempty⟩ | ⟨collection, fields, hid⟩)
    · exact (Tag.normal_of_canonicalize htext).notEmpty_iff
    · exact notEmpty_iff_of_trimmed hempty (Text.trimmed_trim text)
    · obtain ⟨hempty, htrimmed⟩ := trimmed_of_documentId hid
      exact notEmpty_iff_of_trimmed hempty htrimmed
  · exact Store.ends_resolve hintact (fun entry hentry => hnew entry hentry 0) now tag
  · exact Store.ends_resolveAll hintact hnew hdistinct now

theorem intact_blank (now : String) : (Store.blank.migrate now).2.Intact where
  registry := ⟨rfl, rfl, by rintro entry ⟨⟩⟩
  documents collection := by cases collection <;> rfl
  colors := rfl
  assets := rfl
  ages key := by
    rintro table row hassets hrow
    cases hassets
    cases hrow

/-- Blank input, a NUL in front of a color and of an id, and a NUL inside a tag. -/
theorem writes_validated_blank :
    let store := (Store.blank.migrate "t0").2
    (∃ slug after, store.resolve (Identifier.sequence 1 1 0) "t1" "\tA\x00B " = (.ok slug, after) ∧
      Carries after.entries "a\x00b" slug) ∧
    store.setColor "t1" "vip" " \x00 " =
      (.error (.store (.checkFailed (.notEmpty "color"))), store) ∧
    store.upsertAsset "t1" "\u2003\n" .media "" none =
      (.error (.missingParameter "key"), store) ∧
    store.upsertDocuments (Identifier.sequence 1 1) "t1" .charts
        [.object [("chartId", .string " ")], .object [("chartId", .string "\x00c")]] =
      (.error (.store (.checkFailed (.notEmpty "chart_id"))), store) := by
  intro store
  have hidentifiers (index : Nat) : IsIdentifier (Identifier.sequence 1 1 index) := ⟨_, rfl⟩
  obtain ⟨-, hresolve, -, hcolor, hasset, hdocuments⟩ :=
    writes_validated (intact_blank "t0") hidentifiers (by rintro entry ⟨⟩) "t1"
  refine ⟨?_, ?_, ?_, ?_⟩
  · have hends := hresolve "\tA\x00B "
    have hrefused : blankTag? ["\tA\x00B "] = none := by decide +kernel
    have hkeys : (tagKeys ["\tA\x00B "]).find? ColumnKey.startsWithNul = none := by
      decide +kernel
    rw [hrefused, Store.ends_stored_iff hkeys] at hends
    obtain ⟨slug, after, hslug, entry, hentry, hcanonical, hsame⟩ := hends
    have hform : Tag.canonicalize "\tA\x00B " = Tag.canonicalize "a\x00b" := by decide +kernel
    exact ⟨slug, after, hslug, entry, hentry, hform ▸ hcanonical, hsame⟩
  · have hends := hcolor "vip" " \x00 "
    have hrefused : (blankTag? ["vip"]).or (blank? "color" " \x00 ") = none := by decide +kernel
    have hkeys : (tagKeys ["vip"] ++ [ColumnKey.mk "color" (Text.trim " \x00 ")]).find?
        ColumnKey.startsWithNul = some ⟨"color", "\x00"⟩ := by
      decide +kernel
    rw [hrefused] at hends
    exact (Store.ends_nul_iff hkeys).mp hends
  · have hends := hasset "\u2003\n" .media "" none
    have hrefused : blank? "key" "\u2003\n" = some (.missingParameter "key") := by decide +kernel
    exact (Store.ends_refused_iff hrefused).mp hends
  · have hends := hdocuments .charts
      [.object [("chartId", .string " ")], .object [("chartId", .string "\x00c")]]
    have hrefused : misfit? [.object [("chartId", .string " ")],
        .object [("chartId", .string "\x00c")]] = none := rfl
    have hkeys : ((namedIds .charts [.object [("chartId", .string " ")],
        .object [("chartId", .string "\x00c")]]).map (ColumnKey.mk "chart_id")).find?
          ColumnKey.startsWithNul = some ⟨"chart_id", "\x00c"⟩ := by
      decide +kernel
    rw [hrefused] at hends
    exact (Store.ends_nul_iff hkeys).mp hends

/-- A NUL in front of a tag is not blank, but the store does not take the tag. -/
theorem leading_nul_not_stored : ¬ ∀ (candidate now tag : String) (store : Store),
    store.Intact → IsIdentifier candidate → (∀ entry ∈ store.entries, entry.slug ≠ candidate) →
      ∀ fault, (store.resolve candidate now tag).1 ≠ .error (.store fault) := by
  intro h
  refine h (Identifier.text 1) "t1" "\x00vip" (Store.blank.migrate "t0").2 (intact_blank "t0")
    ⟨1, rfl⟩ (by rintro entry ⟨⟩) (.checkFailed (.notEmpty "tag")) ?_
  decide +kernel

end TagLedger
