import TagLedger.Proofs.Store.Ingestion
import TagLedger.Proofs.Store.Overwrite

/-!
# Reloading an export

A document that was accepted names the id that it is stored under, also if it was given that id as
a fresh identifier.  So what a scan returns can be written again: each document lands on its own
row, no identifier is drawn for it, and nothing of the row changes but the time of its last update.
-/

namespace TagLedger

variable {collection : Collection} {now : String}

/-! ## Documents under their own ids -/

/-- The schema takes the id, and the document is an object that names it. -/
structure NamesItself (collection : Collection) (version : String × Json) : Prop where
  accepted : notEmpty version.1 = true
  named : ∃ fields, version.2 = .object fields ∧ documentId collection fields = some version.1

theorem exists_named_identify {candidate : String} (hcandidate : IsIdentifier candidate)
    (fields : List (String × Json)) :
    ∃ stored, (identify collection candidate fields).2 = .object stored ∧
      documentId collection stored = some (identify collection candidate fields).1 := by
  unfold identify
  cases hid : documentId collection fields with
  | some id => exact ⟨fields, rfl, hid⟩
  | none => exact ⟨_, rfl, documentId_setField hcandidate fields⟩

/-- Documents that name their ids are written as they are, whatever identifiers could be drawn. -/
theorem identified_of_namesItself {versions : List (String × Json)}
    (h : ∀ version ∈ versions, NamesItself collection version) (candidates : Nat → String) :
    identified collection candidates (versions.map Prod.snd) = versions := by
  have hversion : ∀ item ∈ versions.zipIdx,
      identify collection (candidates item.2) (item.1.2.object?.getD []) = item.1 := by
    intro item hitem
    obtain ⟨fields, hfields, hid⟩ := (h item.1 (List.fst_mem_of_mem_zipIdx hitem)).named
    obtain ⟨⟨id, document⟩, index⟩ := item
    obtain rfl : document = .object fields := hfields
    simp only [Json.object?, Option.getD_some, identify, hid]
  calc identified collection candidates (versions.map Prod.snd)
      = versions.zipIdx.map fun item =>
          identify collection (candidates item.2) (item.1.2.object?.getD []) := by
        rw [identified, List.zipIdx_map, List.map_map]
        rfl
    _ = versions.zipIdx.map Prod.fst := List.map_congr_left hversion
    _ = versions := List.zipIdx_map_fst 0 versions

namespace Store

theorem accept_eq_ok {store after : Store} {batch : Batch} (h : store.accept batch = .ok after) :
    ∃ ids, store.upsertDocuments batch.candidates batch.now batch.collection batch.documents =
      (.ok ids, after) := by
  unfold accept at h
  split at h
  · next ids written hwritten =>
      cases h
      exact ⟨ids, hwritten⟩
  · cases h

theorem namesItself_of_accept {store after : Store} {batch : Batch}
    (hcandidates : ∀ index, IsIdentifier (batch.candidates index))
    (h : store.accept batch = .ok after) :
    (∀ version ∈ batch.versions collection, NamesItself collection version) ∧
      after.refusal = store.refusal := by
  obtain ⟨ids, haccepted⟩ := accept_eq_ok h
  obtain ⟨hobjects, -, -, table, written, -, hwritten, rfl⟩ :=
    upsertDocuments_eq_ok_iff.mp haccepted
  refine ⟨fun version hversion => ?_, refusal_withDocuments store _ written⟩
  unfold Batch.versions at hversion
  split at hversion
  · next hsame =>
      subst hsame
      obtain ⟨fields, index, -, rfl⟩ := (mem_identified_iff hobjects).mp hversion
      exact ⟨notEmpty_of_writeDocuments hwritten _ (List.mem_map_of_mem hversion),
        exists_named_identify (hcandidates index) fields⟩
  · cases hversion

theorem namesItself_of_ingest {store after : Store} {batches : List Batch}
    (hcandidates : ∀ batch ∈ batches, ∀ index, IsIdentifier (batch.candidates index))
    (h : store.ingest batches = .ok after) :
    (∀ version ∈ writtenVersions collection batches, NamesItself collection version) ∧
      after.refusal = store.refusal := by
  induction batches generalizing store with
  | nil =>
      cases h
      exact ⟨fun version hversion => (List.not_mem_nil hversion).elim, rfl⟩
  | cons batch rest ih =>
      obtain ⟨hbatch, hrest⟩ := List.forall_mem_cons.mp hcandidates
      rw [ingest, List.foldlM_cons] at h
      cases haccept : store.accept batch with
      | error error => simp [haccept, bind, Except.bind] at h
      | ok middle =>
          simp only [haccept, bind, Except.bind] at h
          obtain ⟨hfirst, hmiddle⟩ := namesItself_of_accept hbatch haccept
          obtain ⟨hlater, hafter⟩ := ih hrest h
          rw [writtenVersions, List.flatMap_cons]
          exact ⟨List.forall_mem_append.mpr ⟨hfirst, hlater⟩, hafter.trans hmiddle⟩

end Store

/-! ## Rows that are written over by what they hold -/

/-- What lasts of each row: all but the time of its last update. -/
def lasting (table : Table DocumentRow) : Table (Cell × String) :=
  table.map fun row => (row.body, row.createdAt)

theorem bodies_eq_of_lasting_eq {table written : Table DocumentRow}
    (h : lasting written = lasting table) : bodies written = bodies table := by
  have hbodies (table : Table DocumentRow) : bodies table = (lasting table).map Prod.fst := by
    rw [lasting, Table.map_map]
    rfl
  rw [hbodies, hbodies, h]

/-- The rows under their ids hold the texts of these versions. -/
def HoldsAll (table : Table DocumentRow) (versions : List (String × Json)) : Prop :=
  ∀ version ∈ versions, (bodies table).find? version.1 = some (.text version.2.compact)

theorem lasting_writeDocuments {versions : List (String × Json)} {table written : Table DocumentRow}
    (hheld : HoldsAll table versions)
    (h : (versions.map StoredDocument.ofIdentified).foldlM (writeDocument collection now) table =
      .ok written) : lasting written = lasting table := by
  have hrow : ∀ version ∈ versions, (lasting table).find? version.1 =
      some (.text version.2.compact, createdAt table now version.1) := by
    intro version hversion
    have hbody := hheld version hversion
    rw [bodies, Table.find?_map, Option.map_eq_some_iff] at hbody
    obtain ⟨row, hrow, hbody⟩ := hbody
    rw [lasting, Table.find?_map, createdAt, hrow, Option.map_some, Option.map_some,
      Option.getD_some, hbody]
  rw [written_eq_foldl h, lasting, Table.map_foldl_insert, List.foldl_map]
  exact Table.foldl_insert_eq_self Prod.fst (fun version : String × Json =>
    (Cell.text version.2.compact, createdAt table now version.1)) hrow

namespace Store

/-- One call of a reload: it returns the ids of the rows, and no identifier makes a difference. -/
theorem upsertDocuments_of_holdsAll {store : Store} {table : Table DocumentRow}
    {versions : List (String × Json)} (htable : store.documents collection = some table)
    (hrefusal : store.refusal = none)
    (hnames : ∀ version ∈ versions, NamesItself collection version)
    (hheld : HoldsAll table versions) (now : String) :
    ∃ written, lasting written = lasting table ∧ ∀ candidates,
      store.upsertDocuments candidates now collection (versions.map Prod.snd) =
        (.ok (versions.map Prod.fst), store.withDocuments collection written) := by
  have haccepted : ∀ document ∈ versions.map StoredDocument.ofIdentified,
      notEmpty document.id = true := by
    intro document hdocument
    obtain ⟨version, hversion, rfl⟩ := List.mem_map.mp hdocument
    exact (hnames version hversion).accepted
  obtain ⟨written, hwritten⟩ := exists_writeDocuments collection now haccepted table
  refine ⟨written, lasting_writeDocuments hheld hwritten, fun candidates => ?_⟩
  refine upsertDocuments_eq_ok_iff.mpr ⟨fun document hdocument => ?_, fun _ => hrefusal, ?_⟩
  · obtain ⟨version, hversion, rfl⟩ := List.mem_map.mp hdocument
    obtain ⟨fields, hfields, -⟩ := (hnames version hversion).named
    rw [hfields]
    rfl
  · rw [identified_of_namesItself hnames]
    exact ⟨rfl, table, written, htable, hwritten, rfl⟩

end Store

/-! ## Reloads -/

/-- A call that writes exported documents again, as their texts are read. -/
structure Reload where
  exported : List StoredDocument
  /-- The fresh identifiers, for each document one. -/
  candidates : Nat → String
  now : String

/-- What a call writes and when, apart from the identifiers that it could draw. -/
def Reload.written (call : Reload) : List StoredDocument × String :=
  (call.exported, call.now)

namespace Store

/-- Makes the calls one after the other, and keeps what each of them returns. -/
def reload (collection : Collection) : List Reload → Store →
    List (Except LedgerError (List String)) × Store
  | [], store => ([], store)
  | call :: rest, store =>
      let (result, store) := store.upsertDocuments call.candidates call.now collection
        (call.exported.filterMap (Json.read ·.body))
      let (results, store) := reload collection rest store
      (result :: results, store)

theorem withDocuments_self {store : Store} {table : Table DocumentRow}
    (h : store.documents collection = some table) :
    store.withDocuments collection table = store := by
  cases collection with
  | projects => exact congrArg (fun held => { store with projects := held }) h.symm
  | charts => exact congrArg (fun held => { store with charts := held }) h.symm

/-- Exported versions are read back as they were stored. -/
theorem exists_versions {latest : List (String × Json)} (hread : ReadBack latest)
    {exported : List StoredDocument} (h : exported ⊆ latest.map StoredDocument.ofIdentified) :
    ∃ versions, versions ⊆ latest ∧ exported.map (·.id) = versions.map Prod.fst ∧
      exported.filterMap (Json.read ·.body) = versions.map Prod.snd := by
  induction exported with
  | nil => exact ⟨[], List.nil_subset _, rfl, rfl⟩
  | cons document rest ih =>
      obtain ⟨hdocument, hrest⟩ := List.cons_subset.mp h
      obtain ⟨version, hversion, rfl⟩ := List.mem_map.mp hdocument
      obtain ⟨versions, hversions, hids, hdocuments⟩ := ih hrest
      refine ⟨version :: versions, List.cons_subset.mpr ⟨hversion, hversions⟩, ?_, ?_⟩
      · rw [List.map_cons, List.map_cons, hids]
        rfl
      · have hreads : Json.read (StoredDocument.ofIdentified version).body = some version.2 :=
          hread version hversion
        rw [List.filterMap_cons, hreads, List.map_cons, hdocuments]

theorem reload_of_holdsAll {latest : List (String × Json)} (hread : ReadBack latest)
    (hnames : ∀ version ∈ latest, NamesItself collection version) {reloads : List Reload}
    (hexported : ∀ call ∈ reloads, call.exported ⊆ latest.map StoredDocument.ofIdentified)
    {store : Store} {table : Table DocumentRow} (htable : store.documents collection = some table)
    (hrefusal : store.refusal = none) (hheld : HoldsAll table latest) :
    ∃ written, lasting written = lasting table ∧
      ∀ others : List Reload, others.map Reload.written = reloads.map Reload.written →
        store.reload collection others = (reloads.map fun call => .ok (call.exported.map (·.id)),
          store.withDocuments collection written) := by
  induction reloads generalizing store table with
  | nil =>
      refine ⟨table, rfl, fun others hothers => ?_⟩
      rw [List.map_eq_nil_iff.mp hothers, withDocuments_self htable]
      rfl
  | cons call rest ih =>
      obtain ⟨hcall, hrest⟩ := List.forall_mem_cons.mp hexported
      obtain ⟨versions, hversions, hids, hdocuments⟩ := exists_versions hread hcall
      obtain ⟨middle, hmiddle, hupsert⟩ := upsertDocuments_of_holdsAll htable hrefusal
        (fun version hversion => hnames version (hversions hversion))
        (fun version hversion => hheld version (hversions hversion)) call.now
      obtain ⟨written, hwritten, hlater⟩ := ih hrest
        (documents_withDocuments store collection middle)
        ((refusal_withDocuments store collection middle).trans hrefusal)
        (fun version hversion => bodies_eq_of_lasting_eq hmiddle ▸ hheld version hversion)
      refine ⟨written, hwritten.trans hmiddle, fun others hothers => ?_⟩
      obtain ⟨other, tail, rfl, hother, htail⟩ := List.map_eq_cons_iff.mp hothers
      obtain ⟨hexports, hnow⟩ := Prod.mk.inj hother
      rw [reload, hexports, hnow, hdocuments, hupsert]
      simp only [hlater tail htail, withDocuments_withDocuments, List.map_cons, hids]

end Store

/-- What a scan of a collection returns can be loaded again, in calls that write any of the
documents in any order, each any number of times.  Every call returns the ids of the rows, whatever
identifiers it could draw, and in the end every row has kept its id, its text and its time of
creation and none was added, so that a scan returns the same as before.  That is so whenever the
texts of the documents are read as the documents. -/
theorem export_reloaded {batches : List Batch} {store : Store}
    (hcandidates : ∀ batch ∈ batches, ∀ index, IsIdentifier (batch.candidates index))
    (hingest : (Store.blank.migrate now).2.ingest batches = .ok store)
    (hread : ReadBack (latestVersions collection batches)) :
    ∃ table exported, store.documents collection = some table ∧
      store.scanDocuments collection = .ok exported ∧ exported.map (·.id) = table.keys ∧
      ∀ reloads : List Reload, (∀ call ∈ reloads, call.exported ⊆ exported) →
        ∃ written, lasting written = lasting table ∧
          (store.withDocuments collection written).scanDocuments collection = .ok exported ∧
          ∀ others : List Reload, others.map Reload.written = reloads.map Reload.written →
            store.reload collection others =
              (reloads.map fun call => .ok (call.exported.map (·.id)),
                store.withDocuments collection written) := by
  obtain ⟨hnames, hrefusal⟩ := Store.namesItself_of_ingest hcandidates hingest
  have hlatest := lastWritten_latestVersions collection batches
  have hscan := Store.scanDocuments_of_ingest hingest collection
  obtain ⟨table, htable, hcells⟩ := Store.scanDocuments_eq_ok_iff.mp hscan
  have hkeys : table.keys = (latestVersions collection batches).map Prod.fst := by
    have hids := congrArg (List.map Prod.fst) hcells
    rwa [List.map_map, List.map_map, List.map_map] at hids
  have hnamesLatest : ∀ version ∈ latestVersions collection batches,
      NamesItself collection version := by
    rintro ⟨id, document⟩ hversion
    obtain ⟨before, after, hwritten, -⟩ := (hlatest.last id document).mp hversion
    exact hnames _ (hwritten ▸ List.mem_append_right _ List.mem_cons_self)
  have hheld : HoldsAll table (latestVersions collection batches) := by
    intro version hversion
    refine Table.mem_rows_iff.mp ?_
    have hmem : (StoredDocument.ofIdentified version).cells ∈
        table.rows.map fun row => (row.1, row.2.body) :=
      hcells ▸ List.mem_map_of_mem (List.mem_map_of_mem hversion)
    exact hmem
  refine ⟨table, _, htable, hscan, ?_, fun reloads hreloads => ?_⟩
  · rw [hkeys, List.map_map]
    rfl
  · obtain ⟨written, hlasting, hreload⟩ :=
      Store.reload_of_holdsAll hread hnamesLatest hreloads htable hrefusal hheld
    refine ⟨written, hlasting, Store.scanDocuments_eq_ok_iff.mpr
      ⟨written, store.documents_withDocuments collection written, ?_⟩, hreload⟩
    exact (congrArg Table.rows (bodies_eq_of_lasting_eq hlasting)).trans hcells

/-- The documents that were ingested, one of them under a fresh identifier and one under an id with
blanks around it, are reloaded in two calls, the second of them in the opposite order. -/
theorem ingested_reloaded : ∃ store table exported written,
    (Store.blank.migrate "t0").2.ingest ingested = .ok store ∧
    store.documents .projects = some table ∧ store.scanDocuments .projects = .ok exported ∧
    exported.map (·.id) = [Identifier.sequence 1 1 0, "p1"] ∧
    store.reload .projects [⟨exported, fun _ => "p1", "t4"⟩, ⟨exported.reverse, toString, "t5"⟩] =
      ([.ok [Identifier.sequence 1 1 0, "p1"], .ok ["p1", Identifier.sequence 1 1 0]],
        store.withDocuments .projects written) ∧
    lasting written = lasting table := by
  obtain ⟨store, hingest⟩ : ∃ store, (Store.blank.migrate "t0").2.ingest ingested = .ok store :=
    ⟨_, rfl⟩
  have hcandidates : ∀ batch ∈ ingested, ∀ index, IsIdentifier (batch.candidates index) := by
    intro batch hbatch index
    simp only [ingested, List.mem_cons, List.not_mem_nil, or_false] at hbatch
    rcases hbatch with rfl | rfl | rfl <;> exact ⟨_, rfl⟩
  obtain ⟨table, exported, htable, hscan, hkeys, hreloaded⟩ :=
    export_reloaded hcandidates hingest (readBack_ingested .projects)
  have hids : exported.map (·.id) = [Identifier.sequence 1 1 0, "p1"] := by
    rw [Store.scanDocuments_of_ingest hingest, Except.ok.injEq] at hscan
    rw [← hscan]
    decide +kernel
  obtain ⟨written, hlasting, -, hreload⟩ :=
    hreloaded [⟨exported, fun _ => "p1", "t4"⟩, ⟨exported.reverse, toString, "t5"⟩]
      (List.forall_mem_cons.mpr ⟨List.Subset.refl _, List.forall_mem_singleton.mpr
        (List.reverse_subset.mpr (List.Subset.refl _))⟩)
  refine ⟨store, table, exported, written, hingest, htable, hscan, hids, ?_, hlasting⟩
  rw [hreload _ rfl, List.map_cons, List.map_singleton, List.map_reverse, hids]
  rfl

end TagLedger
