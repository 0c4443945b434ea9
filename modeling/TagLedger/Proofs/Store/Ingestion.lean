import TagLedger.Proofs.Store.References
import TagLedger.Proofs.Tag.Usage
import TagLedger.Store.Migration
import TagLedger.Store.Usage

/-!
# What is read after batches were written

Batches of documents leave the last written version of each document, and the scans read exactly
these versions back: the usage scan counts what they represent, and the scan for references finds
the hits in them, in the order of their ids.  All that is assumed is that the text of such a version
is read as the version.
-/

namespace TagLedger

open Reference

structure Batch where
  collection : Collection
  documents : List Json
  /-- The fresh identifiers, for each document one. -/
  candidates : Nat → String
  now : String

namespace Batch

/-- What the batch writes into the collection: documents with their ids. -/
def versions (collection : Collection) (batch : Batch) : List (String × Json) :=
  if batch.collection = collection then
    identified batch.collection batch.candidates batch.documents
  else []

end Batch

/-- Everything that was written into the collection, in the order of writing. -/
def writtenVersions (collection : Collection) (batches : List Batch) : List (String × Json) :=
  batches.flatMap (Batch.versions collection)

/-- For each id the version that was written last, in the order of the ids. -/
def latestVersions (collection : Collection) (batches : List Batch) : List (String × Json) :=
  (Table.ofList (writtenVersions collection batches)).rows

/-- These are the last of the versions, one for each id and in the order of the ids. -/
structure LastWritten (versions latest : List (String × Json)) : Prop where
  ascending : latest.Pairwise fun earlier later => earlier.1 < later.1
  last : ∀ id document, (id, document) ∈ latest ↔ ∃ before after,
    versions = before ++ (id, document) :: after ∧ ∀ version ∈ after, version.1 ≠ id

theorem lastWritten_latestVersions (collection : Collection) (batches : List Batch) :
    LastWritten (writtenVersions collection batches) (latestVersions collection batches) where
  ascending := Table.ordered _
  last id document := by
    rw [latestVersions, Table.mem_rows_iff, Table.ofList,
      Table.find?_foldl_insert_eq_lookup_reverse, Table.find?_empty, Option.or_none,
      List.lookup_eq_some_iff]
    constructor
    · rintro ⟨after, before, hreverse, hafter⟩
      refine ⟨before.reverse, after.reverse, ?_, fun version hversion heq => ?_⟩
      · simpa using congrArg List.reverse hreverse
      · simpa [heq] using hafter version (List.mem_reverse.mp hversion)
    · rintro ⟨before, after, hversions, hafter⟩
      refine ⟨after.reverse, before.reverse, by simp [hversions], fun version hversion => ?_⟩
      exact bne_iff_ne.mpr (Ne.symm (hafter version (List.mem_reverse.mp hversion)))

namespace Store

/-- Writes a batch, which must be accepted. -/
def accept (store : Store) (batch : Batch) : Except LedgerError Store :=
  match store.upsertDocuments batch.candidates batch.now batch.collection batch.documents with
  | (.ok _, after) => .ok after
  | (.error error, _) => .error error

def ingest (store : Store) (batches : List Batch) : Except LedgerError Store :=
  batches.foldlM accept store

/-- The collection holds the texts of these documents. -/
def Holds (store : Store) (collection : Collection) (contents : Table Json) : Prop :=
  ∃ table, store.documents collection = some table ∧
    bodies table = contents.map fun document => .text document.compact

theorem holds_migrate (now : String) (collection : Collection) :
    (blank.migrate now).2.Holds collection .empty := by
  cases collection <;> exact ⟨.empty, rfl, rfl⟩

theorem Holds.accept {store after : Store} {collection : Collection} {contents : Table Json}
    (h : store.Holds collection contents) {batch : Batch}
    (haccept : store.accept batch = .ok after) :
    after.Holds collection ((batch.versions collection).foldl
      (fun contents version => contents.insert version.1 version.2) contents) := by
  unfold Store.accept at haccept
  rcases store.upsertDocuments_written batch.candidates batch.now batch.collection batch.documents
    with ⟨error, hrefused⟩ | ⟨found, written, -, hfound, hwritten, haccepted⟩
  · rw [hrefused] at haccept
    cases haccept
  · rw [haccepted] at haccept
    cases haccept
    unfold Batch.versions
    split
    · next hsame =>
        subst hsame
        obtain ⟨table, htable, htexts⟩ := h
        obtain rfl := Option.some.inj (hfound.symm.trans htable)
        exact ⟨written, store.documents_withDocuments _ written, bodies_batch htexts hwritten⟩
    · next hother =>
        obtain ⟨table, htable, htexts⟩ := h
        have hkept := store.documents_withDocuments_of_ne (Ne.symm hother) written
        exact ⟨table, hkept.trans htable, htexts⟩

theorem Holds.ingest {store after : Store} {collection : Collection} {contents : Table Json}
    (h : store.Holds collection contents) {batches : List Batch}
    (hingest : store.ingest batches = .ok after) :
    after.Holds collection ((writtenVersions collection batches).foldl
      (fun contents version => contents.insert version.1 version.2) contents) := by
  induction batches generalizing store contents with
  | nil =>
      cases hingest
      exact h
  | cons batch rest ih =>
      rw [Store.ingest, List.foldlM_cons] at hingest
      cases haccept : store.accept batch with
      | error error => simp [haccept, bind, Except.bind] at hingest
      | ok middle =>
          simp only [haccept, bind, Except.bind] at hingest
          rw [writtenVersions, List.flatMap_cons, List.foldl_append]
          exact ih (h.accept haccept) hingest

theorem scanDocuments_of_ingest {batches : List Batch} {now : String} {store : Store}
    (h : (blank.migrate now).2.ingest batches = .ok store) (collection : Collection) :
    store.scanDocuments collection =
      .ok ((latestVersions collection batches).map StoredDocument.ofIdentified) := by
  obtain ⟨table, htable, htexts⟩ := (holds_migrate now collection).ingest h
  exact scanDocuments_of_bodies htable htexts

end Store

/-! ## Scans of what is read back -/

/-- The text of each version is read as the version. -/
def ReadBack (versions : List (String × Json)) : Prop :=
  ∀ version ∈ versions, Json.read version.2.compact = some version.2

/-- So it is unless a version is too deep or has a number that changes in its text. -/
theorem readBack_iff {versions : List (String × Json)}
    (hordered : ∀ version ∈ versions, version.2.Ordered) : ReadBack versions ↔
      ∀ version ∈ versions, version.2.depth ≤ Json.deepest ∧
        version.2.reread = some version.2 := by
  refine forall₂_congr fun version hversion => ?_
  rw [Json.read_compact (hordered version hversion), Option.ite_none_right_eq_some]

theorem Tag.UsageScan.foldl_addStored {projects : List (String × Json)} (h : ReadBack projects) :
    (projects.map StoredDocument.ofIdentified).foldl addStored empty =
      { counts := (ofDocuments (projects.map Prod.snd)).counts
        scanned := projects.length
        skipped := 0 } := by
  induction projects using List.reverseRecOn with
  | nil => rfl
  | append_singleton projects project ih =>
      have hproject := h project (List.mem_append_right _ (List.mem_singleton_self _))
      have hbefore := ih fun other hother => h other (List.mem_append_left _ hother)
      rw [List.map_append, List.foldl_append, hbefore]
      simp [addStored, StoredDocument.ofIdentified, hproject, ofDocuments, addDocument]

/-- The elements of a chart definition, if it has an array of them. -/
def elements? (definition : Json) : Option (List Json) :=
  (definition.field? "elements").bind Json.array?

theorem isNone_scanDefinition (definition : Json) (storedId key : String) :
    (scanDefinition definition storedId key).isNone = (elements? definition).isNone := by
  unfold scanDefinition elements?
  cases definition.field? "elements" with
  | none => rfl
  | some value => cases value <;> rfl

theorem ReferenceScan.ofDocuments_of_readBack (key : String) {charts : List (String × Json)}
    (h : ReadBack charts) : ofDocuments key (charts.map StoredDocument.ofIdentified) =
      { hits := (charts.flatMap fun chart => hitsOf chart.2 chart.1 key).eraseDupsBy
          (·.elementId == ·.elementId)
        scanned := charts.length
        skipped := charts.countP fun chart => (elements? chart.2).isNone } := by
  have hfound : (charts.map StoredDocument.ofIdentified).map (storedHits key) =
      charts.map fun chart => scanDefinition chart.2 chart.1 key := by
    rw [List.map_map]
    refine List.map_congr_left fun chart hchart => ?_
    simp only [Function.comp_apply, storedHits, StoredDocument.ofIdentified, h chart hchart,
      Option.bind_some]
  simp only [ofDocuments, hfound, distinctHits_eq_eraseDupsBy, List.flatMap_map, List.length_map,
    List.filter_map, List.countP_eq_length_filter, Function.comp_def, isNone_scanDefinition]
  rfl

/-- Batches that are all accepted leave the last written version of each document, and the scans
find exactly these versions: the usage scan skips nothing and counts what they represent, and the
scan for references finds their hits in the order of the ids, without those on an element that was
found before, and skips those that have no array of elements. -/
theorem scans_of_ingest {batches : List Batch} {now : String} {store : Store}
    (hingest : (Store.blank.migrate now).2.ingest batches = .ok store)
    (hread : ∀ collection, ReadBack (latestVersions collection batches)) :
    (∀ collection,
      LastWritten (writtenVersions collection batches) (latestVersions collection batches)) ∧
    store.scanUsage = .ok
      { counts :=
          (Tag.UsageScan.ofDocuments ((latestVersions .projects batches).map Prod.snd)).counts
        scanned := (latestVersions .projects batches).length
        skipped := 0 } ∧
    ∀ key, store.scanReferences key = .ok
      { hits := ((latestVersions .charts batches).flatMap fun chart =>
          hitsOf chart.2 chart.1 key).eraseDupsBy (·.elementId == ·.elementId)
        scanned := (latestVersions .charts batches).length
        skipped :=
          (latestVersions .charts batches).countP fun chart => (elements? chart.2).isNone } := by
  refine ⟨fun collection => lastWritten_latestVersions collection batches, ?_, fun key => ?_⟩
  · rw [Store.scanUsage, Store.scanDocuments_of_ingest hingest .projects]
    exact congrArg Except.ok (Tag.UsageScan.foldl_addStored (hread .projects))
  · rw [Store.scanReferences, Store.scanDocuments_of_ingest hingest .charts]
    exact congrArg Except.ok (ReferenceScan.ofDocuments_of_readBack key (hread .charts))

def logoChart : Json :=
  .object [("chartId", .number (.integer 7)),
    ("elements", .array [.object [("formula", .string "[MEDIA:logo]")]])]

def emptyChart : Json :=
  .object [("chartId", .string "old"), ("elements", .string "none")]

/-- A project without an id, one that is replaced under its id without the blanks around it, a chart
whose id is a number, and one without an array of elements. -/
def ingested : List Batch :=
  [⟨.projects, [.object [("hashtags", .array [.string "VIP"])],
      .object [("_id", .string " p1 "), ("hashtags", .array [.string "gone"])]],
      Identifier.sequence 1 1, "t1"⟩,
    ⟨.charts, [logoChart, emptyChart], Identifier.sequence 2 1, "t2"⟩,
    ⟨.projects, [.object [("_id", .string "p1"), ("hashtags", .array [.string " vip"])]],
      Identifier.sequence 3 1, "t3"⟩]

theorem readBack_ingested : ∀ collection, ReadBack (latestVersions collection ingested) := by
  have hprojects : latestVersions .projects ingested =
      [(Identifier.sequence 1 1 0, .object [("_id", .string (Identifier.sequence 1 1 0)),
          ("hashtags", .array [.string "VIP"])]),
        ("p1", .object [("_id", .string "p1"), ("hashtags", .array [.string " vip"])])] := by rfl
  have hcharts : latestVersions .charts ingested = [("7", logoChart), ("old", emptyChart)] := by rfl
  have hseven : (Json.Number.integer 7).reread = some (.integer 7) := by decide +kernel
  rintro (_ | _)
  · rw [hprojects, readBack_iff]
    · simp [Json.depth, Json.fieldsDepth, Json.itemsDepth, Json.deepest, Json.reread,
        Json.rereadFields, Json.rereadItems]
    · have hnames : ["_id", "hashtags"].Pairwise (· < ·) := by decide
      refine List.forall_mem_cons.mpr ⟨?_, List.forall_mem_singleton.mpr ?_⟩
      · exact ⟨hnames, trivial, ⟨trivial, trivial⟩, trivial⟩
      · exact ⟨hnames, trivial, ⟨trivial, trivial⟩, trivial⟩
  · rw [hcharts, readBack_iff]
    · simp [logoChart, emptyChart, Json.depth, Json.fieldsDepth, Json.itemsDepth, Json.deepest,
        Json.reread, Json.rereadFields, Json.rereadItems, hseven]
    · have hnames : ["chartId", "elements"].Pairwise (· < ·) := by decide
      refine List.forall_mem_cons.mpr ⟨?_, List.forall_mem_singleton.mpr ?_⟩
      · exact ⟨hnames, trivial, ⟨⟨List.pairwise_singleton .., trivial, trivial⟩, trivial⟩, trivial⟩
      · exact ⟨hnames, trivial, trivial, trivial⟩

theorem ingested_scans : ∃ store, (Store.blank.migrate "t0").2.ingest ingested = .ok store ∧
    (∃ scan, store.scanUsage = .ok scan ∧ scan.count "vip" = 2 ∧ scan.count "gone" = 0 ∧
      scan.scanned = 2 ∧ scan.skipped = 0) ∧
    ∃ scan, store.scanReferences "logo" = .ok scan ∧
      scan.hits.map (·.elementId) = ["7#0"] ∧ scan.scanned = 2 ∧ scan.skipped = 1 := by
  obtain ⟨store, hingest⟩ : ∃ store, (Store.blank.migrate "t0").2.ingest ingested = .ok store :=
    ⟨_, rfl⟩
  obtain ⟨-, husage, hreferences⟩ := scans_of_ingest hingest readBack_ingested
  refine ⟨store, hingest, ⟨_, husage, ?_, ?_, rfl, rfl⟩, _, hreferences "logo", ?_, rfl, ?_⟩
  · decide +kernel
  · decide +kernel
  · decide +kernel
  · decide +kernel

end TagLedger
