import TagLedger.Proofs.Json.Reading
import TagLedger.Proofs.Store.Batch

/-!
# The contents of a collection

The batches that were written into a collection tell what it holds: under each id the last document
that was written with that id.  The table has exactly the texts of these documents, and each of them
names the id that it is stored under.
-/

namespace TagLedger

/-- What a batch makes of the documents that a collection holds, if it is accepted. -/
def contentsAfter (collection : Collection) (candidates : Nat → String) (documents : List Json)
    (contents : Table Json) : Except LedgerError (List String) → Table Json
  | .ok _ => (identified collection candidates documents).foldl
      (fun contents entry => contents.insert entry.1 entry.2) contents
  | .error _ => contents

/-- The table of a collection that was created and since then written by batches, and the documents
that they have left there.  Each batch found the table in a store whose other tables may hold
anything. -/
inductive Written (collection : Collection) : Option (Table DocumentRow) → Table Json → Prop
  | created : Written collection (some .empty) .empty
  | batch {store : Store} {contents : Table Json} {candidates : Nat → String} {documents : List Json}
      (now : String) (h : Written collection (store.documents collection) contents)
      (hordered : ∀ document ∈ documents, document.Ordered)
      (hcandidates : ∀ index, IsIdentifier (candidates index)) :
      Written collection
        ((store.upsertDocuments candidates now collection documents).2.documents collection)
        (contentsAfter collection candidates documents contents
          (store.upsertDocuments candidates now collection documents).1)

/-- A document as it is held under an id: an object that names this id. -/
structure Names (collection : Collection) (id : String) (document : Json) : Prop where
  ordered : document.Ordered
  named : ∃ fields, document = .object fields ∧ documentId collection fields = some id

/-- The table holds the texts of the contents, which name their ids. -/
structure Recorded (collection : Collection) (table : Table DocumentRow) (contents : Table Json) :
    Prop where
  texts : bodies table = contents.map fun document => .text document.compact
  names : ∀ id document, contents.find? id = some document → Names collection id document

variable {collection : Collection}

/-! ## One document -/

theorem Json.fieldsOrdered_iff {fields : List (String × Json)} :
    Json.FieldsOrdered fields ↔ ∀ field ∈ fields, field.2.Ordered := by
  induction fields with
  | nil => simp [Json.FieldsOrdered]
  | cons field fields ih => simp [Json.FieldsOrdered, ih]

theorem Json.ordered_setField {name : String} {value : Json} {fields : List (String × Json)}
    (hvalue : value.Ordered) (h : (Json.object fields).Ordered) :
    (Json.object (Json.setField name value fields)).Ordered := by
  obtain ⟨hsorted, hfields⟩ := h
  refine ⟨?_, Json.fieldsOrdered_iff.mpr fun field hfield => ?_⟩
  · rw [List.pairwise_map] at hsorted ⊢
    exact Table.pairwise_insertRow name value hsorted
  · rcases Table.mem_insertRow_of hfield with rfl | hkept
    · exact hvalue
    · exact Json.fieldsOrdered_iff.mp hfields field hkept

theorem documentId_setField {candidate : String} (hcandidate : IsIdentifier candidate)
    (fields : List (String × Json)) :
    documentId collection (Json.setField collection.firstIdField (.string candidate) fields) =
      some candidate := by
  have hfields : ∃ others, collection.idFields = collection.firstIdField :: others := by
    cases collection <;> exact ⟨_, rfl⟩
  obtain ⟨others, hothers⟩ := hfields
  have husable : usableId (.string candidate) = some candidate := by
    simp [usableId, Text.trim_eq_self hcandidate.solid.trimmed, hcandidate.solid.nonempty]
  rw [documentId, hothers, List.findSome?_cons, Json.setField, Table.lookup_insertRow_self,
    Option.bind_some, husable]

theorem names_identify {candidate : String} (hcandidate : IsIdentifier candidate)
    {fields : List (String × Json)} (hordered : (Json.object fields).Ordered) :
    Names collection (identify collection candidate fields).1
      (identify collection candidate fields).2 := by
  unfold identify
  cases hid : documentId collection fields with
  | some id => exact ⟨hordered, fields, rfl, hid⟩
  | none =>
      exact ⟨Json.ordered_setField trivial hordered, _, rfl, documentId_setField hcandidate fields⟩

/-! ## Batches -/

theorem names_of_mem_identified {candidates : Nat → String} {documents : List Json}
    (hobjects : ∀ document ∈ documents, document.object?.isSome = true)
    (hordered : ∀ document ∈ documents, document.Ordered)
    (hcandidates : ∀ index, IsIdentifier (candidates index)) {entry : String × Json}
    (hentry : entry ∈ identified collection candidates documents) :
    Names collection entry.1 entry.2 := by
  obtain ⟨fields, index, hindex, rfl⟩ := (mem_identified_iff hobjects).mp hentry
  exact names_identify (hcandidates index) (hordered _ (List.mem_of_getElem? hindex))

theorem objects_of_mapM_prepareDocument {candidates : Nat → String} {documents : List Json}
    {prepared : List StoredDocument}
    (h : documents.zipIdx.mapM (prepareDocument collection candidates) = .ok prepared) :
    ∀ document ∈ documents, document.object?.isSome = true := by
  cases hmisfit : documents.findIdx? (·.object?.isNone) with
  | none => exact objects_of_findIdx? hmisfit
  | some index => cases (Store.mapM_prepareDocument_of_findIdx? 0 hmisfit).symm.trans h

/-- A batch that is accepted has only objects and is written under its ids; any other changes
nothing. -/
theorem Store.upsertDocuments_written (candidates : Nat → String) (now : String)
    (collection : Collection) (documents : List Json) (store : Store) :
    (∃ error, store.upsertDocuments candidates now collection documents = (.error error, store)) ∨
      ∃ table written, (∀ document ∈ documents, document.object?.isSome = true) ∧
        store.documents collection = some table ∧
        ((identified collection candidates documents).map StoredDocument.ofIdentified).foldlM
          (writeDocument collection now) table = .ok written ∧
        store.upsertDocuments candidates now collection documents =
          (.ok ((identified collection candidates documents).map (·.1)),
            store.withDocuments collection written) := by
  rcases store.upsertDocuments_cases candidates now collection documents with
    ⟨error, hrefused⟩ | ⟨prepared, table, written, hprepared, htable, hwritten, haccepted⟩
  · exact Or.inl ⟨error, hrefused⟩
  · have hobjects := objects_of_mapM_prepareDocument hprepared
    rw [mapM_prepareDocument hobjects] at hprepared
    cases hprepared
    rw [List.map_map] at haccepted
    exact Or.inr ⟨table, written, hobjects, htable, hwritten, haccepted⟩

theorem bodies_batch {table written : Table DocumentRow} {contents : Table Json}
    (h : bodies table = contents.map fun document => .text document.compact) {now : String}
    {entries : List (String × Json)}
    (hwritten : (entries.map StoredDocument.ofIdentified).foldlM (writeDocument collection now)
      table = .ok written) :
    bodies written = (entries.foldl (fun contents entry => contents.insert entry.1 entry.2)
      contents).map fun document => .text document.compact := by
  rw [bodies_of_writeDocuments hwritten, h, Table.map_foldl_insert]

theorem Recorded.batch {table written : Table DocumentRow} {contents : Table Json}
    (h : Recorded collection table contents) {now : String} {entries : List (String × Json)}
    (hentries : ∀ entry ∈ entries, Names collection entry.1 entry.2)
    (hwritten : (entries.map StoredDocument.ofIdentified).foldlM (writeDocument collection now)
      table = .ok written) :
    Recorded collection written
      (entries.foldl (fun contents entry => contents.insert entry.1 entry.2) contents) where
  texts := bodies_batch h.texts hwritten
  names id document hdocument := by
    rw [Table.find?_foldl_insert_eq_lookup_reverse, Option.or_eq_some_iff] at hdocument
    rcases hdocument with hentry | ⟨-, hheld⟩
    · obtain ⟨before, after, hreverse, -⟩ := List.lookup_eq_some_iff.mp hentry
      exact hentries (id, document) (List.mem_reverse.mp (by simp [hreverse]))
    · exact h.names id document hheld

theorem Written.exists_recorded {held : Option (Table DocumentRow)} {contents : Table Json}
    (h : Written collection held contents) :
    ∃ table, held = some table ∧ Recorded collection table contents := by
  induction h with
  | created => exact ⟨.empty, rfl, rfl, fun id document hdocument => by cases hdocument⟩
  | @batch store contents candidates documents now _ hordered hcandidates ih =>
      obtain ⟨table, hheld, hrecorded⟩ := ih
      rcases store.upsertDocuments_written candidates now collection documents with
        ⟨error, hrefused⟩ | ⟨found, written, hobjects, hfound, hwritten, haccepted⟩
      · rw [hrefused]
        exact ⟨table, hheld, hrecorded⟩
      · rw [haccepted]
        obtain rfl := Option.some.inj (hfound.symm.trans hheld)
        refine ⟨written, store.documents_withDocuments collection written, ?_⟩
        exact hrecorded.batch
          (fun entry => names_of_mem_identified hobjects hordered hcandidates) hwritten

/-- A scan finds the documents whose texts the table holds. -/
theorem Store.scanDocuments_of_bodies {store : Store} {table : Table DocumentRow}
    {contents : Table Json} (htable : store.documents collection = some table)
    (htexts : bodies table = contents.map fun document => .text document.compact) :
    store.scanDocuments collection = .ok (contents.rows.map StoredDocument.ofIdentified) := by
  refine Store.scanDocuments_eq_ok_iff.mpr ⟨table, htable, ?_⟩
  rw [List.map_map]
  exact congrArg Table.rows htexts

/-- The documents that a scan of the collection finds: the texts of its contents. -/
theorem Written.scanDocuments {store : Store} {contents : Table Json}
    (h : Written collection (store.documents collection) contents) :
    store.scanDocuments collection =
      .ok (contents.rows.map StoredDocument.ofIdentified) := by
  obtain ⟨table, htable, hrecorded⟩ := h.exists_recorded
  exact Store.scanDocuments_of_bodies htable hrecorded.texts

end TagLedger
