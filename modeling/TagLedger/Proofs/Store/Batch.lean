import TagLedger.Proofs.Json.Numeral
import TagLedger.Proofs.Store.Atomicity
import TagLedger.Proofs.Store.Loading

/-!
# Batches of documents

A batch of objects is written under the ids that its documents name, or else under their fresh
identifiers.  It fails only for an id that the schema refuses; once written, each of its ids holds the
text of the last document with that id, and every other id what it held before.
-/

namespace TagLedger

/-! ## Ids -/

theorem exists_of_documentId {collection : Collection} {fields : List (String × Json)} {id : String}
    (h : documentId collection fields = some id) :
    ∃ name ∈ collection.idFields, ∃ value, fields.lookup name = some value ∧
      usableId value = some id := by
  obtain ⟨name, hname, hvalue⟩ := List.exists_of_findSome?_eq_some h
  obtain ⟨value, hlookup, husable⟩ := Option.bind_eq_some_iff.mp hvalue
  exact ⟨name, hname, value, hlookup, husable⟩

theorem trimmed_of_usableId {value : Json} {id : String} (h : usableId value = some id) :
    id ≠ "" ∧ Text.Trimmed id.toList := by
  cases value with
  | string text =>
      simp only [usableId] at h
      split at h
      · cases h
      · next hempty =>
          obtain rfl := Option.some.inj h
          exact ⟨by simpa using hempty, Text.trimmed_trim text⟩
  | number value =>
      obtain rfl := Option.some.inj h
      exact ⟨(Json.solid_toText value).nonempty, (Json.solid_toText value).trimmed⟩
  | _ => cases h

theorem trimmed_of_documentId {collection : Collection} {fields : List (String × Json)}
    {id : String} (h : documentId collection fields = some id) :
    id ≠ "" ∧ Text.Trimmed id.toList := by
  obtain ⟨name, -, value, -, husable⟩ := exists_of_documentId h
  exact trimmed_of_usableId husable

/-- The ids that the documents of a batch name. -/
def namedIds (collection : Collection) (documents : List Json) : List String :=
  documents.filterMap fun document => document.object?.bind (documentId collection)

/-- The documents of a batch, each with its id and, if that is a fresh identifier, with the
identifier in it. -/
def identified (collection : Collection) (candidates : Nat → String) (documents : List Json) :
    List (String × Json) :=
  documents.zipIdx.map fun document =>
    identify collection (candidates document.2) (document.1.object?.getD [])

theorem identify_fst (collection : Collection) (candidate : String)
    (fields : List (String × Json)) :
    (identify collection candidate fields).1 = (documentId collection fields).getD candidate := by
  unfold identify
  cases documentId collection fields <;> rfl

variable {collection : Collection} {candidates : Nat → String} {documents : List Json}

theorem objects_of_findIdx? (h : documents.findIdx? (·.object?.isNone) = none) :
    ∀ document ∈ documents, document.object?.isSome = true := by
  simpa [Option.isSome_iff_ne_none] using h

theorem mem_identified_iff {entry : String × Json} (hobjects : ∀ document ∈ documents,
    document.object?.isSome = true) :
    entry ∈ identified collection candidates documents ↔ ∃ fields index,
      documents[index]? = some (.object fields) ∧
      identify collection (candidates index) fields = entry := by
  rw [identified, List.mem_map]
  constructor
  · rintro ⟨⟨document, index⟩, hmem, rfl⟩
    have hindex := List.mem_zipIdx_iff_getElem?.mp hmem
    have hobject := hobjects document (List.mem_of_getElem? hindex)
    cases document with
    | object fields => exact ⟨fields, index, hindex, rfl⟩
    | _ => cases hobject
  · rintro ⟨fields, index, hindex, rfl⟩
    exact ⟨(.object fields, index), List.mem_zipIdx_iff_getElem?.mpr hindex, rfl⟩

theorem id_of_mem_identified {entry : String × Json}
    (hobjects : ∀ document ∈ documents, document.object?.isSome = true)
    (h : entry ∈ identified collection candidates documents) :
    entry.1 ∈ namedIds collection documents ∨ ∃ index, entry.1 = candidates index := by
  obtain ⟨fields, index, hindex, rfl⟩ := (mem_identified_iff hobjects).mp h
  rw [identify_fst]
  cases hid : documentId collection fields with
  | none => exact Or.inr ⟨index, rfl⟩
  | some id =>
      exact Or.inl (List.mem_filterMap.mpr ⟨_, List.mem_of_getElem? hindex, hid⟩)

theorem exists_of_mem_namedIds {id : String}
    (hobjects : ∀ document ∈ documents, document.object?.isSome = true)
    (h : id ∈ namedIds collection documents) :
    ∃ document, (id, document) ∈ identified collection candidates documents := by
  obtain ⟨document, hmem, hid⟩ := List.mem_filterMap.mp h
  obtain ⟨index, hindex⟩ := List.mem_iff_getElem?.mp hmem
  obtain ⟨fields, hfields, hid⟩ := Option.bind_eq_some_iff.mp hid
  cases document with
  | object held =>
      obtain rfl := Option.some.inj hfields
      refine ⟨_, (mem_identified_iff hobjects).mpr ⟨held, index, hindex, Prod.ext ?_ rfl⟩⟩
      rw [identify_fst, hid]
      rfl
  | _ => cases hfields

/-! ## Writing -/

def StoredDocument.ofIdentified (entry : String × Json) : StoredDocument :=
  ⟨entry.1, entry.2.compact⟩

theorem mapM_prepareDocument (hobjects : ∀ document ∈ documents, document.object?.isSome = true) :
    documents.zipIdx.mapM (prepareDocument collection candidates) =
      .ok ((identified collection candidates documents).map .ofIdentified) := by
  have hitems (items : List (Json × Nat)) (h : ∀ item ∈ items, item.1.object?.isSome = true) :
      items.mapM (prepareDocument collection candidates) = .ok (items.map fun item =>
        .ofIdentified (identify collection (candidates item.2) (item.1.object?.getD []))) := by
    induction items with
    | nil => rfl
    | cons item rest ih =>
        obtain ⟨hitem, hrest⟩ := List.forall_mem_cons.mp h
        obtain ⟨document, index⟩ := item
        rw [List.mapM_cons, ih hrest]
        cases document with
        | object fields => rfl
        | _ => cases hitem
  rw [identified, List.map_map]
  exact hitems _ fun item hitem => hobjects item.1 (List.fst_mem_of_mem_zipIdx hitem)

/-- What a table holds under each id. -/
def bodies (table : Table DocumentRow) : Table Cell :=
  table.map (·.body)

theorem bodies_of_writeDocument {now : String} {document : StoredDocument}
    {table written : Table DocumentRow}
    (h : writeDocument collection now table document = .ok written) :
    bodies written = (bodies table).insert document.id (.text document.body) := by
  unfold writeDocument at h
  split at h
  · cases h
  · cases h
    exact Table.map_insert _ _ _ _

theorem bodies_of_writeDocuments {now : String} {entries : List (String × Json)}
    {table written : Table DocumentRow}
    (h : (entries.map StoredDocument.ofIdentified).foldlM (writeDocument collection now) table =
      .ok written) :
    bodies written = entries.foldl
      (fun bodies entry => bodies.insert entry.1 (.text entry.2.compact)) (bodies table) := by
  induction entries generalizing table with
  | nil =>
      cases h
      rfl
  | cons entry rest ih =>
      rw [List.map_cons, List.foldlM_cons] at h
      cases hfirst : writeDocument collection now table (.ofIdentified entry) with
      | error fault => simp [hfirst, bind, Except.bind] at h
      | ok middle =>
          simp only [hfirst, bind, Except.bind] at h
          rw [ih h, bodies_of_writeDocument hfirst]
          rfl

theorem exists_writeDocuments (collection : Collection) (now : String)
    {batch : List StoredDocument}
    (hempty : ∀ document ∈ batch, notEmpty document.id = true) (table : Table DocumentRow) :
    ∃ written, batch.foldlM (writeDocument collection now) table = .ok written := by
  induction batch generalizing table with
  | nil => exact ⟨table, rfl⟩
  | cons document rest ih =>
      obtain ⟨hdocument, hrest⟩ := List.forall_mem_cons.mp hempty
      rw [List.foldlM_cons, writeDocument, requireNotEmpty, if_pos hdocument]
      exact ih hrest _

theorem writeDocuments_of_refused {now : String} {batch : List StoredDocument}
    {document : StoredDocument} (hmem : document ∈ batch) (hempty : notEmpty document.id = false)
    (table : Table DocumentRow) :
    batch.foldlM (writeDocument collection now) table =
      .error (.checkFailed (.notEmpty collection.idColumn)) := by
  induction batch generalizing table with
  | nil => cases hmem
  | cons first rest ih =>
      rw [List.foldlM_cons, writeDocument, requireNotEmpty]
      cases hfirst : notEmpty first.id with
      | false => rfl
      | true =>
          rcases List.mem_cons.mp hmem with rfl | hrest
          · simp [hempty] at hfirst
          · exact ih hrest _

namespace Store

variable {store : Store} {table : Table DocumentRow}

private theorem writeDocuments_eq (now : String) (batch : List StoredDocument)
    (hrefusal : store.refusal = none) :
    store.writeDocuments collection now batch table =
      batch.foldlM (writeDocument collection now) table := by
  unfold writeDocuments attempt
  rw [hrefusal]
  split
  · next hempty =>
      rw [List.isEmpty_iff.mp hempty]
      rfl
  · rfl

theorem upsertDocuments_of_notEmpty (now : String)
    (hobjects : ∀ document ∈ documents, document.object?.isSome = true)
    (htable : store.documents collection = some table) (hrefusal : store.refusal = none)
    (hempty : ∀ entry ∈ identified collection candidates documents, notEmpty entry.1 = true) :
    ∃ written, store.upsertDocuments candidates now collection documents =
        (.ok ((identified collection candidates documents).map (·.1)),
          store.withDocuments collection written) ∧
      bodies written = (identified collection candidates documents).foldl
        (fun bodies entry => bodies.insert entry.1 (.text entry.2.compact)) (bodies table) := by
  have hbatch : ∀ document ∈ (identified collection candidates documents).map
      StoredDocument.ofIdentified, notEmpty document.id = true := by
    intro document hdocument
    obtain ⟨entry, hentry, rfl⟩ := List.mem_map.mp hdocument
    exact hempty entry hentry
  obtain ⟨written, hwritten⟩ := exists_writeDocuments collection now hbatch table
  refine ⟨written, ?_, bodies_of_writeDocuments hwritten⟩
  simp only [upsertDocuments, mapM_prepareDocument hobjects, htable, require,
    writeDocuments_eq now _ hrefusal, hwritten, List.map_map]
  rfl

theorem upsertDocuments_of_refused (now : String)
    (hobjects : ∀ document ∈ documents, document.object?.isSome = true)
    (htable : store.documents collection = some table) (hrefusal : store.refusal = none)
    {entry : String × Json} (hentry : entry ∈ identified collection candidates documents)
    (hempty : notEmpty entry.1 = false) :
    store.upsertDocuments candidates now collection documents =
      (.error (.store (.checkFailed (.notEmpty collection.idColumn))), store) := by
  have hmem : StoredDocument.ofIdentified entry ∈
      (identified collection candidates documents).map .ofIdentified := List.mem_map_of_mem hentry
  simp only [upsertDocuments, mapM_prepareDocument hobjects, htable, require,
    writeDocuments_eq now _ hrefusal, writeDocuments_of_refused hmem hempty]

end Store

end TagLedger
