import TagLedger.Proofs.Registry.Entries
import TagLedger.Proofs.Store.Document

/-!
# Loaded collections

A collection that is written by batches only holds texts, whatever the batches contain and whatever
happens to the other tables in between, so that reading it never fails.
-/

namespace TagLedger

namespace Store

/-- A batch writes all of its documents into the table, or the store stays as it is. -/
theorem upsertDocuments_cases (candidates : Nat → String) (now : String) (collection : Collection)
    (documents : List Json) (store : Store) :
    (∃ error, store.upsertDocuments candidates now collection documents = (.error error, store)) ∨
      ∃ prepared table written,
        documents.zipIdx.mapM (prepareDocument collection candidates) = .ok prepared ∧
        store.documents collection = some table ∧
        prepared.foldlM (writeDocument collection now) table = .ok written ∧
        store.upsertDocuments candidates now collection documents =
          (.ok (prepared.map (·.id)), store.withDocuments collection written) := by
  unfold upsertDocuments
  cases hprepared : documents.zipIdx.mapM (prepareDocument collection candidates) with
  | error error => exact Or.inl ⟨error, rfl⟩
  | ok prepared =>
      cases htable : store.documents collection with
      | none => exact Or.inl ⟨_, rfl⟩
      | some table =>
          simp only [require]
          cases hwritten : store.writeDocuments collection now prepared table with
          | error fault => exact Or.inl ⟨_, rfl⟩
          | ok written =>
              refine Or.inr ⟨prepared, table, written, rfl, rfl, ?_, rfl⟩
              unfold writeDocuments at hwritten
              split at hwritten
              · next hempty =>
                  cases hwritten
                  rw [List.isEmpty_iff.mp hempty]
                  rfl
              · unfold attempt at hwritten
                split at hwritten
                · cases hwritten
                · exact hwritten

@[simp] theorem documents_withDocuments (store : Store) (collection : Collection)
    (table : Table DocumentRow) :
    (store.withDocuments collection table).documents collection = some table := by
  cases collection <;> rfl

theorem documents_withDocuments_of_ne (store : Store) {collection other : Collection}
    (h : other ≠ collection) (table : Table DocumentRow) :
    (store.withDocuments collection table).documents other = store.documents other := by
  cases collection <;> cases other <;> first | rfl | exact absurd rfl h

end Store

/-- The table of a collection that was created and since then written by batches, each of which
found it in a store whose other tables may hold anything. -/
inductive Loaded (collection : Collection) : Option (Table DocumentRow) → Prop
  | created : Loaded collection (some .empty)
  | batch {store : Store} (candidates : Nat → String) (now : String) (documents : List Json)
      (h : Loaded collection (store.documents collection)) :
      Loaded collection
        ((store.upsertDocuments candidates now collection documents).2.documents collection)

def Textual (table : Table DocumentRow) : Prop :=
  ∀ id row, table.find? id = some row → ∃ text, row.body = .text text

theorem textual_of_writeDocument {collection : Collection} {now : String}
    {document : StoredDocument} {table written : Table DocumentRow} (htable : Textual table)
    (h : writeDocument collection now table document = .ok written) : Textual written := by
  unfold writeDocument at h
  split at h
  · cases h
  · cases h
    intro id row hrow
    rw [Table.find?_insert] at hrow
    split at hrow
    · cases hrow
      exact ⟨_, rfl⟩
    · exact htable id row hrow

theorem Loaded.textual {collection : Collection} {held : Option (Table DocumentRow)}
    (h : Loaded collection held) : ∃ table, held = some table ∧ Textual table := by
  induction h with
  | created => exact ⟨.empty, rfl, fun id row hrow => by cases hrow⟩
  | @batch store candidates now documents _ ih =>
      rcases store.upsertDocuments_cases candidates now collection documents with
        ⟨error, hbatch⟩ | ⟨prepared, table, written, -, htable, hwritten, hbatch⟩
      · rwa [hbatch]
      · rw [hbatch]
        obtain ⟨_, hheld, htextual⟩ := ih
        obtain rfl := Option.some.inj (htable.symm.trans hheld)
        refine ⟨written, store.documents_withDocuments collection written, ?_⟩
        exact rel_of_foldlM (fun before after => Textual before → Textual after) hwritten
          (fun _ => id) (fun hfirst hsecond => hsecond ∘ hfirst)
          (fun _ hstep hbefore => textual_of_writeDocument hbefore hstep) htextual

/-- Reading a loaded collection succeeds. -/
theorem Loaded.exists_scanDocuments {collection : Collection} {store : Store}
    (h : Loaded collection (store.documents collection)) :
    ∃ stored, store.scanDocuments collection = .ok stored := by
  obtain ⟨table, htable, htextual⟩ := h.textual
  obtain ⟨stored, hstored⟩ := Store.exists_map_cells fun id row hrow =>
    htextual id row (Table.mem_rows_iff.mp hrow)
  exact ⟨stored, Store.scanDocuments_eq_ok_iff.mpr ⟨table, htable, hstored.symm⟩⟩

end TagLedger
