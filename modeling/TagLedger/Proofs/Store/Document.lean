import TagLedger.Store.Document
import Mathlib.Data.Set.List

/-!
# Reading of documents

A collection is read row by row.  The reading succeeds exactly if every body is a text, and then the
documents stand for the rows, one for one.
-/

namespace TagLedger

def StoredDocument.cells (stored : StoredDocument) : String × Cell :=
  (stored.id, .text stored.body)

theorem StoredDocument.cells_injective : Function.Injective StoredDocument.cells := by
  rintro ⟨id, body⟩ ⟨other, otherBody⟩ h
  cases h
  rfl

namespace Store

theorem readDocument_eq_ok_iff {row : String × DocumentRow} {stored : StoredDocument} :
    readDocument row = .ok stored ↔ (row.1, row.2.body) = stored.cells := by
  obtain ⟨id, body, createdAt, updatedAt⟩ := row
  obtain ⟨storedId, storedBody⟩ := stored
  cases body <;> simp [readDocument, Cell.read, StoredDocument.cells]

theorem mapM_readDocument_eq_ok_iff {rows : List (String × DocumentRow)}
    {documents : List StoredDocument} : rows.mapM readDocument = .ok documents ↔
      rows.map (fun row => (row.1, row.2.body)) = documents.map StoredDocument.cells := by
  induction rows generalizing documents with
  | nil => cases documents <;> simp [pure, Except.pure]
  | cons row rest ih =>
      rw [List.mapM_cons, List.map_cons]
      cases documents with
      | nil => cases readDocument row <;> cases rest.mapM readDocument <;>
          simp [bind, Except.bind, pure, Except.pure]
      | cons stored documents =>
          rw [List.map_cons, List.cons.injEq, ← ih, ← readDocument_eq_ok_iff]
          cases readDocument row <;> cases rest.mapM readDocument <;>
            simp [bind, Except.bind, pure, Except.pure]

theorem exists_map_cells {rows : List (String × DocumentRow)}
    (h : ∀ id row, (id, row) ∈ rows → ∃ text, row.body = .text text) :
    ∃ documents : List StoredDocument,
      documents.map StoredDocument.cells = rows.map fun row => (row.1, row.2.body) := by
  have hrange := Set.range_list_map StoredDocument.cells
  refine (Set.ext_iff.mp hrange _).mpr fun cells hcells => ?_
  obtain ⟨⟨id, row⟩, hrow, rfl⟩ := List.mem_map.mp hcells
  obtain ⟨text, htext⟩ := h id row hrow
  exact ⟨⟨id, text⟩, by simp [StoredDocument.cells, htext]⟩

theorem scanDocuments_eq_ok_iff {store : Store} {collection : Collection}
    {stored : List StoredDocument} : store.scanDocuments collection = .ok stored ↔
      ∃ table, store.documents collection = some table ∧
        table.rows.map (fun row => (row.1, row.2.body)) = stored.map StoredDocument.cells := by
  unfold scanDocuments
  cases store.documents collection with
  | none => simp [require]
  | some table => simp [require, mapM_readDocument_eq_ok_iff]

end Store

end TagLedger
