import TagLedger.Cache.Colors
import TagLedger.Proofs.Registry.Entries
import TagLedger.Proofs.Store.Deletion
import TagLedger.Proofs.Tag.Canonical
import TagLedger.Store.Usage

/-!
# Failed operations

An operation that fails leaves no trace, with one exception.  Most of them write last, so that
nothing can fail after a write.  A resolution and the writing of an asset read back what they have
written.  The former read succeeds, since the tag was registered.  The latter meets one column that
was not written: the time of creation of a row that was there before.  Where it cannot be read, the
writing of the asset fails and stays done.
-/

namespace TagLedger

/-- Whenever the operation fails, the state is as it was before. -/
def AllOrNothing {σ α : Type} (operation : σ → Except LedgerError α × σ) : Prop :=
  ∀ state error after, operation state = (.error error, after) → after = state

namespace Store

/-! ## Statements -/

theorem attempt_eq_ok_iff {α : Type} {store : Store} {write : Except StoreFault α} {result : α} :
    store.attempt write = .ok result ↔ store.refusal = none ∧ write = .ok result := by
  unfold attempt
  cases store.refusal <;> simp

/-- A statement that has written a table has found it. -/
theorem exists_table_of_write {ρ α : Type} {store : Store} {name : TableName}
    {held : Option (Table ρ)} {write : Table ρ → Except StoreFault α} {result : α}
    (h : ((require name held).bind fun table => store.attempt (write table)) = .ok result) :
    ∃ table, held = some table ∧ write table = .ok result := by
  cases held with
  | none => cases h
  | some table => exact ⟨table, rfl, (attempt_eq_ok_iff.mp h).2⟩

/-! ## The registry -/

theorem allOrNothing_upsertDocuments (candidates : Nat → String) (now : String)
    (collection : Collection) (documents : List Json) :
    AllOrNothing (Store.upsertDocuments candidates now collection documents) := by
  intro store error after h
  unfold upsertDocuments at h
  split at h
  · cases h
    rfl
  · split at h
    · cases h
      rfl
    · split at h
      · cases h
        rfl
      · cases h

theorem prepareDocument_eq_error {collection : Collection} {candidates : Nat → String}
    {document : Json} (h : document.object? = none) (index : Nat) :
    prepareDocument collection candidates (document, index) =
      .error (.invalidDocument index "expected a JSON object") := by
  cases document with
  | object fields => cases h
  | _ => rfl

theorem exists_prepareDocument {document : Json} {fields : List (String × Json)}
    (h : document.object? = some fields) (collection : Collection) (candidates : Nat → String)
    (index : Nat) :
    ∃ stored, prepareDocument collection candidates (document, index) = .ok stored := by
  cases document with
  | object fields => exact ⟨_, rfl⟩
  | _ => cases h

theorem mapM_prepareDocument_of_findIdx? {collection : Collection} {candidates : Nat → String}
    {documents : List Json} {index : Nat} (start : Nat)
    (h : documents.findIdx? (·.object?.isNone) = some index) :
    (documents.zipIdx start).mapM (prepareDocument collection candidates) =
      .error (.invalidDocument (start + index) "expected a JSON object") := by
  induction documents generalizing start index with
  | nil => cases h
  | cons document rest ih =>
      rw [List.zipIdx_cons, List.mapM_cons]
      rw [List.findIdx?_cons] at h
      cases hobject : document.object? with
      | none =>
          obtain rfl : 0 = index := by simpa [hobject] using h
          rw [prepareDocument_eq_error hobject]
          rfl
      | some fields =>
          obtain ⟨earlier, hearlier, rfl⟩ : ∃ earlier,
              rest.findIdx? (·.object?.isNone) = some earlier ∧ earlier + 1 = index := by
            simpa [hobject] using h
          obtain ⟨stored, hstored⟩ := exists_prepareDocument hobject collection candidates start
          rw [hstored, ih (start + 1) hearlier, Nat.add_right_comm, Nat.add_assoc]
          rfl

/-- A batch with an entry that is no object is refused, and the first such entry is named. -/
theorem upsertDocuments_of_findIdx? (candidates : Nat → String) (now : String)
    (collection : Collection) {documents : List Json} {index : Nat}
    (h : documents.findIdx? (·.object?.isNone) = some index) (store : Store) :
    store.upsertDocuments candidates now collection documents =
      (.error (.invalidDocument index "expected a JSON object"), store) := by
  rw [upsertDocuments, mapM_prepareDocument_of_findIdx? 0 h, Nat.zero_add]

/-! ## Assets -/

/-- The row under a key, if there is one, has a time of creation that can be read. -/
def KnowsAge (store : Store) (key : String) : Prop :=
  ∀ table row, store.assets = some table → table.find? key = some row →
    ∃ time, row.createdAt = .text time

/-- The row under a key has been written anew, except for its time of creation, which cannot be
read. -/
def OverwritesAsset (now key : String) (kind : AssetKind) (title : String) (content : Option String)
    (before after : Store) : Prop :=
  ∃ table row value, before.assets = some table ∧ table.find? key = some row ∧
    row.createdAt = .blob value ∧
    after = { before with assets := some (table.insert key
      ⟨.text kind.name, .text title, content.map .text, .blob value, .text now⟩) }

/-- A write that fails has been refused without effect, or it could not read back the time of
creation of the row that it had written over. -/
theorem upsertAsset_eq_error {now key : String} {kind : AssetKind} {title : String}
    {content : Option String} {store after : Store} {error : LedgerError}
    (h : store.upsertAsset now key kind title content = (.error error, after)) :
    after = store ∨ error = .store (.blobColumn 4 "created_at") ∧
      OverwritesAsset now (Text.trim key) kind title content store after := by
  rcases upsertAsset_cases now key kind title content store with
    ⟨other, hrefused⟩ | ⟨table, hassets, hrefusal, hkey⟩
  · cases hrefused.symm.trans h
    exact Or.inl rfl
  · have hwritten := upsertAsset_of_notEmpty now key kind title content hassets hrefusal hkey
    rw [h, writtenRow] at hwritten
    cases hheld : table.find? (Text.trim key) with
    | none => simp [hheld, Cell.read, Except.map, Except.mapError] at hwritten
    | some row =>
        cases hcreated : row.createdAt with
        | text time => simp [hheld, hcreated, Cell.read, Except.map, Except.mapError] at hwritten
        | blob value =>
            simp only [hheld, hcreated, Option.map_some, Option.getD_some, Cell.read, Except.map,
              Except.mapError] at hwritten
            cases hwritten
            exact Or.inr ⟨rfl, table, row, value, hassets, hheld, hcreated, rfl⟩

theorem eq_of_upsertAsset_eq_error {now key : String} {kind : AssetKind} {title : String}
    {content : Option String} {store after : Store} {error : LedgerError}
    (hage : store.KnowsAge (Text.trim key))
    (h : store.upsertAsset now key kind title content = (.error error, after)) : after = store := by
  rcases upsertAsset_eq_error h with hsame | ⟨-, table, row, value, hassets, hheld, hcreated, -⟩
  · exact hsame
  · obtain ⟨time, htime⟩ := hage table row hassets hheld
    rw [hcreated] at htime
    cases htime

theorem allOrNothing_deleteAsset (key : String) (force : Bool) :
    AllOrNothing (Store.deleteAsset key force) :=
  fun _ _ _ => eq_of_deleteAsset_eq_error

/-! ## Colors -/

theorem allOrNothing_setColor (now tag color : String) :
    AllOrNothing (Store.setColor now tag color) := by
  intro store error after h
  unfold setColor at h
  split at h
  · cases h
    rfl
  · dsimp only at h
    split at h
    · cases h
      rfl
    · split at h
      · cases h
        rfl
      · cases h

end Store

/-- A color that is not set is not announced either. -/
theorem Board.allOrNothing_setColorAndInvalidate (now tag color : String) :
    AllOrNothing (Board.setColorAndInvalidate now tag color) := by
  intro board error after h
  unfold setColorAndInvalidate at h
  split at h
  · next hset =>
      cases h
      rw [Store.allOrNothing_setColor now tag color board.store error _ hset]
  · cases h

end TagLedger
