import TagLedger.Proofs.Store.Atomicity
import TagLedger.Proofs.Store.Operation

/-!
# Colors of a store

Setting a color changes the color of one canonical tag, opening the store changes none, and what is
loaded is what was set.
-/

namespace TagLedger.Store

/-- The colors that are set, none as long as there is no table for them. -/
def colorTable (store : Store) : Table ColorRow :=
  store.colors.getD .empty

def color? (store : Store) (canonical : String) : Option String :=
  (store.colorTable.find? canonical).map (·.color)

theorem setColor_eq_ok {now tag color canonical : String} {store after : Store}
    (h : store.setColor now tag color = (.ok canonical, after)) :
    Tag.canonicalize tag = some canonical ∧ ∃ table, store.colors = some table ∧
      after = { store with colors := some (table.insert canonical ⟨Text.trim color, now⟩) } := by
  unfold setColor at h
  split at h
  · cases h
  · next form hform =>
      dsimp only at h
      split at h
      · cases h
      · split at h
        · cases h
        · next written hwritten =>
            cases h
            obtain ⟨table, htable, hwrite⟩ := exists_table_of_write hwritten
            refine ⟨hform, table, htable, ?_⟩
            unfold writeColor at hwrite
            split at hwrite
            · cases hwrite
            · split at hwrite
              · cases hwrite
              · cases hwrite
                rfl

theorem color?_of_setColor {now tag color canonical : String} {store after : Store}
    (h : store.setColor now tag color = (.ok canonical, after)) (other : String) :
    after.color? other =
      if other = canonical then some (Text.trim color) else store.color? other := by
  obtain ⟨-, table, htable, rfl⟩ := setColor_eq_ok h
  simp only [color?, colorTable, htable, Option.getD_some, Table.find?_insert]
  split <;> rfl

theorem find?_of_loadColors {store : Store} {colors : ColorTable}
    (h : store.loadColors = .ok colors) (canonical : String) :
    colors.find? canonical = store.color? canonical := by
  unfold loadColors at h
  cases htable : store.colors with
  | none => simp [htable, require] at h
  | some table =>
      simp only [htable, require, Except.ok.injEq] at h
      subst h
      have hkeys : ((table.rows.map fun row => (row.1, row.2.color)).map Prod.fst).Nodup := by
        simpa [Function.comp_def, Table.keys] using table.nodup_keys
      rw [Table.find?_ofList hkeys, color?, colorTable, htable, Option.getD_some, Table.find?]
      induction table.rows with
      | nil => rfl
      | cons row rest ih =>
          rw [List.map_cons, List.lookup_cons, List.lookup_cons, ih]
          cases canonical == row.1 <;> rfl

theorem colorTable_migrate (now : String) (store : Store) :
    (store.migrate now).2.colorTable = store.colorTable :=
  (keepsRows_migrate now store).colors.getD_eq

end TagLedger.Store
