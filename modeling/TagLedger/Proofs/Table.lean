import TagLedger.Table
import Mathlib.Data.List.Perm.Subperm

/-!
# Rows of a table

A table is known by what it finds under each key: the rows are exactly the pairs that `find?`
returns, an insertion changes what is found under its own key only, and no key occurs twice.
-/

namespace TagLedger

variable {ρ : Type}

namespace Table

@[simp] theorem find?_empty (key : String) : (empty : Table ρ).find? key = none := rfl

theorem lookup_insertRow_self (key : String) (row : ρ) (rows : List (String × ρ)) :
    (insertRow key row rows).lookup key = some row := by
  induction rows with
  | nil => simp [insertRow]
  | cons first rest ih =>
      obtain ⟨firstKey, firstRow⟩ := first
      simp only [insertRow]
      split
      · simp
      · split
        · simp
        · next hne =>
            have hbeq : (key == firstKey) = false := by simpa using hne
            simpa only [List.lookup_cons, hbeq] using ih

theorem lookup_insertRow_of_ne {key other : String} (row : ρ)
    (rows : List (String × ρ)) (h : other ≠ key) :
    (insertRow key row rows).lookup other = rows.lookup other := by
  have hbeq : (other == key) = false := by simpa using h
  induction rows with
  | nil => simp [insertRow, h]
  | cons first rest ih =>
      obtain ⟨firstKey, firstRow⟩ := first
      simp only [insertRow]
      split
      · simp only [List.lookup_cons, hbeq]
      · split
        · next heq =>
            subst heq
            simp only [List.lookup_cons, hbeq]
        · simp only [List.lookup_cons, ih]

@[simp] theorem find?_insert_self (table : Table ρ) (key : String) (row : ρ) :
    (table.insert key row).find? key = some row :=
  lookup_insertRow_self key row table.rows

theorem find?_insert_of_ne (table : Table ρ) {key other : String} (row : ρ) (h : other ≠ key) :
    (table.insert key row).find? other = table.find? other :=
  lookup_insertRow_of_ne row table.rows h

theorem find?_insert (table : Table ρ) (key other : String) (row : ρ) :
    (table.insert key row).find? other = if other = key then some row else table.find? other := by
  by_cases h : other = key
  · subst h
    simp
  · simp [h, find?_insert_of_ne table row h]

private theorem lookup_eq_some_of_mem {rows : List (String × ρ)}
    (hordered : rows.Pairwise fun left right => left.1 < right.1) {entry : String × ρ}
    (hentry : entry ∈ rows) : rows.lookup entry.1 = some entry.2 := by
  induction rows with
  | nil => simp at hentry
  | cons first rest ih =>
      obtain ⟨firstKey, firstRow⟩ := first
      obtain ⟨hfirst, hrest⟩ := List.pairwise_cons.mp hordered
      rcases List.mem_cons.mp hentry with rfl | hentry
      · simp
      · have hne : entry.1 ≠ firstKey := fun h =>
          String.lt_irrefl firstKey (h ▸ hfirst entry hentry)
        have hbeq : (entry.1 == firstKey) = false := by simpa using hne
        simpa only [List.lookup_cons, hbeq] using ih hrest hentry

theorem mem_rows_iff {table : Table ρ} {key : String} {row : ρ} :
    (key, row) ∈ table.rows ↔ table.find? key = some row := by
  constructor
  · exact lookup_eq_some_of_mem table.ordered
  · intro h
    obtain ⟨before, after, hrows, -⟩ := List.lookup_eq_some_iff.mp h
    simp [hrows]

/-- A row that is erased is cut out of the table, and the others stay. -/
theorem exists_rows_erase {table : Table ρ} {key : String} {row : ρ}
    (h : table.find? key = some row) : ∃ before after,
      table.rows = before ++ (key, row) :: after ∧ (table.erase key).rows = before ++ after := by
  obtain ⟨before, after, hrows⟩ := List.append_of_mem (mem_rows_iff.mpr h)
  have hordered := table.ordered
  rw [hrows, List.pairwise_append, List.pairwise_cons] at hordered
  obtain ⟨-, ⟨hafter, -⟩, hbefore⟩ := hordered
  refine ⟨before, after, hrows, ?_⟩
  have hkeptBefore : before.filter (·.1 != key) = before := by
    refine List.filter_eq_self.mpr fun entry hentry => bne_iff_ne.mpr fun heq => ?_
    exact String.lt_irrefl key (heq ▸ hbefore entry hentry (key, row) (by simp))
  have hkeptAfter : after.filter (·.1 != key) = after := by
    refine List.filter_eq_self.mpr fun entry hentry => bne_iff_ne.mpr fun heq => ?_
    exact String.lt_irrefl key (heq ▸ hafter entry hentry)
  change table.rows.filter _ = _
  rw [hrows, List.filter_append, List.filter_cons_of_neg (by simp), hkeptBefore, hkeptAfter]

theorem lookup_filter {rows : List (String × ρ)} {kept : String × ρ → Bool}
    {key : String} (h : ∀ row, kept (key, row) = true) :
    (rows.filter kept).lookup key = rows.lookup key := by
  induction rows with
  | nil => rfl
  | cons first rows ih =>
      obtain ⟨firstKey, row⟩ := first
      by_cases hkey : key = firstKey
      · subst hkey
        rw [List.filter_cons_of_pos (h row), List.lookup_cons_self, List.lookup_cons_self]
      · have hbeq : (key == firstKey) = false := beq_false_of_ne hkey
        rw [List.filter_cons, List.lookup_cons, hbeq, ← ih]
        split
        · rw [List.lookup_cons, hbeq]
        · rfl

theorem find?_erase (table : Table ρ) (key other : String) :
    (table.erase key).find? other = if other = key then none else table.find? other := by
  by_cases h : other = key
  · subst h
    refine (List.lookup_eq_none_iff.mpr fun row hrow => ?_).trans (if_pos rfl).symm
    exact bne_iff_ne.mpr (Ne.symm (bne_iff_ne.mp (List.mem_filter.mp hrow).2))
  · rw [if_neg h]
    exact lookup_filter fun _ => bne_iff_ne.mpr h

theorem contains_iff {table : Table ρ} {key : String} :
    table.contains key = true ↔ ∃ row, table.find? key = some row := by
  rw [contains, Option.isSome_iff_exists]

theorem contains_eq_false_iff {table : Table ρ} {key : String} :
    table.contains key = false ↔ table.find? key = none := by
  simp [contains]

theorem mem_keys_iff {table : Table ρ} {key : String} :
    key ∈ table.keys ↔ ∃ row, table.find? key = some row := by
  simp [keys, ← mem_rows_iff]

theorem nodup_keys (table : Table ρ) : table.keys.Nodup := by
  rw [keys, List.nodup_iff_pairwise_ne, List.pairwise_map]
  refine table.ordered.imp ?_
  intro left right hlt heq
  exact String.lt_irrefl right.1 (heq ▸ hlt)

theorem keys_eq_of_contains {left right : Table ρ}
    (h : ∀ key, left.contains key = true ↔ right.contains key = true) : left.keys = right.keys := by
  have hordered (table : Table ρ) : table.keys.Pairwise (· < ·) :=
    List.pairwise_map.mpr table.ordered
  have hperm : left.keys.Perm right.keys := by
    refine (List.perm_ext_iff_of_nodup left.nodup_keys right.nodup_keys).mpr fun key => ?_
    rw [mem_keys_iff, mem_keys_iff, ← contains_iff, ← contains_iff, h]
  exact hperm.eq_of_pairwise (fun _ _ _ _ hlt hgt => absurd hgt (String.lt_asymm hlt))
    (hordered left) (hordered right)

theorem find?_foldl_insert {rows : List (String × ρ)} (h : (rows.map Prod.fst).Nodup)
    (table : Table ρ) (key : String) :
    (rows.foldl (fun table row => table.insert row.1 row.2) table).find? key =
      (rows.lookup key).or (table.find? key) := by
  induction rows generalizing table with
  | nil => rfl
  | cons row rest ih =>
      rw [List.map_cons, List.nodup_cons] at h
      rw [List.foldl_cons, ih h.2, find?_insert, List.lookup_cons]
      by_cases hkey : key = row.1
      · have hnone : rest.lookup key = none :=
          List.lookup_eq_none_iff.mpr fun other hother => by
            simpa [hkey] using fun heq : row.1 = other.1 => h.1 (heq ▸ List.mem_map_of_mem hother)
        simp [hkey, hkey ▸ hnone]
      · rw [if_neg hkey, beq_false_of_ne hkey]

theorem find?_ofList {rows : List (String × ρ)} (h : (rows.map Prod.fst).Nodup) (key : String) :
    (ofList rows).find? key = rows.lookup key := by
  rw [ofList, find?_foldl_insert h, find?_empty, Option.or_none]

/-- Of several rows under one key the last one stays. -/
theorem find?_foldl_insert_eq_lookup_reverse (rows : List (String × ρ)) (table : Table ρ)
    (key : String) :
    (rows.foldl (fun table row => table.insert row.1 row.2) table).find? key =
      (rows.reverse.lookup key).or (table.find? key) := by
  induction rows generalizing table with
  | nil => rfl
  | cons row rest ih =>
      rw [List.foldl_cons, ih, find?_insert, List.reverse_cons, List.lookup_append, Option.or_assoc,
        List.lookup_cons]
      congr 1
      by_cases hkey : key = row.1
      · rw [if_pos hkey, beq_iff_eq.mpr hkey]
        rfl
      · rw [if_neg hkey, beq_false_of_ne hkey]
        rfl

/-! ## Tables row by row -/

variable {σ : Type}

def map (convert : ρ → σ) (table : Table ρ) : Table σ :=
  ⟨table.rows.map fun row => (row.1, convert row.2), List.pairwise_map.mpr table.ordered⟩

theorem ext_rows {table other : Table ρ} (h : table.rows = other.rows) : table = other := by
  cases table
  cases other
  cases h
  rfl

theorem map_map {τ : Type} (convert : ρ → σ) (further : σ → τ) (table : Table ρ) :
    (table.map convert).map further = table.map fun row => further (convert row) :=
  ext_rows List.map_map

/-- Writing a row that is already there changes nothing. -/
theorem insert_eq_self {table : Table ρ} {key : String} {row : ρ}
    (h : table.find? key = some row) : table.insert key row = table := by
  have hrows (rows : List (String × ρ)) (hordered : rows.Pairwise fun left right => left.1 < right.1)
      (hmem : (key, row) ∈ rows) : insertRow key row rows = rows := by
    induction rows with
    | nil => cases hmem
    | cons first rest ih =>
        obtain ⟨hfirst, hrest⟩ := List.pairwise_cons.mp hordered
        rw [insertRow]
        rcases List.mem_cons.mp hmem with rfl | hlater
        · rw [if_neg (String.lt_irrefl key), if_pos rfl]
        · have hlt : first.1 < key := hfirst _ hlater
          have hne : key ≠ first.1 := fun heq => String.lt_irrefl first.1 (heq ▸ hlt)
          rw [if_neg (String.lt_asymm hlt), if_neg hne, ih hrest hlater]
  exact ext_rows (hrows table.rows table.ordered (mem_rows_iff.mpr h))

theorem foldl_insert_eq_self {α : Type} (key : α → String) (value : α → ρ) {items : List α}
    {table : Table ρ} (h : ∀ item ∈ items, table.find? (key item) = some (value item)) :
    items.foldl (fun table item => table.insert (key item) (value item)) table = table := by
  induction items with
  | nil => rfl
  | cons item rest ih =>
      obtain ⟨hitem, hrest⟩ := List.forall_mem_cons.mp h
      rw [List.foldl_cons, insert_eq_self hitem, ih hrest]

theorem map_insert (convert : ρ → σ) (table : Table ρ) (key : String) (row : ρ) :
    (table.insert key row).map convert = (table.map convert).insert key (convert row) := by
  have hrows (rows : List (String × ρ)) :
      (insertRow key row rows).map (fun row => (row.1, convert row.2)) =
        insertRow key (convert row) (rows.map fun row => (row.1, convert row.2)) := by
    induction rows with
    | nil => rfl
    | cons first rest ih =>
        simp only [insertRow, List.map_cons]
        split
        · rfl
        · split
          · rfl
          · rw [List.map_cons, ih]
  exact ext_rows (hrows table.rows)

theorem map_foldl_insert (convert : ρ → σ) (rows : List (String × ρ)) (table : Table ρ) :
    (rows.foldl (fun table row => table.insert row.1 row.2) table).map convert =
      rows.foldl (fun table row => table.insert row.1 (convert row.2)) (table.map convert) := by
  induction rows generalizing table with
  | nil => rfl
  | cons row rest ih => rw [List.foldl_cons, List.foldl_cons, ih, map_insert]

theorem lookup_map (convert : ρ → σ) (rows : List (String × ρ)) (key : String) :
    (rows.map fun row => (row.1, convert row.2)).lookup key = (rows.lookup key).map convert := by
  induction rows with
  | nil => rfl
  | cons first rest ih =>
      rw [List.map_cons, List.lookup_cons, List.lookup_cons, ih]
      cases key == first.1 <;> rfl

theorem find?_map (convert : ρ → σ) (table : Table ρ) (key : String) :
    (table.map convert).find? key = (table.find? key).map convert :=
  lookup_map convert table.rows key

end Table

theorem mem_orderedSet {texts : List String} {text : String} :
    text ∈ orderedSet texts ↔ text ∈ texts := by
  have hfound (rows : List (String × Unit)) (table : Table Unit) :
      text ∈ (rows.foldl (fun table row => table.insert row.1 row.2) table).keys ↔
        text ∈ rows.map Prod.fst ∨ text ∈ table.keys := by
    induction rows generalizing table with
    | nil => simp
    | cons row rows ih =>
        rw [List.foldl_cons, ih]
        simp only [Table.mem_keys_iff, Table.find?_insert, List.map_cons, List.mem_cons]
        by_cases h : text = row.1 <;> simp [h]
  rw [orderedSet, Table.ofList, hfound]
  simp [Table.mem_keys_iff, Function.comp_def]

theorem orderedSet_congr {texts others : List String} (h : ∀ text, text ∈ texts ↔ text ∈ others) :
    orderedSet texts = orderedSet others := by
  refine Table.keys_eq_of_contains fun text => ?_
  rw [Table.contains_iff, Table.contains_iff, ← Table.mem_keys_iff, ← Table.mem_keys_iff]
  exact mem_orderedSet.trans ((h text).trans mem_orderedSet.symm)

theorem nodup_orderedSet (texts : List String) : (orderedSet texts).Nodup :=
  Table.nodup_keys _

theorem length_orderedSet_le (texts : List String) : (orderedSet texts).length ≤ texts.length :=
  ((nodup_orderedSet texts).subperm fun _ htext => mem_orderedSet.mp htext).length_le

end TagLedger
