/-!
# Keyed tables

A table holds rows under distinct keys, in increasing order of the keys.  The order on texts is by
code point, which is also the order of their UTF-8 bytes.
-/

namespace TagLedger

variable {ρ : Type}

/-- Rows in strictly increasing order of their keys. -/
structure Table (ρ : Type) where
  rows : List (String × ρ)
  ordered : rows.Pairwise fun left right => left.1 < right.1

namespace Table

theorem lt_of_not_lt_of_ne {left right : String} (hlt : ¬ left < right) (hne : left ≠ right) :
    right < left :=
  Std.lt_of_le_of_ne (String.not_lt.mp hlt) fun h => hne h.symm

def insertRow (key : String) (row : ρ) : List (String × ρ) → List (String × ρ)
  | [] => [(key, row)]
  | first :: rest =>
      if key < first.1 then (key, row) :: first :: rest
      else if key = first.1 then (key, row) :: rest
      else first :: insertRow key row rest

theorem mem_insertRow_of {key : String} {row : ρ} {rows : List (String × ρ)} {entry : String × ρ}
    (h : entry ∈ insertRow key row rows) : entry = (key, row) ∨ entry ∈ rows := by
  induction rows with
  | nil => simpa [insertRow] using h
  | cons first rest ih =>
      simp only [insertRow] at h
      split at h
      · simpa using h
      · split at h
        · rcases List.mem_cons.mp h with h | h
          · exact Or.inl h
          · exact Or.inr (List.mem_cons_of_mem _ h)
        · rcases List.mem_cons.mp h with h | h
          · exact Or.inr (by simp [h])
          · exact (ih h).imp_right (List.mem_cons_of_mem _)

theorem pairwise_insertRow (key : String) (row : ρ) {rows : List (String × ρ)}
    (h : rows.Pairwise fun left right => left.1 < right.1) :
    (insertRow key row rows).Pairwise fun left right => left.1 < right.1 := by
  induction rows with
  | nil => simp [insertRow]
  | cons first rest ih =>
      obtain ⟨hfirst, hrest⟩ := List.pairwise_cons.mp h
      simp only [insertRow]
      split
      · next hlt =>
          refine List.pairwise_cons.mpr ⟨fun entry hentry => ?_, h⟩
          rcases List.mem_cons.mp hentry with rfl | hentry
          · exact hlt
          · exact String.lt_trans hlt (hfirst entry hentry)
      · next hlt =>
          split
          · next heq => exact List.pairwise_cons.mpr ⟨fun entry hentry => heq ▸ hfirst entry hentry, hrest⟩
          · next hne =>
              refine List.pairwise_cons.mpr ⟨fun entry hentry => ?_, ih hrest⟩
              rcases mem_insertRow_of hentry with rfl | hentry
              · exact lt_of_not_lt_of_ne hlt hne
              · exact hfirst entry hentry

def empty : Table ρ :=
  ⟨[], .nil⟩

instance : Inhabited (Table ρ) := ⟨empty⟩

def find? (table : Table ρ) (key : String) : Option ρ :=
  table.rows.lookup key

def contains (table : Table ρ) (key : String) : Bool :=
  (table.find? key).isSome

def insert (table : Table ρ) (key : String) (row : ρ) : Table ρ :=
  ⟨insertRow key row table.rows, pairwise_insertRow key row table.ordered⟩

def erase (table : Table ρ) (key : String) : Table ρ :=
  ⟨table.rows.filter (·.1 != key), table.ordered.filter _⟩

def size (table : Table ρ) : Nat :=
  table.rows.length

def keys (table : Table ρ) : List String :=
  table.rows.map (·.1)

def ofList (rows : List (String × ρ)) : Table ρ :=
  rows.foldl (fun table row => table.insert row.1 row.2) empty

end Table

def orderedSet (texts : List String) : List String :=
  (Table.ofList (texts.map fun text => (text, ()))).keys

end TagLedger
