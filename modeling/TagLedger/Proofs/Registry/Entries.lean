import TagLedger.Proofs.Table
import TagLedger.Store.Registry
import Mathlib.Data.List.Basic

/-!
# Entries of the registry

What insertions and look-ups do to a registry, seen through the row that it holds for each tag.  An
insertion keeps every row and shares no slug; a look-up in pieces finds what a look-up of all tags
at once would find.
-/

namespace TagLedger

/-! ## Lists of tags -/

theorem chunks_nil {α : Type} (size : Nat) : chunks size ([] : List α) = [] := by
  rw [chunks]
  simp

theorem chunks_ne_nil {α : Type} (size : Nat) {list : List α} (h : list ≠ []) :
    chunks size list ≠ [] := by
  rw [chunks]
  split <;> simp

theorem flatten_chunks {α : Type} (size : Nat) (list : List α) :
    (chunks size list).flatten = list := by
  fun_induction chunks size list with
  | case1 => rfl
  | case2 list => exact List.append_nil list
  | case3 list h ih => rw [List.flatten_cons, ih, List.take_append_drop]

theorem length_chunks_le {α : Type} (size : Nat) (list : List α) :
    (chunks size list).length ≤ list.length := by
  fun_induction chunks size list with
  | case1 => exact Nat.le_refl 0
  | case2 list h hne => exact List.length_pos_iff.mpr hne
  | case3 list h ih =>
      rw [not_or] at h
      have hpositive := List.length_pos_iff.mpr h.2
      rw [List.length_drop] at ih
      rw [List.length_cons]
      omega

theorem map_canonicalize_of_mapM {tags canonical : List String}
    (h : tags.mapM canonicalOrInvalid = .ok canonical) :
    tags.map Tag.canonicalize = canonical.map some := by
  induction tags generalizing canonical with
  | nil =>
      cases h
      simp only [List.map_nil, List.reverse_nil]
  | cons tag rest ih =>
      rw [List.mapM_cons] at h
      cases hfirst : canonicalOrInvalid tag with
      | error error => simp [hfirst, bind, Except.bind] at h
      | ok form =>
          cases hrest : rest.mapM canonicalOrInvalid with
          | error error => simp [hfirst, hrest, bind, Except.bind] at h
          | ok forms =>
              simp only [hfirst, hrest, bind, Except.bind, pure, Except.pure, Except.ok.injEq] at h
              subst h
              have hform : Tag.canonicalize tag = some form := by
                unfold canonicalOrInvalid at hfirst
                split at hfirst <;> simp_all
              simp [hform, ih hrest]

theorem length_orderedSet_of_mapM {tags canonical : List String}
    (h : tags.mapM canonicalOrInvalid = .ok canonical) :
    (orderedSet canonical).length ≤ tags.length := by
  have hlength : tags.length = canonical.length := by
    simpa using congrArg List.length (map_canonicalize_of_mapM h)
  rw [hlength]
  exact length_orderedSet_le canonical

theorem exists_mapM_of_canonicalize {tags : List String}
    (h : ∀ tag ∈ tags, ∃ canonical, Tag.canonicalize tag = some canonical) :
    ∃ canonical, tags.mapM canonicalOrInvalid = .ok canonical := by
  induction tags with
  | nil => exact ⟨[], rfl⟩
  | cons tag rest ih =>
      obtain ⟨form, hform⟩ := h tag List.mem_cons_self
      obtain ⟨forms, hforms⟩ := ih fun other hother => h other (List.mem_cons_of_mem tag hother)
      refine ⟨form :: forms, ?_⟩
      rw [List.mapM_cons, hforms]
      simp [canonicalOrInvalid, hform, bind, Except.bind, pure, Except.pure]

/-- A fold that may fail relates its result to its start, as each of its steps does. -/
theorem rel_of_foldlM {α β ε : Type} (rel : β → β → Prop) {step : β → α → Except ε β}
    {items : List α} {start final : β} (h : items.foldlM step start = .ok final)
    (refl : ∀ b, rel b b) (trans : ∀ {a b c}, rel a b → rel b c → rel a c)
    (hstep : ∀ {b item after}, item ∈ items → step b item = .ok after → rel b after) :
    rel start final := by
  induction items generalizing start with
  | nil =>
      cases h
      exact refl final
  | cons item rest ih =>
      rw [List.foldlM_cons] at h
      cases hfirst : step start item with
      | error error => simp [hfirst, bind, Except.bind] at h
      | ok middle =>
          simp only [hfirst, bind, Except.bind] at h
          exact trans (hstep List.mem_cons_self hfirst)
            (ih h fun hitem => hstep (List.mem_cons_of_mem item hitem))

theorem exists_step_of_foldlM {α β ε : Type} (rel : β → β → Prop) {step : β → α → Except ε β}
    {items : List α} {start final : β} (h : items.foldlM step start = .ok final)
    (refl : ∀ b, rel b b) (trans : ∀ {a b c}, rel a b → rel b c → rel a c)
    (hstep : ∀ {b item after}, step b item = .ok after → rel b after) {item : α}
    (hitem : item ∈ items) : ∃ before after, step before item = .ok after ∧ rel after final := by
  induction items generalizing start with
  | nil => cases hitem
  | cons first rest ih =>
      rw [List.foldlM_cons] at h
      cases hfirst : step start first with
      | error error => simp [hfirst, bind, Except.bind] at h
      | ok middle =>
          simp only [hfirst, bind, Except.bind] at h
          rcases List.mem_cons.mp hitem with rfl | hrest
          · exact ⟨start, middle, hfirst, rel_of_foldlM rel h refl trans fun _ => hstep⟩
          · exact ih h hrest

/-! ## Tables of slugs -/

def SlugsDistinct (table : Table SlugRow) : Prop :=
  ∀ {tag other row otherRow}, table.find? tag = some row → table.find? other = some otherRow →
    row.slug = otherRow.slug → tag = other

/-- `after` holds every row of `before`, and shares no slug if `before` shares none. -/
structure Grows (before after : Table SlugRow) : Prop where
  kept : ∀ {tag row}, before.find? tag = some row → after.find? tag = some row
  distinct : SlugsDistinct before → SlugsDistinct after

theorem Grows.refl (table : Table SlugRow) : Grows table table :=
  ⟨id, id⟩

theorem Grows.trans {first second third : Table SlugRow} (h : Grows first second)
    (h' : Grows second third) : Grows first third :=
  ⟨fun hrow => h'.kept (h.kept hrow), fun hdistinct => h'.distinct (h.distinct hdistinct)⟩

theorem Grows.contains {before after : Table SlugRow} (h : Grows before after) {tag : String}
    (hcontains : before.contains tag = true) : after.contains tag = true := by
  obtain ⟨row, hrow⟩ := Table.contains_iff.mp hcontains
  exact Table.contains_iff.mpr ⟨row, h.kept hrow⟩

theorem any_slug_eq_true_iff {table : Table SlugRow} {slug : String} :
    table.rows.any (·.2.slug == slug) = true ↔
      ∃ tag row, table.find? tag = some row ∧ row.slug = slug := by
  simp only [List.any_eq_true, beq_iff_eq, Prod.exists, Table.mem_rows_iff]

theorem any_slug_eq_false_iff {table : Table SlugRow} {slug : String} :
    table.rows.any (·.2.slug == slug) = false ↔
      ∀ tag row, table.find? tag = some row → row.slug ≠ slug := by
  rw [← Bool.not_eq_true, any_slug_eq_true_iff]
  simp

namespace Store

/-- What an insertion does if it succeeds: the tag has its row already, or is given one whose slug
is new. -/
theorem insertSlug_cases {now tag candidate : String} {table after : Table SlugRow}
    (h : insertSlug now tag candidate table = .ok after) :
    (table.contains tag = true ∧ after = table) ∨
      (table.find? tag = none ∧ (∀ other row, table.find? other = some row → row.slug ≠ candidate) ∧
        after = table.insert tag ⟨candidate, now, now⟩) := by
  unfold insertSlug at h
  split at h
  · cases h
  · cases hcontains : table.contains tag with
    | true =>
        simp only [hcontains, ↓reduceIte, Except.ok.injEq] at h
        exact Or.inl ⟨rfl, h.symm⟩
    | false =>
        cases hslug : table.rows.any (·.2.slug == candidate) with
        | true => simp [hcontains, hslug] at h
        | false =>
            simp only [hcontains, hslug, Bool.false_eq_true, ↓reduceIte, Except.ok.injEq] at h
            exact Or.inr ⟨Table.contains_eq_false_iff.mp hcontains,
              any_slug_eq_false_iff.mp hslug, h.symm⟩

theorem grows_of_insertSlug {now tag candidate : String} {table after : Table SlugRow}
    (h : insertSlug now tag candidate table = .ok after) : Grows table after := by
  obtain ⟨-, rfl⟩ | ⟨hnone, hnew, rfl⟩ := insertSlug_cases h
  · exact Grows.refl after
  · refine ⟨fun {other row} hrow => ?_,
      fun hdistinct {first second row otherRow} hfirst hsecond hslug => ?_⟩
    · have hne : other ≠ tag := by
        rintro rfl
        simp [hnone] at hrow
      rwa [Table.find?_insert_of_ne table _ hne]
    · rw [Table.find?_insert] at hfirst hsecond
      split at hfirst
      · split at hsecond
        · simp_all
        · obtain rfl := Option.some.inj hfirst
          exact absurd hslug.symm (hnew _ _ hsecond)
      · split at hsecond
        · obtain rfl := Option.some.inj hsecond
          exact absurd hslug (hnew _ _ hfirst)
        · exact hdistinct hfirst hsecond hslug

theorem grows_of_insertSlugs {candidates : Nat → String} {now : String} {tags : List String}
    {table after : Table SlugRow} (h : insertSlugs candidates now tags table = .ok after) :
    Grows table after :=
  rel_of_foldlM Grows h Grows.refl Grows.trans fun _ => grows_of_insertSlug

theorem contains_of_insertSlug {now tag candidate : String} {table after : Table SlugRow}
    (h : insertSlug now tag candidate table = .ok after) : after.contains tag = true := by
  obtain ⟨hcontains, rfl⟩ | ⟨-, -, rfl⟩ := insertSlug_cases h
  · exact hcontains
  · simp [Table.contains]

theorem contains_of_insertSlugs {candidates : Nat → String} {now : String} {tags : List String}
    {table after : Table SlugRow} (h : insertSlugs candidates now tags table = .ok after)
    {tag : String} (htag : tag ∈ tags) : after.contains tag = true := by
  obtain ⟨index, hindex⟩ := List.mem_iff_getElem?.mp htag
  have hitem : (tag, index) ∈ tags.zipIdx := List.mk_mem_zipIdx_iff_getElem?.mpr hindex
  obtain ⟨before, middle, hstep, hgrows⟩ :=
    exists_step_of_foldlM Grows h Grows.refl Grows.trans grows_of_insertSlug hitem
  exact hgrows.contains (contains_of_insertSlug hstep)

theorem find?_of_insertSlug {now tag candidate other : String} {table after : Table SlugRow}
    {row : SlugRow} (h : insertSlug now tag candidate table = .ok after)
    (hrow : after.find? other = some row) :
    table.find? other = some row ∨ other = tag ∧ row.slug = candidate := by
  obtain ⟨-, rfl⟩ | ⟨-, -, rfl⟩ := insertSlug_cases h
  · exact Or.inl hrow
  · rw [Table.find?_insert] at hrow
    split at hrow
    · next htag =>
        cases hrow
        exact Or.inr ⟨htag, rfl⟩
    · exact Or.inl hrow

theorem find?_of_insertSlugs {candidates : Nat → String} {now : String} {tags : List String}
    {table after : Table SlugRow} (h : insertSlugs candidates now tags table = .ok after)
    {tag : String} {row : SlugRow} (hrow : after.find? tag = some row) :
    table.find? tag = some row ∨
      ∃ index, tags[index]? = some tag ∧ row.slug = candidates index := by
  have hadds := rel_of_foldlM (fun before after => ∀ tag row, after.find? tag = some row →
    before.find? tag = some row ∨ ∃ index, tags[index]? = some tag ∧ row.slug = candidates index)
    h (fun _ _ _ => Or.inl) ?_ ?_
  · exact hadds tag row hrow
  · intro first second third hfirst hsecond tag row hrow
    rcases hsecond tag row hrow with hkept | hadded
    · exact hfirst tag row hkept
    · exact Or.inr hadded
  · intro before item after hitem hstep tag row hrow
    rcases find?_of_insertSlug hstep hrow with hkept | ⟨rfl, hslug⟩
    · exact Or.inl hkept
    · exact Or.inr ⟨item.2, List.mem_zipIdx_iff_getElem?.mp hitem, hslug⟩

theorem exists_insertSlug_of_new {tag candidate : String} {table : Table SlugRow} (now : String)
    (hempty : notEmpty tag = true)
    (hnew : ∀ other row, table.find? other = some row → row.slug ≠ candidate) :
    ∃ after, insertSlug now tag candidate table = .ok after := by
  unfold insertSlug requireNotEmpty
  rw [if_pos hempty, any_slug_eq_false_iff.mpr hnew]
  cases table.contains tag <;> exact ⟨_, rfl⟩

/-- Under identifiers that are new, a batch is refused exactly for a tag that the schema refuses. -/
private theorem foldlM_of_new {candidates : Nat → String} {now : String}
    {items : List (String × Nat)} {table : Table SlugRow}
    {result : Except StoreFault (Table SlugRow)}
    (hresult : items.foldlM (fun table item => insertSlug now item.1 (candidates item.2) table)
      table = result)
    (hdistinct : (items.map fun item => candidates item.2).Nodup)
    (hnew : ∀ tag row, table.find? tag = some row →
      row.slug ∉ items.map fun item => candidates item.2) :
    (∀ item ∈ items, notEmpty item.1 = true) ∧ (∃ after, result = .ok after) ∨
      (∃ item ∈ items, notEmpty item.1 = false) ∧
        result = .error (.checkFailed (.notEmpty "tag")) := by
  induction items generalizing table with
  | nil => exact Or.inl ⟨List.forall_mem_nil _, table, hresult.symm⟩
  | cons item rest ih =>
      rw [List.map_cons, List.nodup_cons] at hdistinct
      simp only [List.map_cons, List.mem_cons, not_or] at hnew
      cases hempty : notEmpty item.1 with
      | false =>
          refine Or.inr ⟨⟨item, List.mem_cons_self, hempty⟩, hresult.symm.trans ?_⟩
          rw [List.foldlM_cons, insertSlug, requireNotEmpty, hempty]
          rfl
      | true =>
          obtain ⟨middle, hmiddle⟩ : ∃ middle,
              insertSlug now item.1 (candidates item.2) table = .ok middle :=
            exists_insertSlug_of_new now hempty fun other row hrow => (hnew other row hrow).1
          have hnewMiddle : ∀ tag row, middle.find? tag = some row →
              row.slug ∉ rest.map fun item => candidates item.2 := by
            intro tag row hrow
            rcases find?_of_insertSlug hmiddle hrow with hold | ⟨-, hslug⟩
            · exact (hnew tag row hold).2
            · rw [hslug]
              exact hdistinct.1
          rw [List.foldlM_cons, hmiddle] at hresult
          rcases ih hresult hdistinct.2 hnewMiddle with ⟨hall, hafter⟩ | ⟨⟨other, hother, hfalse⟩, herror⟩
          · exact Or.inl ⟨List.forall_mem_cons.mpr ⟨hempty, hall⟩, hafter⟩
          · exact Or.inr ⟨⟨other, List.mem_cons_of_mem item hother, hfalse⟩, herror⟩

theorem insertSlugs_of_new {candidates : Nat → String} {tags : List String}
    {table : Table SlugRow} (now : String)
    (hdistinct : ((List.range tags.length).map candidates).Nodup)
    (hnew : ∀ tag row, table.find? tag = some row →
      row.slug ∉ (List.range tags.length).map candidates) :
    (∀ tag ∈ tags, notEmpty tag = true) ∧
        (∃ after, insertSlugs candidates now tags table = .ok after) ∨
      (∃ tag ∈ tags, notEmpty tag = false) ∧
        insertSlugs candidates now tags table = .error (.checkFailed (.notEmpty "tag")) := by
  have hindices : (tags.zipIdx.map fun item => candidates item.2) =
      (List.range tags.length).map candidates := by
    rw [List.range_eq_range', ← List.zipIdx_map_snd 0 tags, List.map_map]
    rfl
  have htags (tag : String) : tag ∈ tags ↔ ∃ item ∈ tags.zipIdx, item.1 = tag := by
    conv_lhs => rw [← List.zipIdx_map_fst 0 tags, List.mem_map]
  rw [← hindices] at hdistinct hnew
  obtain ⟨result, hresult⟩ : ∃ result, insertSlugs candidates now tags table = result := ⟨_, rfl⟩
  rw [hresult]
  rcases foldlM_of_new hresult hdistinct hnew with
    ⟨hall, hafter⟩ | ⟨⟨item, hitem, hfalse⟩, herror⟩
  · refine Or.inl ⟨fun tag htag => ?_, hafter⟩
    obtain ⟨item, hitem, rfl⟩ := (htags tag).mp htag
    exact hall item hitem
  · exact Or.inr ⟨⟨item.1, (htags item.1).mpr ⟨item, hitem, rfl⟩, hfalse⟩, herror⟩

/-! ## Look-ups -/

theorem find?_lookupTags (table : Table SlugRow) (found : Table String) (tags : List String)
    (key : String) :
    (lookupTags table found tags).find? key =
      (if key ∈ tags then (table.find? key).map (·.slug) else none).or (found.find? key) := by
  unfold lookupTags
  induction tags generalizing found with
  | nil => simp
  | cons tag rest ih =>
      rw [List.foldl_cons, ih]
      by_cases hrest : key ∈ rest
      · cases hkey : table.find? key with
        | some row => simp [hrest]
        | none =>
            by_cases htag : key = tag
            · subst htag
              simp [hkey]
            · cases htable : table.find? tag <;>
                simp [hrest, Table.find?_insert_of_ne _ _ htag]
      · by_cases htag : key = tag
        · subst htag
          cases htable : table.find? key <;> simp [hrest]
        · cases htable : table.find? tag <;>
            simp [hrest, htag, Table.find?_insert_of_ne _ _ htag]

theorem contains_lookupTags {table : Table SlugRow} {found : Table String} {tags : List String}
    {tag : String} :
    (lookupTags table found tags).contains tag = true ↔
      tag ∈ tags ∧ table.contains tag = true ∨ found.contains tag = true := by
  simp only [Table.contains, find?_lookupTags]
  by_cases htag : tag ∈ tags <;> simp [htag]

theorem lookupChunked_eq (chunk : Nat) (table : Table SlugRow) (tags : List String)
    (found : Table String) : lookupChunked chunk table tags found = lookupTags table found tags := by
  conv_rhs => rw [← flatten_chunks chunk tags]
  rw [lookupChunked, lookupTags, List.foldl_flatten]
  rfl

end Store

end TagLedger
