import TagLedger.Proofs.Registry.Permanence
import TagLedger.Proofs.Tag.Canonical

/-!
# Batches of canonical tags

A batch of tags that are canonical already is resolved under these very tags.  Whether it succeeds
or not, the registry gains entries for tags of the batch only, and nothing else changes; a batch
whose tags are all registered is only looked up.
-/

namespace TagLedger

namespace Store

/-- The registry holds what it held and may have gained tags of a batch; the rest of the store is as
before. -/
structure Adds (tags : List String) (before after : Store) : Prop where
  keeps : Keeps before after
  added : ∀ {tag row}, after.slugTable.find? tag = some row →
    before.slugTable.find? tag = some row ∨ tag ∈ tags
  frame : after = { before with slugs := after.slugs }

theorem Adds.refl (tags : List String) (store : Store) : Adds tags store store :=
  ⟨Keeps.refl store, Or.inl, rfl⟩

theorem mem_tags_iff {store : Store} {tag : String} :
    tag ∈ store.entries.map (·.tag) ↔ store.slugTable.contains tag = true := by
  rw [Table.contains_iff, List.mem_map]
  constructor
  · rintro ⟨entry, hentry, rfl⟩
    exact ⟨_, mem_entries_iff.mp hentry⟩
  · rintro ⟨row, hrow⟩
    exact ⟨_, ofRow_mem_entries hrow, rfl⟩

/-- Once a batch is registered, the entries are the old ones and one for each of its tags that had
none. -/
theorem Adds.exists_added {tags : List String} {before after : Store} (h : Adds tags before after)
    (hcontains : ∀ tag ∈ tags, after.slugTable.contains tag = true) :
    ∃ added : List SlugEntry, after.entries.Perm (before.entries ++ added) ∧
      (added.map (·.tag)).Nodup ∧ ∀ tag, tag ∈ added.map (·.tag) ↔
        tag ∈ tags ∧ tag ∉ before.entries.map (·.tag) := by
  have hold : (after.entries.filter fun entry => before.slugTable.contains entry.tag).Perm
      before.entries := by
    refine (List.perm_ext_iff_of_nodup (List.Nodup.filter _ (.of_map _ after.nodup_tags))
      (.of_map _ before.nodup_tags)).mpr fun entry => ?_
    rw [List.mem_filter, Table.contains_iff]
    constructor
    · rintro ⟨hentry, row, hrow⟩
      have hkept := (h.keeps.kept hrow).symm.trans (mem_entries_iff.mp hentry)
      exact mem_entries_iff.mpr (hrow.trans hkept)
    · intro hentry
      exact ⟨h.keeps.entries_subset hentry, _, mem_entries_iff.mp hentry⟩
  refine ⟨after.entries.filter fun entry => !before.slugTable.contains entry.tag, ?_, ?_,
    fun tag => ?_⟩
  · exact (List.filter_append_perm _ after.entries).symm.trans (hold.append_right _)
  · exact after.nodup_tags.sublist (List.filter_sublist.map _)
  · rw [mem_tags_iff, List.mem_map]
    constructor
    · rintro ⟨entry, hentry, rfl⟩
      obtain ⟨hafter, hnew⟩ := List.mem_filter.mp hentry
      have hnone : before.slugTable.contains entry.tag ≠ true := by simpa using hnew
      refine ⟨(h.added (mem_entries_iff.mp hafter)).resolve_left fun hrow => ?_, hnone⟩
      exact hnone (Table.contains_iff.mpr ⟨_, hrow⟩)
    · rintro ⟨htag, hnew⟩
      obtain ⟨row, hrow⟩ := Table.contains_iff.mp (hcontains tag htag)
      exact ⟨_, List.mem_filter.mpr ⟨ofRow_mem_entries hrow,
        by simpa [SlugEntry.ofRow] using hnew⟩, rfl⟩

theorem adds_of_insertSlugs {candidates : Nat → String} {now : String} {tags misses : List String}
    {store : Store} {table after : Table SlugRow} (htable : store.registry = .ok table)
    (hmisses : misses ⊆ tags) (h : insertSlugs candidates now misses table = .ok after) :
    Adds tags store (store.withRegistry after) where
  keeps := by
    rw [Keeps, slugTable_of_registry htable]
    exact grows_of_insertSlugs h
  added := by
    intro tag row hrow
    rw [slugTable_of_registry htable]
    refine (find?_of_insertSlugs h hrow).imp_right fun hadded => ?_
    obtain ⟨index, hindex, -⟩ := hadded
    exact hmisses (List.mem_of_getElem? hindex)
  frame := rfl

theorem adds_resolveCanonical (candidates : Nat → String) (now : String) (tags : List String)
    (store : Store) : Adds tags store (store.resolveCanonical candidates now tags).2 := by
  unfold resolveCanonical
  split
  · exact Adds.refl tags store
  · split
    · exact Adds.refl tags store
    · next table htable =>
        dsimp only
        split
        · exact Adds.refl tags store
        · split
          · exact Adds.refl tags store
          · next after hafter =>
              unfold attempt at hafter
              split at hafter
              · cases hafter
              · exact adds_of_insertSlugs htable (fun _ => List.mem_of_mem_filter) hafter

theorem resolveCanonical_of_contains {tags : List String} {store : Store}
    (h : ∀ tag ∈ tags, store.slugTable.contains tag = true) (candidates : Nat → String)
    (now : String) : ∃ found, store.resolveCanonical candidates now tags = (.ok found, store) := by
  unfold resolveCanonical
  split
  · exact ⟨.empty, rfl⟩
  · next hempty =>
      obtain ⟨tag, htag⟩ := List.exists_mem_of_ne_nil tags (by simpa using hempty)
      cases hslugs : store.slugs with
      | none =>
          have hcontains := h tag htag
          simp [slugTable, hslugs, Table.contains] at hcontains
      | some table =>
          have htable : store.registry = .ok table := by rw [registry, hslugs, require]
          have hmisses : (tags.filter fun tag =>
              !(lookupTags table .empty tags).contains tag) = [] := by
            refine List.filter_eq_nil_iff.mpr fun tag htag => ?_
            have hcontains := h tag htag
            rw [slugTable_of_registry htable] at hcontains
            simp [contains_lookupTags.mpr (Or.inl ⟨htag, hcontains⟩)]
          simp only [htable, lookupChunked_eq, hmisses, List.isEmpty_nil, ↓reduceIte]
          exact ⟨_, rfl⟩

/-! ## Slugs that were found -/

theorem HoldsFound.contains {found : Table String} {store : Store} (h : HoldsFound found store)
    {tag : String} (hfound : found.contains tag = true) : store.slugTable.contains tag = true := by
  obtain ⟨slug, hslug⟩ := Table.contains_iff.mp hfound
  obtain ⟨row, hrow, -⟩ := h tag slug hslug
  exact Table.contains_iff.mpr ⟨row, hrow⟩

theorem HoldsFound.of_entries_subset {found : Table String} {before after : Store}
    (h : HoldsFound found before) (hentries : before.entries ⊆ after.entries) :
    HoldsFound found after := by
  intro tag slug hslug
  obtain ⟨row, hrow, hsame⟩ := h tag slug hslug
  exact ⟨row, mem_entries_iff.mp (hentries (ofRow_mem_entries hrow)), hsame⟩

theorem HoldsFound.find?_eq {found other : Table String} {store : Store}
    (h : HoldsFound found store) (hother : HoldsFound other store) {tag : String}
    (hfound : found.contains tag = true) (hcontains : other.contains tag = true) :
    found.find? tag = other.find? tag := by
  obtain ⟨slug, hslug⟩ := Table.contains_iff.mp hfound
  obtain ⟨otherSlug, hotherSlug⟩ := Table.contains_iff.mp hcontains
  obtain ⟨row, hrow, rfl⟩ := h tag slug hslug
  obtain ⟨same, hsame, rfl⟩ := hother tag otherSlug hotherSlug
  rw [hslug, hotherSlug, Option.some.inj (hrow.symm.trans hsame)]

/-! ## Canonical tags -/

theorem mapM_canonicalOrInvalid {tags : List String} (h : ∀ tag ∈ tags, Tag.Normal tag) :
    tags.mapM canonicalOrInvalid = .ok tags := by
  induction tags with
  | nil => rfl
  | cons tag rest ih =>
      obtain ⟨htag, hrest⟩ := List.forall_mem_cons.mp h
      rw [List.mapM_cons, canonicalOrInvalid, htag.canonicalize, ih hrest]
      rfl

theorem resolveAll_of_normal {tags : List String} (h : ∀ tag ∈ tags, Tag.Normal tag)
    (candidates : Nat → String) (now : String) (store : Store) :
    store.resolveAll candidates now tags =
      store.resolveCanonical candidates now (orderedSet tags) := by
  rw [resolveAll, mapM_canonicalOrInvalid h]

theorem adds_resolveAll {tags : List String} (h : ∀ tag ∈ tags, Tag.Normal tag)
    (candidates : Nat → String) (now : String) (store : Store) :
    Adds tags store (store.resolveAll candidates now tags).2 := by
  rw [resolveAll_of_normal h]
  have hadds := adds_resolveCanonical candidates now (orderedSet tags) store
  exact ⟨hadds.keeps, fun hrow => (hadds.added hrow).imp_right mem_orderedSet.mp, hadds.frame⟩

/-- A batch that is resolved is resolved to slugs that the registry holds afterwards. -/
theorem resolves_resolveAll {candidates : Nat → String} {now : String} {tags : List String}
    {store after : Store} {slugs : Table String} (h : ∀ tag ∈ tags, Tag.Normal tag)
    (hresolve : store.resolveAll candidates now tags = (.ok slugs, after)) :
    HoldsFound slugs after ∧ ∀ tag ∈ tags, slugs.contains tag = true := by
  have hensures := (ensures_resolveAllProgram candidates now tags store).run Keeps.refl
  rw [run_resolveAllProgram, hresolve] at hensures
  obtain ⟨hholds, hcontains⟩ := hensures slugs rfl
  refine ⟨hholds, fun tag htag => ?_⟩
  obtain ⟨canonical, hcanonical, hfound⟩ := hcontains tag htag
  obtain rfl := Option.some.inj ((h tag htag).canonicalize.symm.trans hcanonical)
  exact hfound

theorem resolveAll_of_contains {tags : List String} {store : Store}
    (h : ∀ tag ∈ tags, Tag.Normal tag)
    (hcontains : ∀ tag ∈ tags, store.slugTable.contains tag = true) (candidates : Nat → String)
    (now : String) : ∃ slugs, store.resolveAll candidates now tags = (.ok slugs, store) := by
  rw [resolveAll_of_normal h]
  exact resolveCanonical_of_contains
    (fun tag htag => hcontains tag (mem_orderedSet.mp htag)) candidates now

end Store

end TagLedger
