import TagLedger.Proofs.Identifier
import TagLedger.Proofs.Registry.Agreement
import TagLedger.Proofs.Text.Utf8

/-!
# Tags and slugs in correspondence

Every entry that an operation makes stands under a canonical tag that the schema takes and carries
an identifier that no other entry has.  So each way into the registry, by a tag in any spelling or
by a slug with blanks around it, leads to the same entry, and each leads back to where it started.
-/

namespace TagLedger

/-- The operation draws identifiers of the usual form and leaves alone whether the store can be
written. -/
def Operation.Regular : Operation → Prop
  | .resolve _ candidate _ => IsIdentifier candidate
  | .resolveAll _ candidates _ => ∀ index, IsIdentifier (candidates index)
  | .hashtagUsage _ candidates _ => ∀ index, IsIdentifier (candidates index)
  | .setRefusal _ => False
  | _ => True

def Operation.IsLookup : Operation → Prop
  | .lookupSlug _ => True
  | .findTag _ => True
  | _ => False

namespace Store

/-! ## Faithful registries -/

/-- Rows as insertions make them. -/
structure FaithfulRows (table : Table SlugRow) : Prop where
  normal : ∀ {tag row}, table.find? tag = some row → Tag.Normal tag
  accepted : ∀ {tag row}, table.find? tag = some row → notEmpty tag = true
  identifier : ∀ {tag row}, table.find? tag = some row → IsIdentifier row.slug
  distinct : SlugsDistinct table

theorem faithfulRows_empty : FaithfulRows .empty where
  normal h := by cases h
  accepted h := by cases h
  identifier h := by cases h
  distinct h := by cases h

theorem notEmpty_of_insertSlug {now tag candidate : String} {table after : Table SlugRow}
    (h : insertSlug now tag candidate table = .ok after) : notEmpty tag = true := by
  unfold insertSlug requireNotEmpty at h
  split at h
  · cases h
  · next hrequired =>
      by_contra hempty
      simp [hempty] at hrequired

theorem FaithfulRows.insertSlug {now tag candidate : String} {table after : Table SlugRow}
    (h : FaithfulRows table) (hnormal : Tag.Normal tag) (hcandidate : IsIdentifier candidate)
    (hinsert : Store.insertSlug now tag candidate table = .ok after) : FaithfulRows after where
  normal hrow := by
    rcases find?_of_insertSlug hinsert hrow with hold | ⟨rfl, -⟩
    · exact h.normal hold
    · exact hnormal
  accepted hrow := by
    rcases find?_of_insertSlug hinsert hrow with hold | ⟨rfl, -⟩
    · exact h.accepted hold
    · exact notEmpty_of_insertSlug hinsert
  identifier hrow := by
    rcases find?_of_insertSlug hinsert hrow with hold | ⟨-, hslug⟩
    · exact h.identifier hold
    · exact hslug ▸ hcandidate
  distinct := (grows_of_insertSlug hinsert).distinct h.distinct

theorem FaithfulRows.insertSlugs {candidates : Nat → String} {now : String} {tags : List String}
    {table after : Table SlugRow} (h : FaithfulRows table) (hnormal : ∀ tag ∈ tags, Tag.Normal tag)
    (hcandidates : ∀ index, IsIdentifier (candidates index))
    (hinsert : Store.insertSlugs candidates now tags table = .ok after) : FaithfulRows after := by
  refine rel_of_foldlM (fun before after => FaithfulRows before → FaithfulRows after) hinsert
    (fun _ => id) (fun hfirst hsecond => hsecond ∘ hfirst) (fun hitem hstep => ?_) h
  exact fun hbefore => hbefore.insertSlug
    (hnormal _ (List.mem_of_getElem? (List.mem_zipIdx_iff_getElem?.mp hitem)))
    (hcandidates _) hstep

/-- The registry is there, can be written, and holds only rows as insertions make them. -/
structure Faithful (store : Store) : Prop where
  slugs : store.slugs.isSome = true
  refusal : store.refusal = none
  rows : FaithfulRows store.slugTable

/-- What a step of a regular operation guarantees. -/
def KeepsFaithful (before after : Store) : Prop :=
  before.Faithful → after.Faithful

theorem KeepsFaithful.of_eq {before after : Store} (hslugs : after.slugs = before.slugs)
    (hrefusal : after.refusal = before.refusal) : KeepsFaithful before after := by
  intro h
  refine ⟨hslugs ▸ h.slugs, hrefusal.trans h.refusal, ?_⟩
  rw [slugTable, hslugs]
  exact h.rows

/-! ## What the steps do -/

theorem keepsFaithful_registerTag {candidate canonical : String} (now : String)
    (hnormal : Tag.Normal canonical) (hcandidate : IsIdentifier candidate) (store : Store) :
    KeepsFaithful store (registerTag candidate now canonical store).2 := by
  intro h
  unfold registerTag
  split
  · exact h
  · next hwrite =>
      exact ⟨rfl, h.refusal, h.rows.insertSlug hnormal hcandidate (write_cases hwrite)⟩

theorem keepsFaithful_registerMisses {candidates : Nat → String} {misses : List String}
    (hcandidates : ∀ index, IsIdentifier (candidates index)) (now : String) (found : Table String)
    (hforms : ∀ miss ∈ misses, ∃ tag, Tag.canonicalize tag = some miss) (store : Store) :
    KeepsFaithful store (registerMisses candidates now misses found store).2 := by
  intro h
  unfold registerMisses
  split
  · exact h
  · next hwrite =>
      have hnormal : ∀ miss ∈ misses, Tag.Normal miss := fun miss hmiss =>
        let ⟨_, hform⟩ := hforms miss hmiss
        Tag.normal_of_canonicalize hform
      exact ⟨rfl, h.refusal, h.rows.insertSlugs hnormal hcandidates (write_cases hwrite)⟩

theorem refusal_upsertDocuments (candidates : Nat → String) (now : String)
    (collection : Collection) (documents : List Json) (store : Store) :
    (store.upsertDocuments candidates now collection documents).2.refusal = store.refusal :=
  part_upsertDocuments (·.refusal) (fun _ collection _ => by cases collection <;> rfl) ..

theorem refusal_setColor (now tag color : String) (store : Store) :
    (store.setColor now tag color).2.refusal = store.refusal :=
  part_setColor (·.refusal) (fun _ _ => rfl) ..

theorem refusal_putAsset (now key : String) (kind : AssetKind) (title : String)
    (content : Option String) (store : Store) :
    (putAsset now key kind title content store).2.refusal = store.refusal :=
  part_putAsset (·.refusal) (fun _ _ => rfl) ..

theorem refusal_removeAsset (key : String) (store : Store) :
    (removeAsset key store).2.refusal = store.refusal :=
  part_removeAsset (·.refusal) (fun _ _ => rfl) ..

theorem keepsFaithful_upgradeTo (now : String) (version : Nat) (store : Store) :
    KeepsFaithful store (upgradeTo now version store).2 := by
  intro h
  have hrows : FaithfulRows (upgradeTo now version store).2.slugTable := by
    rw [slugTable_upgradeTo]
    exact h.rows
  unfold upgradeTo at hrows ⊢
  split
  · exact h
  · next after hupgrade =>
      rw [hupgrade] at hrows
      have hkept := keepsRows_upgrade hupgrade
      obtain ⟨table, htable⟩ := Option.isSome_iff_exists.mp h.slugs
      exact ⟨by rw [hkept.slugs.eq_some htable]; rfl, hkept.refusal.trans h.refusal, hrows⟩

/-! ## What the operations do -/

theorem keepsFaithful_refl (store : Store) : KeepsFaithful store store :=
  id

theorem within_program {operation : Operation} (h : operation.Regular) :
    operation.program.Within KeepsFaithful := by
  refine Operation.WritesWithin.program keepsFaithful_refl ?_
  cases operation with
  | resolve tag candidate now =>
      exact fun canonical hcanonical store =>
        keepsFaithful_registerTag now (Tag.normal_of_canonicalize hcanonical) h store
  | resolveAll tags candidates now => exact fun _ found => keepsFaithful_registerMisses h now found
  | hashtagUsage options candidates now =>
      exact fun _ found => keepsFaithful_registerMisses h now found
  | lookupSlug slug => trivial
  | findTag tag => trivial
  | listEntries => trivial
  | upsertDocuments collection documents candidates now =>
      exact fun store => .of_eq (slugs_upsertDocuments candidates now collection documents store)
        (refusal_upsertDocuments candidates now collection documents store)
  | setColor tag color now =>
      exact fun store =>
        .of_eq (slugs_setColor now tag color store) (refusal_setColor now tag color store)
  | upsertAsset key kind title content now =>
      exact fun key store => .of_eq (slugs_putAsset now key kind title content store)
        (refusal_putAsset now key kind title content store)
  | deleteAsset key force =>
      exact fun key store => .of_eq (slugs_removeAsset key store) (refusal_removeAsset key store)
  | migrate now => exact keepsFaithful_upgradeTo now
  | reopen root now logged => exact keepsFaithful_upgradeTo now
  | setRefusal refusal => exact h.elim
  | setVersion version => exact fun store => .of_eq rfl rfl

theorem within_program_eq {operation : Operation} (h : operation.IsLookup) :
    operation.program.Within fun before after => after = before := by
  have hwrites : operation.WritesWithin fun before after => after = before := by
    cases operation with
    | lookupSlug slug => trivial
    | findTag tag => trivial
    | _ => exact h.elim
  refine Operation.WritesWithin.program ?_ hwrites
  exact fun _ => rfl

end Store

/-! ## What runs do -/

theorem Workload.rel_run (order : Store → Store → Prop) (refl : ∀ store, order store store)
    (trans : ∀ {first second third}, order first second → order second third → order first third)
    {operations : List Operation} (h : ∀ operation ∈ operations, operation.program.Within order)
    (store : Store) (schedule : List Nat) :
    order store ((start store operations).run schedule).state := by
  have hcompatible : Compatible (fun _ => order) fun _ => order :=
    ⟨fun _ => refl, fun _ _ _ _ => trans, fun _ _ _ => id⟩
  have hsound : (start store operations).Sound (fun _ => order) (fun _ => order)
      fun _ _ _ => True := by
    intro index program hprogram
    obtain ⟨operation, hoperation, rfl⟩ : ∃ operation, operations[index]? = some operation ∧
        operation.program = program := by
      simpa [start] using hprogram
    exact (h operation (List.mem_of_getElem? hoperation)).ensures (fun _ _ => trivial) store
  exact hsound.state_run hcompatible refl trans (fun _ => id) schedule

namespace Store

theorem faithful_blank (now : String) : (Store.blank.migrate now).2.Faithful :=
  ⟨rfl, rfl, faithfulRows_empty⟩

theorem Faithful.run {store : Store} (h : store.Faithful) {operations : List Operation}
    (hregular : ∀ operation ∈ operations, operation.Regular) (schedule : List Nat) :
    ((Workload.start store operations).run schedule).state.Faithful :=
  Workload.rel_run KeepsFaithful keepsFaithful_refl (fun hfirst hsecond => hsecond ∘ hfirst)
    (fun operation hoperation => within_program (hregular operation hoperation)) store schedule h

/-! ## The ways into a faithful registry -/

variable {store : Store} {entry : SlugEntry}

theorem pairwise_entries (store : Store) :
    store.entries.Pairwise fun left right => Text.utf8 left.tag < Text.utf8 right.tag := by
  rw [entries, List.pairwise_map]
  exact store.slugTable.ordered.imp fun hlt => Text.utf8_lt_iff.mpr hlt

theorem Faithful.listEntries (h : store.Faithful) : store.listEntries = .ok store.entries := by
  rw [Store.listEntries, registry_of_isSome h.slugs]
  rfl

theorem Faithful.canonicalize_tag (h : store.Faithful) (hentry : entry ∈ store.entries) :
    Tag.canonicalize entry.tag = some entry.tag :=
  (h.rows.normal (mem_entries_iff.mp hentry)).canonicalize

theorem Faithful.findTag_eq_iff (h : store.Faithful) (hentry : entry ∈ store.entries)
    (text : String) :
    Tag.canonicalize text = some entry.tag ↔ store.findTag text = .ok (some entry) := by
  unfold findTag
  cases hcanonical : Tag.canonicalize text with
  | none => simp
  | some canonical =>
      rw [registry_of_isSome h.slugs]
      simp only [Option.some.injEq, Except.ok.injEq, Option.map_eq_some_iff]
      constructor
      · rintro rfl
        exact ⟨_, mem_entries_iff.mp hentry, rfl⟩
      · rintro ⟨row, -, rfl⟩
        rfl

theorem Faithful.resolve (h : store.Faithful) (hentry : entry ∈ store.entries) {text : String}
    (hcanonical : Tag.canonicalize text = some entry.tag) (candidate now : String) :
    store.resolve candidate now text = (.ok entry.slug, store) := by
  have hrow := mem_entries_iff.mp hentry
  have hkept : Store.insertSlug now entry.tag candidate store.slugTable = .ok store.slugTable := by
    rw [Store.insertSlug, requireNotEmpty, if_pos (h.rows.accepted hrow),
      if_pos (Table.contains_iff.mpr ⟨_, hrow⟩)]
  have hsame : store.withRegistry store.slugTable = store := by
    obtain ⟨table, htable⟩ := Option.isSome_iff_exists.mp h.slugs
    rw [slugTable, htable, Option.getD_some, withRegistry, ← htable]
  simp only [Store.resolve, canonicalOrInvalid, hcanonical, registry_of_isSome h.slugs, Except.bind,
    attempt, h.refusal, hkept, hrow, hsame]

theorem Faithful.lookupSlug_of_trim (h : store.Faithful) (hentry : entry ∈ store.entries)
    {text : String} (htrim : Text.trim text = entry.slug) :
    store.lookupSlug text = .ok entry := by
  have hrow := mem_entries_iff.mp hentry
  have hnonempty : entry.slug.isEmpty = false := by
    simpa using (h.rows.identifier hrow).solid.nonempty
  obtain ⟨found, hfound⟩ : ∃ found, store.slugTable.rows.find? (·.2.slug == entry.slug) =
      some found := by
    refine Option.isSome_iff_exists.mp (List.find?_isSome.mpr ?_)
    exact ⟨_, Table.mem_rows_iff.mpr hrow, beq_self_eq_true entry.slug⟩
  obtain ⟨tag, row⟩ := found
  have hheld := Table.mem_rows_iff.mp (List.mem_of_find?_eq_some hfound)
  have hslug : row.slug = entry.slug := by simpa using List.find?_some hfound
  obtain rfl : tag = entry.tag := h.rows.distinct hheld hrow hslug
  obtain rfl := Option.some.inj (hheld.symm.trans hrow)
  simp only [lookupSlug, htrim, hnonempty, Bool.false_eq_true, ↓reduceIte,
    registry_of_isSome h.slugs, hfound]
  rfl

theorem slug_of_lookupSlug {text : String} (h : store.lookupSlug text = .ok entry) :
    entry.slug = Text.trim text := by
  unfold lookupSlug at h
  dsimp only at h
  split at h
  · cases h
  · split at h
    · cases h
    · split at h
      · next row hrow =>
          cases h
          simpa [SlugEntry.ofRow] using List.find?_some hrow
      · cases h

end Store

/-- Text with blanks around an identifier trims to the identifier. -/
theorem IsIdentifier.trim_padded {text left right : String} (h : IsIdentifier text)
    (hleft : Text.isAllBlank left = true) (hright : Text.isAllBlank right = true) :
    Text.trim (left ++ text ++ right) = text := by
  rw [Text.trim_padded hleft hright, Text.trim_eq_self h.solid.trimmed]

/-- After every run on a fresh store, however its operations follow or interrupt one another: the
entries are listed in strict order of the bytes of their tags, no two share a slug, and each tag is
its own canonical form.  A text is a spelling of an entry's tag exactly if that is the entry found
for it, and resolving such a text gives the entry's slug and writes nothing.  The slug with any
blanks around it leads back to the entry, a slug that leads to an entry is given again when the
entry's tag is resolved, and no look-up changes the store. -/
theorem registry_bijective (now : String) (operations : List Operation)
    (hregular : ∀ operation ∈ operations, operation.Regular) (schedule : List Nat) :
    let store := ((Workload.start (Store.blank.migrate now).2 operations).run schedule).state
    ∃ entries, store.listEntries = .ok entries ∧
      entries.Pairwise (fun left right => Text.utf8 left.tag < Text.utf8 right.tag) ∧
      (entries.map (·.slug)).Nodup ∧
      (∀ entry ∈ entries, Tag.canonicalize entry.tag = some entry.tag ∧
        (∀ text, (Tag.canonicalize text = some entry.tag ↔
            store.findTag text = .ok (some entry)) ∧
          (Tag.canonicalize text = some entry.tag → ∀ candidate later,
            store.resolve candidate later text = (.ok entry.slug, store))) ∧
        ∀ left right, Text.isAllBlank left = true → Text.isAllBlank right = true →
          store.lookupSlug (left ++ entry.slug ++ right) = .ok entry) ∧
      (∀ text entry, store.findTag text = .ok (some entry) → entry ∈ entries) ∧
      (∀ text entry, store.lookupSlug text = .ok entry →
        entry ∈ entries ∧ ∀ candidate later,
          store.resolve candidate later entry.tag = (.ok (Text.trim text), store)) ∧
      ∀ lookups : List Operation, (∀ operation ∈ lookups, operation.IsLookup) →
        ∀ order, ((Workload.start store lookups).run order).state = store := by
  intro store
  have hfaithful : store.Faithful := (Store.faithful_blank now).run hregular schedule
  refine ⟨store.entries, hfaithful.listEntries, store.pairwise_entries,
    Store.slugsDistinct_iff_nodup.mp hfaithful.rows.distinct, fun entry hentry => ⟨?_, ?_, ?_⟩,
    fun text entry => Store.mem_entries_of_findTag, fun text entry hfound => ⟨?_, ?_⟩,
    fun lookups hlookups order => ?_⟩
  · exact hfaithful.canonicalize_tag hentry
  · exact fun text => ⟨hfaithful.findTag_eq_iff hentry text, hfaithful.resolve hentry⟩
  · intro left right hleft hright
    have hidentifier := hfaithful.rows.identifier (Store.mem_entries_iff.mp hentry)
    exact hfaithful.lookupSlug_of_trim hentry (hidentifier.trim_padded hleft hright)
  · exact Store.mem_entries_of_lookupSlug hfound
  · have hentry := Store.mem_entries_of_lookupSlug hfound
    rw [← Store.slug_of_lookupSlug hfound]
    exact hfaithful.resolve hentry (hfaithful.canonicalize_tag hentry)
  · exact Workload.rel_run (fun before after => after = before) (fun _ => rfl)
      (fun hfirst hsecond => hsecond.trans hfirst)
      (fun operation hoperation => Store.within_program_eq (hlookups operation hoperation))
      store order

/-- A tag in three spellings, while a report registers those of a project. -/
def census : List Operation :=
  let project : Json := .object [("categorizedHashtags",
    .object [("Tier", .array [.string "Gold", .string " \u00c9T\u00c9"])])]
  [.upsertDocuments .projects [project] (Identifier.sequence 3 5) "t1",
    .resolve "\u00e9t\u00e9" (Identifier.sequence 8 2 0) "t2",
    .hashtagUsage ⟨true, none⟩ (Identifier.sequence 1 4) "t3",
    .resolveAll ["gold", "\u00c9t\u00e9\n"] (Identifier.sequence 6 1) "t4"]

theorem census_bijective :
    let store := ((Workload.start (Store.blank.migrate "t0").2 census).run
      [0, 2, 3, 2, 1, 2, 3, 1]).state
    store.entries.map (·.tag) = ["gold", "tier:gold", "tier:\u00e9t\u00e9", "\u00e9t\u00e9"] ∧
      (∀ entry ∈ store.entries, store.lookupSlug ("\t" ++ entry.slug ++ "\u2003") = .ok entry) ∧
      ∃ slug, ∀ candidate later,
        store.resolve candidate later "\u00c9T\u00c9\n" = (.ok slug, store) := by
  intro store
  have hregular : ∀ operation ∈ census, operation.Regular := by
    simp only [census, List.mem_cons, List.not_mem_nil, or_false]
    rintro operation (rfl | rfl | rfl | rfl)
    · trivial
    · exact ⟨_, rfl⟩
    · exact fun index => ⟨_, rfl⟩
    · exact fun index => ⟨_, rfl⟩
  obtain ⟨entries, hlist, -, -, hways, -⟩ :=
    registry_bijective "t0" census hregular [0, 2, 3, 2, 1, 2, 3, 1]
  obtain rfl : entries = store.entries := Store.eq_entries_of_listEntries hlist
  have htags : store.entries.map (·.tag) =
      ["gold", "tier:gold", "tier:\u00e9t\u00e9", "\u00e9t\u00e9"] := by
    decide +kernel
  obtain ⟨entry, hentry, htag⟩ : ∃ entry ∈ store.entries, entry.tag = "\u00e9t\u00e9" := by
    rw [← List.mem_map, htags]
    decide
  refine ⟨htags, fun entry hentry => (hways entry hentry).2.2 _ _ (by decide) (by decide),
    entry.slug, ((hways entry hentry).2.1 _).2 ?_⟩
  rw [htag]
  decide +kernel

end TagLedger
