import TagLedger.Proofs.Store.Within
import Mathlib.Data.List.Nodup

/-!
# Permanence of the registry

No operation removes or rewrites an entry of the registry, and none lets two tags share a slug.  So
whatever an answer says about a tag's slug stays true: the entry that it came from is there in every
later state, however the statements of other operations come in between.  Any call may fail at any
of its statements, because writes begin to be refused, or be cut off, which is to be given no more
steps.
-/

namespace TagLedger

namespace Store

/-- The registry, which is empty as long as it has not been created. -/
def slugTable (store : Store) : Table SlugRow :=
  store.slugs.getD .empty

def entries (store : Store) : List SlugEntry :=
  store.slugTable.rows.map .ofRow

theorem mem_entries_iff {store : Store} {entry : SlugEntry} :
    entry ∈ store.entries ↔
      store.slugTable.find? entry.tag = some ⟨entry.slug, entry.createdAt, entry.updatedAt⟩ := by
  rw [← Table.mem_rows_iff, entries, List.mem_map]
  constructor
  · rintro ⟨row, hrow, rfl⟩
    exact hrow
  · exact fun h => ⟨_, h, rfl⟩

theorem ofRow_mem_entries {store : Store} {tag : String} {row : SlugRow}
    (h : store.slugTable.find? tag = some row) : SlugEntry.ofRow (tag, row) ∈ store.entries :=
  mem_entries_iff.mpr h

theorem nodup_tags (store : Store) : (store.entries.map (·.tag)).Nodup := by
  have hkeys := Table.nodup_keys store.slugTable
  simpa [entries, Table.keys, SlugEntry.ofRow, Function.comp_def] using hkeys

theorem filter_entries {store : Store} {entry : SlugEntry} (h : entry ∈ store.entries) :
    store.entries.filter (·.tag == entry.tag) = [entry] := by
  have hnodup := store.nodup_tags
  generalize store.entries = entries at h hnodup
  induction entries with
  | nil => cases h
  | cons first rest ih =>
      rw [List.map_cons, List.nodup_cons] at hnodup
      rcases List.mem_cons.mp h with rfl | hrest
      · have hnone : rest.filter (·.tag == entry.tag) = [] := by
          refine List.filter_eq_nil_iff.mpr fun other hother htag => hnodup.1 ?_
          exact List.mem_map.mpr ⟨other, hother, beq_iff_eq.mp htag⟩
        rw [List.filter_cons_of_pos (by simp), hnone]
      · have hne : first.tag ≠ entry.tag := fun htag =>
          hnodup.1 (htag ▸ List.mem_map_of_mem hrest)
        rw [List.filter_cons_of_neg (by simpa using hne), ih hrest hnodup.2]

theorem slugsDistinct_iff_nodup {store : Store} :
    SlugsDistinct store.slugTable ↔ (store.entries.map (·.slug)).Nodup := by
  rw [List.nodup_map_iff_inj_on (List.Nodup.of_map _ store.nodup_tags)]
  constructor
  · intro hdistinct entry hentry other hother hslug
    rw [mem_entries_iff] at hentry hother
    have htag : entry.tag = other.tag := hdistinct hentry hother hslug
    rw [htag, hother] at hentry
    cases entry
    cases other
    simp_all
  · intro hinjective tag other row otherRow hrow hother hslug
    have hentry := hinjective _ (ofRow_mem_entries hrow) _ (ofRow_mem_entries hother) hslug
    exact congrArg SlugEntry.tag hentry

/-- Whatever the registry holds before it holds after, and no slug becomes shared. -/
def Keeps (before after : Store) : Prop :=
  Grows before.slugTable after.slugTable

theorem Keeps.refl (store : Store) : Keeps store store :=
  Grows.refl store.slugTable

theorem Keeps.trans {first second third : Store} (h : Keeps first second)
    (h' : Keeps second third) : Keeps first third :=
  Grows.trans h h'

theorem Keeps.of_slugs_eq {before after : Store} (h : after.slugs = before.slugs) :
    Keeps before after := by
  rw [Keeps, slugTable, slugTable, h]
  exact Grows.refl _

theorem Keeps.entries_subset {before after : Store} (h : Keeps before after) :
    before.entries ⊆ after.entries :=
  fun _ hentry => mem_entries_iff.mpr (h.kept (mem_entries_iff.mp hentry))

theorem slugTable_of_registry {store : Store} {table : Table SlugRow}
    (h : store.registry = .ok table) : store.slugTable = table := by
  unfold registry require at h
  split at h
  · next held hheld =>
      cases h
      simp [slugTable, hheld]
  · cases h

theorem write_cases {store : Store} {write : Table SlugRow → Except StoreFault (Table SlugRow)}
    {after : Table SlugRow}
    (h : (store.registry.bind fun table => store.attempt (write table)) = .ok after) :
    write store.slugTable = .ok after := by
  cases hregistry : store.registry with
  | error fault => simp [hregistry, Except.bind] at h
  | ok table =>
      simp only [hregistry, Except.bind, attempt] at h
      split at h
      · cases h
      · rwa [slugTable_of_registry hregistry]

/-! ## What the steps do to the registry -/

theorem keeps_registerTag (candidate now canonical : String) (store : Store) :
    Keeps store (registerTag candidate now canonical store).2 := by
  unfold registerTag
  split
  · exact Keeps.refl store
  · next hwrite => exact grows_of_insertSlug (write_cases hwrite)

theorem keeps_registerMisses (candidates : Nat → String) (now : String) (misses : List String)
    (found : Table String) (store : Store) :
    Keeps store (registerMisses candidates now misses found store).2 := by
  unfold registerMisses
  split
  · exact Keeps.refl store
  · next hwrite => exact grows_of_insertSlugs (write_cases hwrite)

theorem slugs_upsertDocuments (candidates : Nat → String) (now : String) (collection : Collection)
    (documents : List Json) (store : Store) :
    (store.upsertDocuments candidates now collection documents).2.slugs = store.slugs :=
  part_upsertDocuments (·.slugs) (fun _ collection _ => by cases collection <;> rfl) ..

theorem slugs_setColor (now tag color : String) (store : Store) :
    (store.setColor now tag color).2.slugs = store.slugs :=
  part_setColor (·.slugs) (fun _ _ => rfl) ..

theorem slugs_putAsset (now key : String) (kind : AssetKind) (title : String)
    (content : Option String) (store : Store) :
    (putAsset now key kind title content store).2.slugs = store.slugs :=
  part_putAsset (·.slugs) (fun _ _ => rfl) ..

theorem slugs_removeAsset (key : String) (store : Store) :
    (removeAsset key store).2.slugs = store.slugs :=
  part_removeAsset (·.slugs) (fun _ _ => rfl) ..

theorem slugTable_upgradeTo (now : String) (version : Nat) (store : Store) :
    (upgradeTo now version store).2.slugTable = store.slugTable := by
  unfold upgradeTo
  split
  · rfl
  · next after hupgrade => exact (keepsRows_upgrade hupgrade).slugs.getD_eq

/-! ## What is read from the registry -/

def HoldsFound (found : Table String) (store : Store) : Prop :=
  ∀ tag slug, found.find? tag = some slug →
    ∃ row, store.slugTable.find? tag = some row ∧ row.slug = slug

theorem HoldsFound.keeps {found : Table String} {before after : Store}
    (h : HoldsFound found before) (hkeeps : Keeps before after) : HoldsFound found after := by
  intro tag slug hfound
  obtain ⟨row, hrow, hslug⟩ := h tag slug hfound
  exact ⟨row, hkeeps.kept hrow, hslug⟩

theorem holdsFound_empty (store : Store) : HoldsFound .empty store := by
  intro tag slug hfound
  cases hfound

theorem holdsFound_lookupTags {found : Table String} {store : Store} (h : HoldsFound found store)
    (tags : List String) : HoldsFound (lookupTags store.slugTable found tags) store := by
  intro tag slug hslug
  rw [find?_lookupTags, Option.or_eq_some_iff] at hslug
  obtain hrow | ⟨-, hfound⟩ := hslug
  · split at hrow
    · obtain ⟨row, hrow, hslug⟩ := Option.map_eq_some_iff.mp hrow
      exact ⟨row, hrow, hslug⟩
    · cases hrow
  · exact h tag slug hfound

def Resolves (tags : List String) (result : Except LedgerError (Table String)) (store : Store) :
    Prop :=
  ∀ found, result = .ok found →
    HoldsFound found store ∧ ∀ tag ∈ tags, found.contains tag = true

theorem Resolves.keeps {tags : List String} {result : Except LedgerError (Table String)}
    {before after : Store} (h : Resolves tags result before) (hkeeps : Keeps before after) :
    Resolves tags result after :=
  fun found hfound => ⟨(h found hfound).1.keeps hkeeps, (h found hfound).2⟩

theorem resolves_registerMisses (candidates : Nat → String) (now : String)
    {tags misses : List String} {found : Table String} {store : Store}
    (hfound : HoldsFound found store)
    (hmisses : ∀ tag ∈ tags, found.contains tag = true ∨ tag ∈ misses) :
    Resolves tags (registerMisses candidates now misses found store).1
      (registerMisses candidates now misses found store).2 := by
  have hkeeps := keeps_registerMisses candidates now misses found store
  revert hkeeps
  unfold registerMisses
  split
  · intro _ result hresult
    cases hresult
  · next table hwrite =>
      intro hkeeps result hresult
      cases hresult
      rw [lookupChunked_eq]
      refine ⟨holdsFound_lookupTags (hfound.keeps hkeeps) misses, fun tag htag => ?_⟩
      refine contains_lookupTags.mpr ?_
      rcases hmisses tag htag with hcontains | hmiss
      · exact Or.inr hcontains
      · exact Or.inl ⟨hmiss, contains_of_insertSlugs (write_cases hwrite) hmiss⟩

theorem mem_entries_of_lookupSlug {slug : String} {store : Store} {entry : SlugEntry}
    (h : store.lookupSlug slug = .ok entry) : entry ∈ store.entries := by
  unfold lookupSlug at h
  dsimp only at h
  split at h
  · cases h
  · split at h
    · cases h
    · next table htable =>
        split at h
        · next row hrow =>
            cases h
            rw [entries, slugTable_of_registry htable]
            exact List.mem_map_of_mem (List.mem_of_find?_eq_some hrow)
        · cases h

theorem mem_entries_of_findTag {tag : String} {store : Store} {entry : SlugEntry}
    (h : store.findTag tag = .ok (some entry)) : entry ∈ store.entries := by
  unfold findTag at h
  split at h
  · cases h
  · split at h
    · cases h
    · next table htable =>
        simp only [Except.ok.injEq, Option.map_eq_some_iff] at h
        obtain ⟨row, hrow, rfl⟩ := h
        rw [← slugTable_of_registry htable] at hrow
        exact ofRow_mem_entries hrow

theorem eq_entries_of_listEntries {store : Store} {listed : List SlugEntry}
    (h : store.listEntries = .ok listed) : listed = store.entries := by
  unfold listEntries at h
  split at h
  · cases h
  · next table htable =>
      cases h
      rw [entries, slugTable_of_registry htable]

/-! ## What every program ensures -/

theorem ensures_resolveProgram (candidate now tag : String) (store : Store) :
    (resolveProgram candidate now tag).Ensures Keeps Keeps
      (fun result store => ∀ slug, result = .ok slug →
        ∃ canonical row, Tag.canonicalize tag = some canonical ∧
          store.slugTable.find? canonical = some row ∧ row.slug = slug) store := by
  unfold resolveProgram canonicalOrInvalid
  cases hcanonical : Tag.canonicalize tag with
  | none => exact .done fun later _ slug hslug => nomatch hslug
  | some canonical =>
      have hregister : (Program.atomic (registerTag candidate now canonical)).Ensures Keeps Keeps
          (fun _ _ => True) store :=
        Program.ensures_atomic (fun later _ => keeps_registerTag candidate now canonical later)
          fun _ _ _ _ => trivial
      refine Program.ensures_bind Keeps.refl hregister fun result store _ => ?_
      cases result with
      | error fault => exact .done fun later _ slug hslug => nomatch hslug
      | ok _ =>
          refine Program.ensures_read Keeps.refl fun later _ final hfinal slug hslug => ?_
          unfold readSlug at hslug
          split at hslug
          · cases hslug
          · next table htable =>
              split at hslug
              · next row hrow =>
                  cases hslug
                  rw [← slugTable_of_registry htable] at hrow
                  exact ⟨canonical, row, rfl, hfinal.kept hrow, rfl⟩
              · cases hslug

theorem ensures_lookupProgram (pieces : List (List String)) {found : Table String} {store : Store}
    (hfound : HoldsFound found store) :
    (lookupProgram pieces found).Ensures Keeps Keeps
      (fun result store => ∀ found, result = .ok found → HoldsFound found store) store := by
  induction pieces generalizing found store with
  | nil =>
      refine .done fun later hlater result hresult => ?_
      cases hresult
      exact hfound.keeps hlater
  | cons piece rest ih =>
      have hread : (Program.read registry).Ensures Keeps Keeps
          (fun result store => ∀ table, result = .ok table →
            HoldsFound (lookupTags table found piece) store) store := by
        refine Program.ensures_read Keeps.refl fun later hlater final hfinal table htable => ?_
        rw [← slugTable_of_registry htable]
        exact (holdsFound_lookupTags (hfound.keeps hlater) piece).keeps hfinal
      refine Program.ensures_bind Keeps.refl hread fun result store hresult => ?_
      cases result with
      | error fault => exact .done fun later _ result hresult => nomatch hresult
      | ok table => exact ih (hresult table rfl)

theorem ensures_resolveMisses (candidates : Nat → String) (now : String) (tags : List String)
    {found : Table String} {store : Store} (hfound : HoldsFound found store) :
    (resolveMisses candidates now tags found).Ensures Keeps Keeps (Resolves tags) store := by
  have hmiss : ∀ tag ∈ tags, found.contains tag = true ∨
      tag ∈ tags.filter fun tag => !found.contains tag := by
    intro tag htag
    cases hcontains : found.contains tag <;> simp [htag, hcontains]
  unfold resolveMisses
  dsimp only
  split
  · next hempty =>
      rw [List.isEmpty_iff.mp hempty] at hmiss
      refine .done fun later hlater result hresult => ?_
      cases hresult
      exact ⟨hfound.keeps hlater, fun tag htag => by simpa using hmiss tag htag⟩
  · refine Program.ensures_atomic (fun later _ => keeps_registerMisses candidates now _ found later)
      fun later hlater final hfinal => ?_
    exact (resolves_registerMisses candidates now (hfound.keeps hlater) hmiss).keeps hfinal

theorem ensures_resolveAllProgram (candidates : Nat → String) (now : String) (tags : List String)
    (store : Store) :
    (resolveAllProgram candidates now tags).Ensures Keeps Keeps
      (fun result store => ∀ slugs, result = .ok slugs → HoldsFound slugs store ∧
        ∀ tag ∈ tags, ∃ canonical, Tag.canonicalize tag = some canonical ∧
          slugs.contains canonical = true) store := by
  unfold resolveAllProgram
  split
  · exact .done fun later _ slugs hslugs => nomatch hslugs
  · next canonical hcanonical =>
      have hforms := map_canonicalize_of_mapM hcanonical
      have hresolves : (resolveCanonicalProgram candidates now (orderedSet canonical)).Ensures
          Keeps Keeps (Resolves (orderedSet canonical)) store := by
        refine Program.ensures_bind Keeps.refl
          (ensures_lookupProgram _ (holdsFound_empty store)) fun result store hresult => ?_
        cases result with
        | error fault => exact .done fun later _ result hresult => nomatch hresult
        | ok found => exact ensures_resolveMisses candidates now _ (hresult found rfl)
      refine hresolves.weaken fun result store hresult slugs hslugs => ?_
      obtain ⟨hholds, hcontains⟩ := hresult slugs hslugs
      refine ⟨hholds, fun tag htag => ?_⟩
      have hform : Tag.canonicalize tag ∈ canonical.map some :=
        hforms ▸ List.mem_map_of_mem htag
      obtain ⟨form, hmem, hform⟩ := List.mem_map.mp hform
      exact ⟨form, hform.symm, hcontains form (mem_orderedSet.mpr hmem)⟩

theorem find?_of_mem_rows {scan : Tag.UsageScan} {slugs : Table String} {row : HashtagCount}
    (h : row ∈ scan.rows slugs) : slugs.find? row.hashtag = some row.slug := by
  obtain ⟨counted, -, hcounted⟩ := List.mem_filterMap.mp h
  obtain ⟨slug, hslug, rfl⟩ := Option.map_eq_some_iff.mp hcounted
  exact hslug

private theorem find?_of_mem_report {scan : Tag.UsageScan} {slugs : Table String}
    {options : UsageOptions} {row : HashtagCount}
    (h : row ∈ (scan.report slugs options).hashtags) : slugs.find? row.hashtag = some row.slug := by
  have hrow : row ∈ scan.rows slugs := by
    simp only [Tag.UsageScan.report] at h
    split at h
    · exact List.mem_of_mem_take h
    · exact h
  exact find?_of_mem_rows hrow

theorem ensures_hashtagUsageProgram (candidates : Nat → String) (now : String)
    (options : UsageOptions) (store : Store) :
    (hashtagUsageProgram candidates now options).Ensures Keeps Keeps
      (fun result store => ∀ report, result = .ok report → ∀ row ∈ report.hashtags,
        ∃ entry, store.slugTable.find? row.hashtag = some entry ∧ entry.slug = row.slug) store := by
  have hread : (Program.read scanUsage).Ensures Keeps Keeps (fun _ _ => True) store :=
    Program.ensures_read Keeps.refl fun _ _ _ _ => trivial
  refine Program.ensures_bind Keeps.refl hread fun result store _ => ?_
  cases result with
  | error error => exact .done fun later _ report hreport => nomatch hreport
  | ok scan =>
      refine Program.ensures_map ((ensures_resolveAllProgram _ _ _ store).weaken ?_)
      intro result store hresult report hreport row hrow
      cases result with
      | error error => cases hreport
      | ok slugs =>
          cases hreport
          exact (hresult slugs rfl).1 _ _ (find?_of_mem_report hrow)

theorem keeps_upgradeTo (now : String) (version : Nat) (store : Store) :
    Keeps store (upgradeTo now version store).2 := by
  rw [Keeps, slugTable_upgradeTo]
  exact Grows.refl _

end Store

/-! ## Answers and entries -/

/-- An entry for the tag, in any spelling, carries the slug. -/
def Carries (entries : List SlugEntry) (tag slug : String) : Prop :=
  ∃ entry ∈ entries, Tag.canonicalize tag = some entry.tag ∧ entry.slug = slug

/-- Whatever an operation has answered about tags and their slugs is in the entries. -/
def Operation.AnsweredFrom (entries : List SlugEntry) (answer : Answer) : Operation → Prop
  | .resolve tag _ _ =>
      ∃ result, answer = .slug result ∧ ∀ slug, result = .ok slug → Carries entries tag slug
  | .resolveAll tags _ _ =>
      ∃ result, answer = .slugs result ∧ ∀ slugs, result = .ok slugs → ∀ tag ∈ tags,
        ∃ slug, (Tag.canonicalize tag).bind slugs.find? = some slug ∧ Carries entries tag slug
  | .hashtagUsage _ _ _ =>
      ∃ result, answer = .usage result ∧ ∀ report, result = .ok report →
        ∀ row ∈ report.hashtags, ∃ entry ∈ entries, entry.tag = row.hashtag ∧ entry.slug = row.slug
  | .lookupSlug _ =>
      ∃ result, answer = .entry result ∧ ∀ entry, result = .ok entry → entry ∈ entries
  | .findTag _ =>
      ∃ result, answer = .found result ∧ ∀ entry, result = .ok (some entry) → entry ∈ entries
  | .listEntries =>
      ∃ result, answer = .entries result ∧ ∀ listed, result = .ok listed → listed ⊆ entries
  | _ => True

private theorem Store.ensures_of_within {β : Type} {program : Program Store β} {convert : β → Answer}
    (h : program.Within Keeps) (store : Store) :
    (program.map convert).Ensures Keeps Keeps (fun _ _ => True) store :=
  Program.ensures_map (h.ensures (fun _ _ => trivial) store)

theorem Store.ensures_program (operation : Operation) (store : Store) :
    operation.program.Ensures Keeps Keeps
      (fun answer store => operation.AnsweredFrom store.entries answer) store := by
  cases operation with
  | resolve tag candidate now =>
      refine Program.ensures_map ((ensures_resolveProgram candidate now tag store).weaken ?_)
      refine fun result store hresult => ⟨result, rfl, fun slug hslug => ?_⟩
      obtain ⟨canonical, row, hcanonical, hrow, hslug⟩ := hresult slug hslug
      exact ⟨_, ofRow_mem_entries hrow, hcanonical, hslug⟩
  | resolveAll tags candidates now =>
      refine Program.ensures_map ((ensures_resolveAllProgram candidates now tags store).weaken ?_)
      refine fun result store hresult => ⟨result, rfl, fun slugs hslugs tag htag => ?_⟩
      obtain ⟨hholds, hcontains⟩ := hresult slugs hslugs
      obtain ⟨canonical, hcanonical, hfound⟩ := hcontains tag htag
      obtain ⟨slug, hslug⟩ := Table.contains_iff.mp hfound
      obtain ⟨row, hrow, hrowSlug⟩ := hholds canonical slug hslug
      refine ⟨slug, ?_, _, ofRow_mem_entries hrow, hcanonical, hrowSlug⟩
      rw [hcanonical, Option.bind_some, hslug]
  | hashtagUsage options candidates now =>
      refine Program.ensures_map
        ((ensures_hashtagUsageProgram candidates now options store).weaken ?_)
      refine fun result store hresult => ⟨result, rfl, fun report hreport row hrow => ?_⟩
      obtain ⟨entry, hentry, hslug⟩ := hresult report hreport row hrow
      exact ⟨_, ofRow_mem_entries hentry, rfl, hslug⟩
  | lookupSlug slug =>
      refine Program.ensures_map (Program.ensures_read Keeps.refl fun later _ final hfinal => ?_)
      refine ⟨_, rfl, fun entry hentry => ?_⟩
      exact hfinal.entries_subset (mem_entries_of_lookupSlug hentry)
  | findTag tag =>
      refine Program.ensures_map (Program.ensures_read Keeps.refl fun later _ final hfinal => ?_)
      refine ⟨_, rfl, fun entry hentry => ?_⟩
      exact hfinal.entries_subset (mem_entries_of_findTag hentry)
  | listEntries =>
      refine Program.ensures_map (Program.ensures_read Keeps.refl fun later _ final hfinal => ?_)
      refine ⟨_, rfl, fun listed hlisted => ?_⟩
      rw [eq_entries_of_listEntries hlisted]
      exact hfinal.entries_subset
  | upsertDocuments collection documents candidates now =>
      refine Program.ensures_map (Program.ensures_atomic (fun later _ => ?_) fun _ _ _ _ => trivial)
      exact Keeps.of_slugs_eq (slugs_upsertDocuments candidates now collection documents later)
  | setColor tag color now =>
      refine Program.ensures_map (Program.ensures_atomic (fun later _ => ?_) fun _ _ _ _ => trivial)
      exact Keeps.of_slugs_eq (slugs_setColor now tag color later)
  | upsertAsset key kind title content now =>
      have hput (key : String) (store : Store) :
          Keeps store (putAsset now key kind title content store).2 :=
        .of_slugs_eq (slugs_putAsset now key kind title content store)
      exact ensures_of_within (within_upsertAssetProgram Keeps.refl hput key) store
  | deleteAsset key force =>
      have hremove (key : String) (store : Store) : Keeps store (removeAsset key store).2 :=
        .of_slugs_eq (slugs_removeAsset key store)
      exact ensures_of_within (within_deleteAssetProgram Keeps.refl hremove key force) store
  | migrate now =>
      exact ensures_of_within (within_migrateProgram Keeps.refl (keeps_upgradeTo now)) store
  | reopen root now logged =>
      exact ensures_of_within
        (within_reopenProgram Keeps.refl (keeps_upgradeTo now) root logged) store
  | setRefusal refusal =>
      exact Program.ensures_atomic (fun later _ => Keeps.of_slugs_eq rfl) fun _ _ _ _ => trivial
  | setVersion version =>
      exact Program.ensures_atomic (fun later _ => Keeps.of_slugs_eq rfl) fun _ _ _ _ => trivial

/-! ## Runs -/

namespace Workload

theorem compatible_keeps : Compatible (fun _ => Store.Keeps) (fun _ => Store.Keeps) where
  refl _ := Store.Keeps.refl
  trans _ := Store.Keeps.trans
  within _ := id

def Answered (operations : List Operation) (index : Nat) (answer : Answer) (store : Store) : Prop :=
  ∀ operation, operations[index]? = some operation →
    operation.AnsweredFrom store.entries answer

theorem sound_start (store : Store) (operations : List Operation) :
    (start store operations).Sound (fun _ => Store.Keeps) (fun _ => Store.Keeps)
      (Answered operations) := by
  intro index program hprogram
  obtain ⟨operation, hoperation, rfl⟩ : ∃ operation, operations[index]? = some operation ∧
      operation.program = program := by
    simpa [start] using hprogram
  refine (Store.ensures_program operation store).weaken fun answer state hanswer other hother => ?_
  obtain rfl := Option.some.inj (hoperation.symm.trans hother)
  exact hanswer

theorem keeps_run (store : Store) (operations : List Operation) (schedule : List Nat) :
    Store.Keeps store ((start store operations).run schedule).state :=
  (sound_start store operations).state_run compatible_keeps Store.Keeps.refl Store.Keeps.trans
    (fun _ => id) schedule

theorem keeps_run_append (store : Store) (operations : List Operation) (earlier later : List Nat) :
    Store.Keeps ((start store operations).run earlier).state
      ((start store operations).run (earlier ++ later)).state := by
  rw [run_append]
  have hsound := (sound_start store operations).run compatible_keeps earlier
  exact hsound.state_run compatible_keeps Store.Keeps.refl Store.Keeps.trans (fun _ => id) later

theorem answered_run {store : Store} {operations : List Operation} {schedule : List Nat}
    {index : Nat} {answer : Answer}
    (h : ((start store operations).run schedule).result? index = some answer) :
    Answered operations index answer ((start store operations).run schedule).state :=
  ((sound_start store operations).run compatible_keeps schedule).result compatible_keeps h

end Workload

/-- Along every run, however the steps of the operations follow one another: an entry once there
stays as it is, tags and slugs are distinct, and every answer given so far speaks of the entries
that are there from then on. -/
theorem registry_permanent (store : Store) (operations : List Operation)
    (hslugs : (store.entries.map (·.slug)).Nodup) (earlier later : List Nat) :
    let workload := Workload.start store operations
    let middle := (workload.run earlier).state
    let final := (workload.run (earlier ++ later)).state
    middle.entries ⊆ final.entries ∧
      (final.entries.map (·.tag)).Nodup ∧ (final.entries.map (·.slug)).Nodup ∧
      ∀ index operation answer, operations[index]? = some operation →
        (workload.run earlier).result? index = some answer →
        operation.AnsweredFrom final.entries answer := by
  intro workload middle final
  have hkeeps : Store.Keeps middle final := Workload.keeps_run_append store operations earlier later
  have hdistinct : SlugsDistinct final.slugTable :=
    (Workload.keeps_run store operations (earlier ++ later)).distinct
      (Store.slugsDistinct_iff_nodup.mpr hslugs)
  refine ⟨hkeeps.entries_subset, final.nodup_tags, Store.slugsDistinct_iff_nodup.mp hdistinct, ?_⟩
  intro index operation answer hoperation hanswer
  have hlater : (workload.run (earlier ++ later)).result? index = some answer := by
    rw [Workload.run_append]
    exact Workload.result?_run hanswer later
  exact Workload.answered_run hlater operation hoperation

/-- A project's only tag is resolved and taken away from the project, migrations run once more, and
the tag is resolved again under another candidate. -/
def retirement : List Operation :=
  let project (hashtags : List Json) : Json :=
    .object [("_id", .string "p"), ("hashtags", .array hashtags)]
  [.migrate "t0", .upsertDocuments .projects [project [.string "VIP"]] (fun _ => "d") "t1",
    .resolve "VIP" "first" "t2", .upsertDocuments .projects [project []] (fun _ => "d") "t3",
    .setVersion 0, .migrate "t4", .resolve " vip" "second" "t5"]

theorem retired_tag_keeps_slug :
    let workload := Workload.start .blank retirement
    let final := (workload.run ([0, 0, 0, 1, 2, 2] ++ [3, 4, 5, 5, 5, 6, 6])).state
    (workload.run [0, 0, 0, 1, 2, 2]).result? 2 = some (.slug (.ok "first")) ∧
      final.entries = [⟨"vip", "first", "t2", "t2"⟩] ∧
      Carries final.entries "VIP" "first" ∧ Carries final.entries " vip" "first" := by
  have hfirst : ((Workload.start .blank retirement).run [0, 0, 0, 1, 2, 2]).result? 2 =
      some (.slug (.ok "first")) := by rfl
  have hsecond : ((Workload.start .blank retirement).run
      ([0, 0, 0, 1, 2, 2] ++ [3, 4, 5, 5, 5, 6, 6])).result? 6 =
      some (.slug (.ok "first")) := by rfl
  have hentries : ((Workload.start .blank retirement).run
      ([0, 0, 0, 1, 2, 2] ++ [3, 4, 5, 5, 5, 6, 6])).state.entries =
      [⟨"vip", "first", "t2", "t2"⟩] := by rfl
  obtain ⟨-, -, -, hmiddle⟩ := registry_permanent .blank retirement (by decide)
    [0, 0, 0, 1, 2, 2] [3, 4, 5, 5, 5, 6, 6]
  obtain ⟨-, -, -, hfinal⟩ := registry_permanent .blank retirement (by decide)
    ([0, 0, 0, 1, 2, 2] ++ [3, 4, 5, 5, 5, 6, 6]) []
  obtain ⟨result, hresult, hcarries⟩ := hmiddle 2 _ _ rfl hfirst
  obtain ⟨again, hagain, hcarriesAgain⟩ := hfinal 6 _ _ rfl hsecond
  cases hresult
  cases hagain
  exact ⟨hfirst, hentries, hcarries "first" rfl, hcarriesAgain "first" rfl⟩

end TagLedger
