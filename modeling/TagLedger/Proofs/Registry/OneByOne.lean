import TagLedger.Proofs.Registry.Bijection
import TagLedger.Proofs.Store.Validation
import Mathlib.Data.List.Sort

/-!
# Tags in a batch and one by one

A batch registers the canonical forms of its tags, and so do calls for the single tags in whatever
order they are made.  Both leave a registry with the same tags, and with the same rows under the
tags that were registered before; only the slugs and times of the new rows are chosen anew.  Into how
many pieces the look-ups of a batch are cut makes no difference.
-/

namespace TagLedger

/-! ## Registration -/

/-- What registering tags may do to a registry: it keeps its rows, lets no two tags share a slug,
and has a new row only where one was made. -/
structure Gains (made : String → SlugRow → Prop) (before after : Table SlugRow) : Prop where
  grows : Grows before after
  added : ∀ {tag row}, after.find? tag = some row → before.find? tag = some row ∨ made tag row

/-- The registries have grown out of one and differ in nothing but the slugs and times of tags that
are new. -/
structure SameButNew (before left right : Table SlugRow) : Prop where
  tags : left.keys = right.keys
  old : ∀ {tag}, before.contains tag = true → left.find? tag = right.find? tag

variable {made : String → SlugRow → Prop} {before after : Table SlugRow}

theorem Gains.refl (made : String → SlugRow → Prop) (table : Table SlugRow) :
    Gains made table table :=
  ⟨Grows.refl table, Or.inl⟩

theorem Gains.trans {middle : Table SlugRow} (h : Gains made before middle)
    (h' : Gains made middle after) : Gains made before after :=
  ⟨h.grows.trans h'.grows, fun hrow => (h'.added hrow).elim h.added Or.inr⟩

theorem Gains.widen {wider : String → SlugRow → Prop} (h : Gains made before after)
    (hwider : ∀ {tag row}, made tag row → wider tag row) : Gains wider before after :=
  ⟨h.grows, fun hrow => (h.added hrow).imp_right hwider⟩

/-- Once all of the forms are registered, a registry that gained rows for them alone has the old
tags and these. -/
theorem Gains.contains_iff {forms : List String} (h : Gains made before after)
    (hmade : ∀ {tag row}, made tag row → tag ∈ forms)
    (hall : ∀ form ∈ forms, after.contains form = true) {tag : String} :
    after.contains tag = true ↔ before.contains tag = true ∨ tag ∈ forms := by
  refine ⟨fun hcontains => ?_, fun htag => htag.elim h.grows.contains (hall tag)⟩
  obtain ⟨row, hrow⟩ := Table.contains_iff.mp hcontains
  exact (h.added hrow).imp (fun hold => Table.contains_iff.mpr ⟨row, hold⟩) hmade

theorem Gains.sameButNew {forms : List String} {otherMade : String → SlugRow → Prop}
    {other : Table SlugRow} (h : Gains made before after) (h' : Gains otherMade before other)
    (hmade : ∀ {tag row}, made tag row → tag ∈ forms)
    (hother : ∀ {tag row}, otherMade tag row → tag ∈ forms)
    (hall : ∀ form ∈ forms, after.contains form = true ∧ other.contains form = true) :
    SameButNew before after other where
  tags := Table.keys_eq_of_contains fun tag => by
    rw [h.contains_iff hmade fun form hform => (hall form hform).1,
      h'.contains_iff hother fun form hform => (hall form hform).2]
  old hcontains := by
    obtain ⟨row, hrow⟩ := Table.contains_iff.mp hcontains
    rw [h.grows.kept hrow, h'.grows.kept hrow]

namespace Store

theorem gains_insertSlug {now tag candidate : String}
    (h : insertSlug now tag candidate before = .ok after) :
    Gains (fun form row => form = tag ∧ row = ⟨candidate, now, now⟩) before after where
  grows := grows_of_insertSlug h
  added {other row} hrow := by
    obtain ⟨-, rfl⟩ | ⟨-, -, rfl⟩ := insertSlug_cases h
    · exact Or.inl hrow
    · rw [Table.find?_insert] at hrow
      split at hrow
      · next htag => exact Or.inr ⟨htag, (Option.some.inj hrow).symm⟩
      · exact Or.inl hrow

theorem gains_insertSlugs {candidates : Nat → String} {now : String} {tags : List String}
    (h : insertSlugs candidates now tags before = .ok after) :
    Gains (fun tag row => tag ∈ tags ∧ ∃ index, row = ⟨candidates index, now, now⟩)
      before after := by
  refine rel_of_foldlM (Gains _) h (Gains.refl _) Gains.trans fun {_ item _} hitem hstep =>
    (gains_insertSlug hstep).widen ?_
  rintro _ _ ⟨rfl, rfl⟩
  exact ⟨List.mem_of_getElem? (List.mem_zipIdx_iff_getElem?.mp hitem), item.2, rfl⟩

theorem notEmpty_of_insertSlugs {candidates : Nat → String} {now : String} {tags : List String}
    (h : insertSlugs candidates now tags before = .ok after) {tag : String} (htag : tag ∈ tags) :
    notEmpty tag = true := by
  obtain ⟨index, hindex⟩ := List.mem_iff_getElem?.mp htag
  have hitem : (tag, index) ∈ tags.zipIdx := List.mk_mem_zipIdx_iff_getElem?.mpr hindex
  obtain ⟨_, _, hstep, -⟩ :=
    exists_step_of_foldlM Grows h Grows.refl Grows.trans grows_of_insertSlug hitem
  exact notEmpty_of_insertSlug hstep

theorem isSome_of_registry {store : Store} {table : Table SlugRow}
    (h : store.registry = .ok table) : store.slugs.isSome = true := by
  unfold registry require at h
  split at h
  · next hheld => rw [hheld]; rfl
  · cases h

/-- The form is registered, or it can be: nothing that is written is refused, and the schema takes
the form. -/
def CanRegister (store : Store) (form : String) : Prop :=
  store.slugTable.contains form = true ∨
    store.slugs.isSome = true ∧ store.refusal = none ∧ notEmpty form = true

/-! ## One call -/

/-- A call for a single tag, with the identifier that is drawn for it and its time. -/
structure SingleCall where
  tag : String
  candidate : String
  now : String

namespace SingleCall

/-- The row that the call makes, if it makes one. -/
def row (call : SingleCall) : SlugRow :=
  ⟨call.candidate, call.now, call.now⟩

def run (call : SingleCall) (store : Store) : Store :=
  (store.resolve call.candidate call.now call.tag).2

/-- Rows that one of the calls makes. -/
def Makes (calls : List SingleCall) (tag : String) (row : SlugRow) : Prop :=
  ∃ call ∈ calls, Tag.canonicalize call.tag = some tag ∧ row = call.row

end SingleCall

/-- What a call has done once the form of its tag is registered. -/
structure Registered (call : SingleCall) (form : String) (before after : Store) : Prop where
  gains : Gains (SingleCall.Makes [call]) before.slugTable after.slugTable
  contains : after.slugTable.contains form = true
  slugs : before.slugs.isSome = true → after.slugs.isSome = true
  refusal : after.refusal = before.refusal

theorem CanRegister.run {store : Store} {form : String} {call : SingleCall}
    (h : store.CanRegister form) (hform : Tag.canonicalize call.tag = some form)
    (hnew : ∀ tag row, store.slugTable.find? tag = some row → row.slug ≠ call.candidate) :
    Registered call form store (call.run store) := by
  unfold SingleCall.run Store.resolve canonicalOrInvalid
  rw [hform]
  dsimp only
  split
  · next hrefused =>
      -- What is refused is a form that is registered already: any other can be.
      rcases h with hcontains | ⟨hslugs, hrefusal, hempty⟩
      · exact ⟨.refl _ _, hcontains, id, rfl⟩
      · obtain ⟨table, htable⟩ := exists_insertSlug_of_new call.now hempty hnew
        simp [registry_of_isSome hslugs, Except.bind, attempt, hrefusal, htable] at hrefused
  · next table hwrite =>
      have hinsert := write_cases hwrite
      have hgains : Gains (SingleCall.Makes [call]) store.slugTable table := by
        refine (gains_insertSlug hinsert).widen ?_
        rintro _ _ ⟨rfl, rfl⟩
        exact ⟨call, List.mem_cons_self, hform, rfl⟩
      have hregistered : Registered call form store (store.withRegistry table) :=
        ⟨hgains, contains_of_insertSlug hinsert, fun _ => rfl, rfl⟩
      split <;> exact hregistered

theorem CanRegister.registered {store after : Store} {form other : String} {call : SingleCall}
    (h : store.CanRegister form) (hafter : Registered call other store after) :
    after.CanRegister form := by
  rcases h with hcontains | ⟨hslugs, hrefusal, hempty⟩
  · exact Or.inl (hafter.gains.grows.contains hcontains)
  · exact Or.inr ⟨hafter.slugs hslugs, hafter.refusal.trans hrefusal, hempty⟩

/-! ## Many calls -/

/-- The store that the calls leave, each of which starts from what the one before it has left. -/
def resolveEach (store : Store) (calls : List SingleCall) : Store :=
  calls.foldl (fun store call => call.run store) store

@[simp] theorem resolveEach_cons (store : Store) (call : SingleCall) (calls : List SingleCall) :
    store.resolveEach (call :: calls) = (call.run store).resolveEach calls := by
  rw [resolveEach, List.foldl_cons, resolveEach]

/-- Every call draws an identifier that no other draws and no entry of the registry has. -/
structure DrawnAnew (store : Store) (calls : List SingleCall) : Prop where
  distinct : (calls.map (·.candidate)).Nodup
  new : ∀ call ∈ calls, ∀ entry ∈ store.entries, entry.slug ≠ call.candidate

theorem DrawnAnew.tail {store after : Store} {call : SingleCall} {calls : List SingleCall}
    {form : String} (h : store.DrawnAnew (call :: calls))
    (hafter : Registered call form store after) : after.DrawnAnew calls := by
  obtain ⟨hfirst, hrest⟩ := List.nodup_cons.mp h.distinct
  refine ⟨hrest, fun other hother entry hentry => ?_⟩
  rcases hafter.gains.added (mem_entries_iff.mp hentry) with hold | ⟨made, hmade, -, hrow⟩
  · exact h.new other (List.mem_cons_of_mem call hother) entry (mem_entries_iff.mpr hold)
  · obtain rfl := List.mem_singleton.mp hmade
    have hslug : entry.slug = made.candidate := congrArg SlugRow.slug hrow
    rw [hslug]
    exact fun heq => hfirst (List.mem_map.mpr ⟨other, hother, heq.symm⟩)

/-- Calls for tags that are registered or can be register them all, in whatever order. -/
theorem gains_resolveEach {store : Store} {calls : List SingleCall}
    (hcan : ∀ call ∈ calls, ∃ form, Tag.canonicalize call.tag = some form ∧ store.CanRegister form)
    (hdrawn : store.DrawnAnew calls) :
    Gains (SingleCall.Makes calls) store.slugTable (store.resolveEach calls).slugTable ∧
      ∀ call ∈ calls, ∀ form, Tag.canonicalize call.tag = some form →
        (store.resolveEach calls).slugTable.contains form = true := by
  induction calls generalizing store with
  | nil => exact ⟨.refl _ _, List.forall_mem_nil _⟩
  | cons call calls ih =>
      obtain ⟨⟨form, hform, hfirst⟩, hrest⟩ := List.forall_mem_cons.mp hcan
      have hregistered := hfirst.run hform fun tag row hrow =>
        hdrawn.new call List.mem_cons_self _ (ofRow_mem_entries hrow)
      have hstill : ∀ other ∈ calls, ∃ form, Tag.canonicalize other.tag = some form ∧
          (call.run store).CanRegister form := fun other hother =>
        let ⟨form, hform, hother⟩ := hrest other hother
        ⟨form, hform, hother.registered hregistered⟩
      obtain ⟨hgains, hcontains⟩ := ih hstill (hdrawn.tail hregistered)
      rw [resolveEach_cons]
      refine ⟨?_, List.forall_mem_cons.mpr ⟨fun other hother => ?_, hcontains⟩⟩
      · refine Gains.trans (hregistered.gains.widen ?_) (hgains.widen ?_)
        · rintro tag row ⟨made, hmade, hrow⟩
          exact ⟨made, List.mem_singleton.mp hmade ▸ List.mem_cons_self, hrow⟩
        · rintro tag row ⟨made, hmade, hrow⟩
          exact ⟨made, List.mem_cons_of_mem call hmade, hrow⟩
      · obtain rfl := Option.some.inj (hform.symm.trans hother)
        exact hgains.grows.contains hregistered.contains

/-! ## A batch -/

/-- The slugs of a set of canonical tags, with look-ups in pieces of `chunk` tags. -/
def resolveCanonicalBy (chunk : Nat) (candidates : Nat → String) (now : String)
    (tags : List String) (store : Store) : Outcome (Table String) :=
  if tags.isEmpty then (.ok .empty, store)
  else
    match store.registry with
    | .error fault => (.error (.store fault), store)
    | .ok table =>
        let found := lookupChunked chunk table tags .empty
        let misses := tags.filter fun tag => !found.contains tag
        if misses.isEmpty then (.ok found, store)
        else
          match store.attempt (insertSlugs candidates now misses table) with
          | .error fault => (.error (.store fault), store)
          | .ok table => (.ok (lookupChunked chunk table misses found), store.withRegistry table)

def resolveAllBy (chunk : Nat) (candidates : Nat → String) (now : String) (tags : List String)
    (store : Store) : Outcome (Table String) :=
  match tags.mapM canonicalOrInvalid with
  | .error error => (.error error, store)
  | .ok canonical => store.resolveCanonicalBy chunk candidates now (orderedSet canonical)

theorem resolveAllBy_lookupChunk (candidates : Nat → String) (now : String) (tags : List String)
    (store : Store) :
    store.resolveAllBy lookupChunk candidates now tags = store.resolveAll candidates now tags :=
  rfl

theorem resolveAllBy_eq (chunk other : Nat) (candidates : Nat → String) (now : String)
    (tags : List String) (store : Store) :
    store.resolveAllBy chunk candidates now tags =
      store.resolveAllBy other candidates now tags := by
  simp only [resolveAllBy, resolveCanonicalBy, lookupChunked_eq]

/-- What a batch that is resolved has done. -/
structure BatchResolved (candidates : Nat → String) (now : String) (forms : List String)
    (store : Store) (found : Table String) (after : Store) : Prop where
  keys : ∀ form, found.contains form = true ↔ form ∈ forms
  holds : HoldsFound found after
  gains : Gains (fun tag row => tag ∈ forms ∧ ∃ index, row = ⟨candidates index, now, now⟩)
    store.slugTable after.slugTable
  could : ∀ form ∈ forms, store.CanRegister form

theorem batchResolved_resolveCanonical {candidates : Nat → String} {now : String}
    {forms : List String} {store after : Store} {found : Table String}
    (h : store.resolveCanonical candidates now forms = (.ok found, after)) :
    BatchResolved candidates now forms store found after := by
  unfold resolveCanonical at h
  split at h
  · next hempty =>
      cases h
      rw [List.isEmpty_iff.mp hempty]
      exact ⟨fun form => by simp [Table.contains], holdsFound_empty store, .refl _ _,
        List.forall_mem_nil _⟩
  · cases htable : store.registry with
    | error fault => simp [htable] at h
    | ok table =>
        simp only [htable, lookupChunked_eq] at h
        have hslugTable := slugTable_of_registry htable
        have hlookup (form : String) :
            (lookupTags table .empty forms).contains form = true ↔
              form ∈ forms ∧ store.slugTable.contains form = true := by
          rw [contains_lookupTags, hslugTable]
          simp [Table.contains]
        have hholds : HoldsFound (lookupTags table .empty forms) store :=
          hslugTable ▸ holdsFound_lookupTags (holdsFound_empty store) forms
        split at h
        · next hmisses =>
            cases h
            have hall : ∀ form ∈ forms, store.slugTable.contains form = true := by
              intro form hform
              have hfound := List.filter_eq_nil_iff.mp (List.isEmpty_iff.mp hmisses) form hform
              exact ((hlookup form).mp (by simpa using hfound)).2
            exact ⟨fun form => (hlookup form).trans (and_iff_left_of_imp (hall form)), hholds,
              .refl _ _, fun form hform => Or.inl (hall form hform)⟩
        · split at h
          · cases h
          · next written hwritten =>
              cases h
              obtain ⟨hrefusal, hinsert⟩ := attempt_eq_ok_iff.mp hwritten
              have hgains := gains_insertSlugs hinsert
              have hmissed {form : String} : form ∈ forms.filter
                    (fun form => !(lookupTags table .empty forms).contains form) ↔
                  form ∈ forms ∧ ¬ store.slugTable.contains form = true := by
                rw [List.mem_filter, Bool.not_eq_true', ← Bool.not_eq_true, hlookup, not_and]
                exact and_congr_right fun hform => ⟨fun hnot => hnot hform, fun hnot _ => hnot⟩
              have hkeeps : Keeps store (store.withRegistry written) := by
                rw [Keeps, hslugTable]
                exact hgains.grows
              refine ⟨fun form => ?_, holdsFound_lookupTags (hholds.keeps hkeeps) _, ?_,
                fun form hform => ?_⟩
              · rw [contains_lookupTags, hmissed, hlookup]
                constructor
                · exact fun h => h.elim (·.1.1) (·.1)
                · intro hform
                  by_cases hcontains : store.slugTable.contains form = true
                  · exact Or.inr ⟨hform, hcontains⟩
                  · exact Or.inl ⟨⟨hform, hcontains⟩,
                      contains_of_insertSlugs hinsert (hmissed.mpr ⟨hform, hcontains⟩)⟩
              · rw [hslugTable]
                exact hgains.widen fun hnew => ⟨(hmissed.mp hnew.1).1, hnew.2⟩
              · by_cases hcontains : store.slugTable.contains form = true
                · exact Or.inl hcontains
                · exact Or.inr ⟨isSome_of_registry htable, hrefusal,
                    notEmpty_of_insertSlugs hinsert (hmissed.mpr ⟨hform, hcontains⟩)⟩

theorem mem_orderedSet_of_mapM {tags canonical : List String}
    (h : tags.mapM canonicalOrInvalid = .ok canonical) {form : String} :
    form ∈ orderedSet canonical ↔ ∃ tag ∈ tags, Tag.canonicalize tag = some form := by
  have hforms : some form ∈ tags.map Tag.canonicalize ↔ form ∈ canonical := by
    rw [map_canonicalize_of_mapM h]
    simp
  rw [mem_orderedSet, ← hforms, List.mem_map]

/-- Rows that a batch makes. -/
def BatchMakes (candidates : Nat → String) (now : String) (tags : List String) (form : String)
    (row : SlugRow) : Prop :=
  (∃ tag ∈ tags, Tag.canonicalize tag = some form) ∧ ∃ index, row = ⟨candidates index, now, now⟩

/-- A batch that is resolved gives the slug in the registry to each canonical form of its tags and
to nothing else, and leaves the registry that calls for the single tags leave in any order, but for
the identifiers and times of the new rows.  The size of the pieces in which tags are looked up makes
no difference, and a batch with a blank tag is refused for the first one. -/
theorem resolveAll_one_by_one (candidates : Nat → String) (now : String) (tags : List String)
    (store : Store) :
    (∀ slugs after, store.resolveAll candidates now tags = (.ok slugs, after) →
      (∀ form, form ∈ slugs.keys ↔ ∃ tag ∈ tags, Tag.canonicalize tag = some form) ∧
      (∀ form slug, slugs.find? form = some slug →
        ∃ row, after.slugTable.find? form = some row ∧ row.slug = slug) ∧
      Gains (BatchMakes candidates now tags) store.slugTable after.slugTable ∧
      ∀ calls : List SingleCall, (calls.map (·.tag)).Perm tags → store.DrawnAnew calls →
        Gains (SingleCall.Makes calls) store.slugTable (store.resolveEach calls).slugTable ∧
        SameButNew store.slugTable after.slugTable (store.resolveEach calls).slugTable) ∧
    (∀ chunk, store.resolveAllBy chunk candidates now tags =
      store.resolveAll candidates now tags) ∧
    ∀ tag, (tags.find? fun tag => Text.trim tag == "") = some tag →
      store.resolveAll candidates now tags = (.error (.invalidTag tag), store) := by
  refine ⟨fun slugs after h => ?_, fun chunk => ?_, fun tag htag => ?_⟩
  case refine_2 =>
    exact (resolveAllBy_eq chunk lookupChunk candidates now tags store).trans
      (resolveAllBy_lookupChunk candidates now tags store)
  case refine_3 => rw [resolveAll, mapM_canonicalOrInvalid_of_find? htag]
  cases hcanonical : tags.mapM canonicalOrInvalid with
  | error error => simp [resolveAll, hcanonical] at h
  | ok canonical =>
      simp only [resolveAll, hcanonical] at h
      have hbatch := batchResolved_resolveCanonical h
      have hforms {form : String} := @mem_orderedSet_of_mapM tags canonical hcanonical form
      refine ⟨fun form => ?_, hbatch.holds, hbatch.gains.widen fun hnew =>
        ⟨hforms.mp hnew.1, hnew.2⟩, fun calls hperm hdrawn => ?_⟩
      · rw [Table.mem_keys_iff, ← Table.contains_iff, hbatch.keys, hforms]
      · have hcan : ∀ call ∈ calls, ∃ form, Tag.canonicalize call.tag = some form ∧
            store.CanRegister form := by
          intro call hcall
          have htag : call.tag ∈ tags := hperm.subset (List.mem_map_of_mem hcall)
          obtain ⟨form, -, hform⟩ : ∃ form ∈ canonical, some form = Tag.canonicalize call.tag := by
            rw [← List.mem_map, ← map_canonicalize_of_mapM hcanonical]
            exact List.mem_map_of_mem htag
          exact ⟨form, hform.symm, hbatch.could form (hforms.mpr ⟨call.tag, htag, hform.symm⟩)⟩
        obtain ⟨hgains, hcontains⟩ := gains_resolveEach hcan hdrawn
        refine ⟨hgains, hbatch.gains.sameButNew hgains And.left ?_ fun form hform => ⟨?_, ?_⟩⟩
        · rintro tag row ⟨call, hcall, hform, -⟩
          exact hforms.mpr ⟨call.tag, hperm.subset (List.mem_map_of_mem hcall), hform⟩
        · exact hbatch.holds.contains ((hbatch.keys form).mpr hform)
        · obtain ⟨tag, htag, hcanonical⟩ := hforms.mp hform
          obtain ⟨call, hcall, rfl⟩ := List.mem_map.mp (hperm.symm.subset htag)
          exact hcontains call hcall form hcanonical

def mixedTags : List String :=
  [" VIP", "vip", "Kept", "gala"]

def singleCalls : List SingleCall :=
  [⟨"gala", "one", "t2"⟩, ⟨"Kept", "two", "t3"⟩, ⟨"vip", "three", "t4"⟩, ⟨" VIP", "four", "t5"⟩]

def drawnSlugs (index : Nat) : String :=
  if index = 0 then "first" else "second"

/-- A tag in two spellings, a registered one and a new one: the batch uses two identifiers, and the
calls, which come in another order, use two of their four. -/
theorem batch_agrees_with_calls :
    (raceStore.resolveAll drawnSlugs "t1" mixedTags).1.map Table.rows =
        .ok [("gala", "first"), ("kept", "old"), ("vip", "second")] ∧
      (raceStore.resolveEach singleCalls).entries.map (fun entry => (entry.tag, entry.slug)) =
        [("gala", "one"), ("kept", "old"), ("vip", "three")] ∧
      SameButNew raceStore.slugTable (raceStore.resolveAll drawnSlugs "t1" mixedTags).2.slugTable
        (raceStore.resolveEach singleCalls).slugTable ∧
      raceStore.resolveAll drawnSlugs "t1" ["vip", " ", ""] =
        (.error (.invalidTag " "), raceStore) := by
  have hrows : (raceStore.resolveAll drawnSlugs "t1" mixedTags).1.map Table.rows =
      .ok [("gala", "first"), ("kept", "old"), ("vip", "second")] := by
    decide +kernel
  have hdrawn : raceStore.DrawnAnew singleCalls := ⟨by decide, by decide +kernel⟩
  have hperm : (singleCalls.map (·.tag)).Perm mixedTags := by decide
  have hbatch := (resolveAll_one_by_one drawnSlugs "t1" mixedTags raceStore).1
  generalize raceStore.resolveAll drawnSlugs "t1" mixedTags = batch at hrows hbatch ⊢
  obtain ⟨_ | slugs, after⟩ := batch
  · cases hrows
  · obtain ⟨-, -, -, hcalls⟩ := hbatch slugs after rfl
    refine ⟨hrows, by decide +kernel, (hcalls singleCalls hperm hdrawn).2, ?_⟩
    exact (resolveAll_one_by_one drawnSlugs "t1" ["vip", " ", ""] raceStore).2.2 " "
      (by decide +kernel)

end Store

end TagLedger
