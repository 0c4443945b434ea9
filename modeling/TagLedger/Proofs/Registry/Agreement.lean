import TagLedger.Proofs.Registry.Permanence
import TagLedger.Proofs.Tag.Canonical

/-!
# Agreement of racing resolvers

Any number of calls resolve tags at the same time on one store.  A call relies on the others to keep
the rows that are there and to stay away from its own identifiers, and guarantees to add rows only
for the tags it was asked for, under its own identifiers.  With identifiers that are all distinct,
every call then succeeds, and what it returns is what the registry holds for good.
-/

namespace TagLedger

namespace Store

/-- `after` holds every row of `before` and other rows only as `allowed`; whether the registry can
be written is the same. -/
structure Extends (allowed : String → String → Prop) (before after : Store) : Prop where
  slugs : after.slugs.isSome = before.slugs.isSome
  refusal : after.refusal = before.refusal
  kept : ∀ {tag row}, before.slugTable.find? tag = some row →
    after.slugTable.find? tag = some row
  added : ∀ {tag row}, after.slugTable.find? tag = some row →
    before.slugTable.find? tag = some row ∨ allowed tag row.slug

variable {allowed : String → String → Prop}

theorem Extends.refl (store : Store) : Extends allowed store store :=
  ⟨rfl, rfl, id, Or.inl⟩

theorem Extends.trans {first second third : Store} (h : Extends allowed first second)
    (h' : Extends allowed second third) : Extends allowed first third where
  slugs := h'.slugs.trans h.slugs
  refusal := h'.refusal.trans h.refusal
  kept hrow := h'.kept (h.kept hrow)
  added hrow := (h'.added hrow).elim h.added Or.inr

theorem Extends.widen {wider : String → String → Prop} {before after : Store}
    (h : Extends allowed before after) (hwider : ∀ {tag slug}, allowed tag slug → wider tag slug) :
    Extends wider before after :=
  ⟨h.slugs, h.refusal, h.kept, fun hrow => (h.added hrow).imp_right hwider⟩

/-- The registry can be written, and none of the identifiers is in use. -/
structure Ready (identifiers : List String) (store : Store) : Prop where
  slugs : store.slugs.isSome = true
  refusal : store.refusal = none
  unused : ∀ tag row, store.slugTable.find? tag = some row → row.slug ∉ identifiers

theorem Ready.extends {identifiers : List String} {before after : Store}
    (h : Ready identifiers before)
    (hextends : Extends (fun _ slug => slug ∉ identifiers) before after) :
    Ready identifiers after where
  slugs := hextends.slugs.trans h.slugs
  refusal := hextends.refusal.trans h.refusal
  unused tag row hrow := (hextends.added hrow).elim (h.unused tag row) id

theorem registry_of_isSome {store : Store} (h : store.slugs.isSome = true) :
    store.registry = .ok store.slugTable := by
  obtain ⟨table, htable⟩ := Option.isSome_iff_exists.mp h
  simp [registry, slugTable, htable, require]

theorem exists_readSlug {store : Store} {canonical : String} (h : store.slugs.isSome = true)
    (hcontains : store.slugTable.contains canonical = true) :
    ∃ slug, readSlug canonical store = .ok slug := by
  obtain ⟨row, hrow⟩ := Table.contains_iff.mp hcontains
  exact ⟨row.slug, by simp [readSlug, registry_of_isSome h, hrow]⟩

theorem Ready.write {identifiers : List String} {store : Store} (h : Ready identifiers store)
    (write : Table SlugRow → Except StoreFault (Table SlugRow)) :
    (store.registry.bind fun table => store.attempt (write table)) = write store.slugTable := by
  rw [registry_of_isSome h.slugs]
  simp [Except.bind, attempt, h.refusal]

theorem extends_withRegistry {store : Store} {table : Table SlugRow}
    (hslugs : store.slugs.isSome = true) (hgrows : Grows store.slugTable table)
    (hadded : ∀ {tag row}, table.find? tag = some row →
      store.slugTable.find? tag = some row ∨ allowed tag row.slug) :
    Extends allowed store (store.withRegistry table) :=
  ⟨hslugs.symm, rfl, hgrows.kept, hadded⟩

theorem Ready.registerTag {identifiers : List String} {store : Store}
    (h : Ready identifiers store) {candidate canonical : String} (now : String)
    (hcandidate : candidate ∈ identifiers) (hempty : notEmpty canonical = true) :
    ∃ table, Store.registerTag candidate now canonical store = (.ok (), store.withRegistry table) ∧
      table.contains canonical = true ∧
      Extends (fun tag slug => tag = canonical ∧ slug = candidate) store
        (store.withRegistry table) := by
  obtain ⟨table, htable⟩ := exists_insertSlug_of_new now hempty
    fun other row hrow (hslug : row.slug = candidate) => h.unused other row hrow (hslug ▸ hcandidate)
  refine ⟨table, ?_, contains_of_insertSlug htable, ?_⟩
  · simp only [Store.registerTag, h.write, htable]
  · exact extends_withRegistry h.slugs (grows_of_insertSlug htable) (find?_of_insertSlug htable)

theorem Ready.registerMisses {candidates : Nat → String} {limit : Nat} {store : Store}
    (h : Ready ((List.range limit).map candidates) store)
    (hdistinct : ((List.range limit).map candidates).Nodup) (now : String) {misses : List String}
    (found : Table String) (hlength : misses.length ≤ limit)
    (hempty : ∀ tag ∈ misses, notEmpty tag = true) :
    ∃ slugs after, Store.registerMisses candidates now misses found store = (.ok slugs, after) ∧
      Extends (fun tag slug => tag ∈ misses ∧ slug ∈ (List.range limit).map candidates) store
        after := by
  have hsublist : ((List.range misses.length).map candidates).Sublist
      ((List.range limit).map candidates) := (List.range_sublist.mpr hlength).map candidates
  obtain ⟨table, htable⟩ : ∃ table,
      insertSlugs candidates now misses store.slugTable = .ok table := by
    rcases insertSlugs_of_new now (hdistinct.sublist hsublist)
      fun tag row hrow hslug => h.unused tag row hrow (hsublist.subset hslug) with
      ⟨-, hok⟩ | ⟨⟨tag, htag, hfalse⟩, -⟩
    · exact hok
    · exact absurd (hempty tag htag) (by simp [hfalse])
  refine ⟨lookupChunked lookupChunk table misses found, store.withRegistry table, ?_, ?_⟩
  · simp only [Store.registerMisses, h.write, htable]
  · refine extends_withRegistry h.slugs (grows_of_insertSlugs htable) fun {tag row} hrow => ?_
    refine (find?_of_insertSlugs htable hrow).imp_right ?_
    rintro ⟨index, hindex, hslug⟩
    have hlt : index < misses.length := (List.getElem?_eq_some_iff.mp hindex).1
    refine ⟨List.mem_of_getElem? hindex, List.mem_map.mpr ⟨index, ?_, hslug.symm⟩⟩
    exact List.mem_range.mpr (by omega)

/-! ## Calls under way -/

/-- What a call relies on: nobody else registers a tag under one of its identifiers. -/
def Spares (identifiers : List String) : Store → Store → Prop :=
  Extends fun _ slug => slug ∉ identifiers

/-- What a call guarantees: it registers only its tags, under its identifiers. -/
def Registers (tags identifiers : List String) : Store → Store → Prop :=
  Extends fun tag slug => tag ∈ tags ∧ slug ∈ identifiers

theorem ensures_ok_resolveProgram {candidate now tag canonical : String} {store : Store}
    (h : Ready [candidate] store) (hcanonical : Tag.canonicalize tag = some canonical)
    (hempty : notEmpty canonical = true) :
    (resolveProgram candidate now tag).Ensures (Spares [candidate])
      (Registers [canonical] [candidate]) (fun result _ => ∃ slug, result = .ok slug) store := by
  have hvalid : canonicalOrInvalid tag = .ok canonical := by
    simp [canonicalOrInvalid, hcanonical]
  unfold resolveProgram
  rw [hvalid]
  have hregister : (Program.atomic (registerTag candidate now canonical)).Ensures
      (Spares [candidate]) (Registers [canonical] [candidate])
      (fun result store => result = .ok () ∧ store.slugs.isSome = true ∧
        store.slugTable.contains canonical = true) store := by
    refine Program.ensures_atomic (fun later hlater => ?_) fun later hlater final hfinal => ?_
    · obtain ⟨table, hregister, -, hextends⟩ :=
        (h.extends hlater).registerTag now List.mem_cons_self hempty
      rw [hregister]
      exact hextends.widen (by simp)
    · obtain ⟨table, hregister, hcontains, -⟩ :=
        (h.extends hlater).registerTag now List.mem_cons_self hempty
      rw [hregister] at hfinal ⊢
      obtain ⟨row, hrow⟩ := Table.contains_iff.mp hcontains
      exact ⟨rfl, hfinal.slugs, Table.contains_iff.mpr ⟨row, hfinal.kept hrow⟩⟩
  refine Program.ensures_bind Extends.refl hregister fun result store hresult => ?_
  obtain ⟨rfl, hslugs, hcontains⟩ := hresult
  refine Program.ensures_read Extends.refl fun later hlater final _ => ?_
  obtain ⟨row, hrow⟩ := Table.contains_iff.mp hcontains
  exact exists_readSlug (hlater.slugs.trans hslugs)
    (Table.contains_iff.mpr ⟨row, hlater.kept hrow⟩)

theorem ensures_ok_lookupProgram {identifiers : List String} (tags : List String)
    (pieces : List (List String)) (found : Table String) {store : Store}
    (h : Ready identifiers store) :
    (lookupProgram pieces found).Ensures (Spares identifiers) (Registers tags identifiers)
      (fun result store => (∃ found, result = .ok found) ∧ Ready identifiers store) store := by
  induction pieces generalizing found store with
  | nil => exact .done fun later hlater => ⟨⟨found, rfl⟩, h.extends hlater⟩
  | cons piece rest ih =>
      have hread : (Program.read registry).Ensures (Spares identifiers)
          (Registers tags identifiers)
          (fun result store => (∃ table, result = .ok table) ∧ Ready identifiers store) store := by
        refine Program.ensures_read Extends.refl fun later hlater final hfinal => ?_
        have hready := h.extends hlater
        exact ⟨⟨_, registry_of_isSome hready.slugs⟩, hready.extends hfinal⟩
      refine Program.ensures_bind Extends.refl hread fun result store hresult => ?_
      obtain ⟨⟨table, rfl⟩, hready⟩ := hresult
      exact ih (lookupTags table found piece) hready

theorem ensures_ok_resolveMisses {candidates : Nat → String} {limit : Nat} {store : Store}
    (h : Ready ((List.range limit).map candidates) store)
    (hdistinct : ((List.range limit).map candidates).Nodup) (now : String) {tags : List String}
    (found : Table String) (hlength : tags.length ≤ limit)
    (hempty : ∀ tag ∈ tags, notEmpty tag = true) :
    (resolveMisses candidates now tags found).Ensures
      (Spares ((List.range limit).map candidates))
      (Registers tags ((List.range limit).map candidates))
      (fun result _ => ∃ slugs, result = .ok slugs) store := by
  unfold resolveMisses
  dsimp only
  split
  · exact .done fun _ _ => ⟨found, rfl⟩
  · have hmisses : (tags.filter fun tag => !found.contains tag).length ≤ limit :=
      Nat.le_trans (List.length_filter_le _ tags) hlength
    have hregisters (later : Store)
        (hlater : Spares ((List.range limit).map candidates) store later) :=
      (h.extends hlater).registerMisses hdistinct now found hmisses
        fun tag htag => hempty tag (List.mem_of_mem_filter htag)
    refine Program.ensures_atomic (fun later hlater => ?_) fun later hlater final _ => ?_
    · obtain ⟨slugs, after, hregister, hextends⟩ := hregisters later hlater
      rw [hregister]
      exact hextends.widen fun hallowed => ⟨List.mem_of_mem_filter hallowed.1, hallowed.2⟩
    · obtain ⟨slugs, after, hregister, -⟩ := hregisters later hlater
      rw [hregister]
      exact ⟨slugs, rfl⟩

theorem ensures_ok_resolveAllProgram {candidates : Nat → String} {tags : List String}
    {store : Store} (h : Ready ((List.range tags.length).map candidates) store)
    (hdistinct : ((List.range tags.length).map candidates).Nodup) (now : String)
    (htags : ∀ tag ∈ tags, ∃ canonical, Tag.canonicalize tag = some canonical ∧
      notEmpty canonical = true) :
    (resolveAllProgram candidates now tags).Ensures
      (Spares ((List.range tags.length).map candidates))
      (Registers (tags.filterMap Tag.canonicalize) ((List.range tags.length).map candidates))
      (fun result _ => ∃ slugs, result = .ok slugs) store := by
  obtain ⟨canonical, hmapM⟩ := exists_mapM_of_canonicalize fun tag htag =>
    (htags tag htag).imp fun _ hcanonical => hcanonical.1
  have hforms := map_canonicalize_of_mapM hmapM
  have hcanonical : tags.filterMap Tag.canonicalize = canonical := by
    simpa [List.filterMap_map] using congrArg (List.filterMap id) hforms
  have hempty : ∀ form ∈ orderedSet canonical, notEmpty form = true := by
    intro form hform
    rw [mem_orderedSet, ← hcanonical, List.mem_filterMap] at hform
    obtain ⟨tag, htag, hform⟩ := hform
    obtain ⟨other, hother, hnotEmpty⟩ := htags tag htag
    obtain rfl := Option.some.inj (hform.symm.trans hother)
    exact hnotEmpty
  unfold resolveAllProgram
  rw [hmapM, hcanonical]
  have hlookup := ensures_ok_lookupProgram canonical
    (chunks lookupChunk (orderedSet canonical)) .empty h
  refine Program.ensures_bind Extends.refl hlookup fun result store hresult => ?_
  obtain ⟨⟨found, rfl⟩, hready⟩ := hresult
  have hmisses := ensures_ok_resolveMisses hready hdistinct now found
    (length_orderedSet_of_mapM hmapM) hempty
  exact hmisses.widen id fun hregisters =>
    hregisters.widen fun hallowed => ⟨mem_orderedSet.mp hallowed.1, hallowed.2⟩

/-! ## How long a call takes -/

theorem endsWithin_resolveProgram (candidate now tag : String) :
    (resolveProgram candidate now tag).EndsWithin 2 := by
  unfold resolveProgram
  split
  · exact .done
  · change Program.EndsWithin _ (1 + 1)
    refine Program.endsWithin_bind (Program.endsWithin_atomic _) fun result => ?_
    cases result with
    | error fault => exact .done
    | ok _ => exact Program.endsWithin_read _

theorem endsWithin_lookupProgram (pieces : List (List String)) (found : Table String) :
    (lookupProgram pieces found).EndsWithin pieces.length := by
  induction pieces generalizing found with
  | nil => exact .done
  | cons piece rest ih =>
      rw [List.length_cons, Nat.add_comm]
      refine Program.endsWithin_bind (Program.endsWithin_read _) fun result => ?_
      cases result with
      | error fault => exact .done
      | ok table => exact ih (lookupTags table found piece)

theorem endsWithin_resolveMisses (candidates : Nat → String) (now : String) (tags : List String)
    (found : Table String) : (resolveMisses candidates now tags found).EndsWithin 1 := by
  unfold resolveMisses
  dsimp only
  split
  · exact .done
  · exact Program.endsWithin_atomic _

theorem endsWithin_resolveAllProgram (candidates : Nat → String) (now : String)
    (tags : List String) :
    (resolveAllProgram candidates now tags).EndsWithin (tags.length + 1) := by
  unfold resolveAllProgram
  split
  · exact .done
  · next canonical hcanonical =>
      have hlength : (chunks lookupChunk (orderedSet canonical)).length ≤ tags.length :=
        Nat.le_trans (length_chunks_le _ _) (length_orderedSet_of_mapM hcanonical)
      refine Program.endsWithin_bind
        ((endsWithin_lookupProgram _ _).le hlength) fun result => ?_
      cases result with
      | error fault => exact .done
      | ok found => exact endsWithin_resolveMisses candidates now _ found

end Store

/-! ## Calls that resolve tags -/

/-- A call with the identifiers that it draws, one for each tag that it may have to register. -/
inductive Resolution where
  | one (tag candidate now : String)
  | many (tags : List String) (candidates : Nat → String) (now : String)

namespace Resolution

def tags : Resolution → List String
  | .one tag _ _ => [tag]
  | .many tags _ _ => tags

/-- The canonical forms that a call asks for. -/
def requested (call : Resolution) : List String :=
  call.tags.filterMap Tag.canonicalize

def identifiers : Resolution → List String
  | .one _ candidate _ => [candidate]
  | .many tags candidates _ => (List.range tags.length).map candidates

def operation : Resolution → Operation
  | .one tag candidate now => .resolve tag candidate now
  | .many tags candidates now => .resolveAll tags candidates now

/-- The number of statements and transactions that a call takes at most. -/
def statements (call : Resolution) : Nat :=
  call.tags.length + 1

def Succeeded (answer : Answer) : Resolution → Prop
  | .one _ _ _ => ∃ slug, answer = .slug (.ok slug)
  | .many _ _ _ => ∃ slugs, answer = .slugs (.ok slugs)

theorem endsWithin_program (call : Resolution) :
    call.operation.program.EndsWithin call.statements := by
  cases call with
  | one tag candidate now => exact (Store.endsWithin_resolveProgram candidate now tag).map _
  | many tags candidates now => exact (Store.endsWithin_resolveAllProgram candidates now tags).map _

theorem ensures_succeeded {call : Resolution} {store : Store}
    (h : Store.Ready call.identifiers store) (hdistinct : call.identifiers.Nodup)
    (htags : ∀ tag ∈ call.tags, ∃ canonical, Tag.canonicalize tag = some canonical ∧
      notEmpty canonical = true) :
    call.operation.program.Ensures (Store.Spares call.identifiers)
      (Store.Registers call.requested call.identifiers) (fun answer _ => call.Succeeded answer)
      store := by
  cases call with
  | one tag candidate now =>
      obtain ⟨canonical, hcanonical, hempty⟩ := htags tag List.mem_cons_self
      have hrequested : requested (.one tag candidate now) = [canonical] := by
        simp [requested, tags, hcanonical]
      rw [hrequested]
      refine Program.ensures_map
        ((Store.ensures_ok_resolveProgram h hcanonical hempty).weaken ?_)
      rintro _ _ ⟨slug, rfl⟩
      exact ⟨slug, rfl⟩
  | many tags candidates now =>
      refine Program.ensures_map
        ((Store.ensures_ok_resolveAllProgram h hdistinct now htags).weaken ?_)
      rintro _ _ ⟨slugs, rfl⟩
      exact ⟨slugs, rfl⟩

end Resolution

/-! ## Many calls at once -/

/-- The slug that an answer gives for a canonical tag. -/
def Answer.slugOf (canonical : String) : Answer → Option String
  | .slug (.ok held) => some held
  | .slugs (.ok held) => held.find? canonical
  | _ => none

namespace Resolution

def Relies (calls : List Resolution) (index : Nat) (before after : Store) : Prop :=
  ∀ call, calls[index]? = some call → Store.Spares call.identifiers before after

def Guarantees (calls : List Resolution) (index : Nat) (before after : Store) : Prop :=
  ∃ call, calls[index]? = some call ∧
    Store.Registers call.requested call.identifiers before after

theorem not_mem_identifiers_of_ne {calls : List Resolution} {index other : Nat}
    {call otherCall : Resolution} (hdistinct : (calls.flatMap identifiers).Nodup)
    (hcall : calls[index]? = some call) (hother : calls[other]? = some otherCall)
    (hne : index ≠ other) {identifier : String} (h : identifier ∈ call.identifiers) :
    identifier ∉ otherCall.identifiers := by
  obtain ⟨hindex, rfl⟩ := List.getElem?_eq_some_iff.mp hcall
  obtain ⟨hotherIndex, rfl⟩ := List.getElem?_eq_some_iff.mp hother
  have hdisjoint := List.pairwise_iff_getElem.mp (List.nodup_flatMap.mp hdistinct).2
  intro hidentifier
  rcases Nat.lt_or_gt_of_ne hne with hlt | hgt
  · exact hdisjoint index other hindex hotherIndex hlt h hidentifier
  · exact hdisjoint other index hotherIndex hindex hgt hidentifier h

theorem compatible {calls : List Resolution} (hdistinct : (calls.flatMap identifiers).Nodup) :
    Workload.Compatible (Relies calls) (Guarantees calls) where
  refl _ store _ _ := Store.Extends.refl store
  trans _ {_ _ _} h h' call hcall := (h call hcall).trans (h' call hcall)
  within := by
    rintro index other hne before after ⟨call, hcall, hregisters⟩ otherCall hother
    exact hregisters.widen fun hallowed =>
      not_mem_identifiers_of_ne hdistinct hcall hother hne hallowed.2

variable {store : Store} {calls : List Resolution} {post : Nat → Answer → Store → Prop}

theorem sound (hmigrated : store.slugs.isSome = true) (hwritable : store.refusal = none)
    (htags : ∀ call ∈ calls, ∀ tag ∈ call.tags, ∃ canonical,
      Tag.canonicalize tag = some canonical ∧ canonical.toList.head? ≠ some '\x00')
    (hdistinct : (calls.flatMap identifiers).Nodup)
    (hnew : ∀ entry ∈ store.entries, entry.slug ∉ calls.flatMap identifiers) :
    (Workload.start store (calls.map operation)).Sound (Relies calls) (Guarantees calls)
      (fun index answer _ => ∀ call, calls[index]? = some call → call.Succeeded answer) := by
  intro index program hprogram
  obtain ⟨call, hcall, rfl⟩ : ∃ call, calls[index]? = some call ∧
      call.operation.program = program := by
    simpa [Workload.start] using hprogram
  have hmem : call ∈ calls := List.mem_of_getElem? hcall
  have hready : store.Ready call.identifiers := by
    refine ⟨hmigrated, hwritable, fun tag row hrow hslug => ?_⟩
    exact hnew _ (Store.ofRow_mem_entries hrow) (List.mem_flatMap.mpr ⟨call, hmem, hslug⟩)
  have hensures := ensures_succeeded hready ((List.nodup_flatMap.mp hdistinct).1 call hmem)
    fun tag htag => (htags call hmem tag htag).imp fun canonical hcanonical =>
      ⟨hcanonical.1, notEmpty_of_canonicalize hcanonical.1 hcanonical.2⟩
  refine (hensures.widen (fun hrelies => hrelies call hcall)
    fun hregisters => ⟨call, hcall, hregisters⟩).weaken ?_
  intro answer _ hsucceeded other hother
  obtain rfl := Option.some.inj (hcall.symm.trans hother)
  exact hsucceeded

theorem extends_run (hsound : (Workload.start store (calls.map operation)).Sound (Relies calls)
      (Guarantees calls) post)
    (hdistinct : (calls.flatMap identifiers).Nodup) (schedule : List Nat) :
    Store.Extends (fun tag _ => ∃ call ∈ calls, tag ∈ call.requested) store
      ((Workload.start store (calls.map operation)).run schedule).state := by
  refine hsound.state_run (compatible hdistinct) Store.Extends.refl Store.Extends.trans ?_ schedule
  rintro index before after ⟨call, hcall, hregisters⟩
  exact hregisters.widen fun hallowed => ⟨call, List.mem_of_getElem? hcall, hallowed.1⟩

theorem slugOf_of_answeredFrom {call : Resolution} {answer : Answer} {entries : List SlugEntry}
    (hsucceeded : call.Succeeded answer)
    (hanswered : call.operation.AnsweredFrom entries answer) {canonical : String}
    (hrequested : canonical ∈ call.requested) :
    ∃ entry ∈ entries, entry.tag = canonical ∧ answer.slugOf canonical = some entry.slug := by
  obtain ⟨tag, htag, hcanonical⟩ := List.mem_filterMap.mp hrequested
  cases call with
  | one asked candidate now =>
      obtain rfl := List.mem_singleton.mp htag
      obtain ⟨slug, rfl⟩ := hsucceeded
      obtain ⟨result, hresult, hcarries⟩ := hanswered
      cases hresult
      obtain ⟨entry, hentry, hform, rfl⟩ := hcarries slug rfl
      exact ⟨entry, hentry, Option.some.inj (hform.symm.trans hcanonical), rfl⟩
  | many asked candidates now =>
      obtain ⟨slugs, rfl⟩ := hsucceeded
      obtain ⟨result, hresult, hcarries⟩ := hanswered
      cases hresult
      obtain ⟨slug, hslug, entry, hentry, hform, rfl⟩ := hcarries slugs rfl tag htag
      rw [hcanonical, Option.bind_some] at hslug
      exact ⟨entry, hentry, Option.some.inj (hform.symm.trans hcanonical), hslug⟩

end Resolution

/-- However calls on a migrated store that can be written interleave: all that were asked for a tag
are given one slug, which is the one in the tag's only row; every call returns; and in the end the
registry holds the old rows and one row for each tag that was asked for and had none. -/
theorem resolvers_agree (store : Store) (calls : List Resolution) (schedule : List Nat)
    (hmigrated : store.slugs.isSome = true) (hwritable : store.refusal = none)
    (htags : ∀ call ∈ calls, ∀ tag ∈ call.tags, ∃ canonical,
      Tag.canonicalize tag = some canonical ∧ canonical.toList.head? ≠ some '\x00')
    (hdistinct : (calls.flatMap Resolution.identifiers).Nodup)
    (hnew : ∀ entry ∈ store.entries, entry.slug ∉ calls.flatMap Resolution.identifiers) :
    let final := (Workload.start store (calls.map Resolution.operation)).run schedule
    (∀ canonical, ∃ slug, ∀ index call answer, calls[index]? = some call →
      final.result? index = some answer → canonical ∈ call.requested →
        answer.slugOf canonical = some slug ∧
        ∃ entry, final.state.entries.filter (·.tag == canonical) = [entry] ∧ entry.slug = slug) ∧
    (∀ index call, calls[index]? = some call → call.statements ≤ schedule.count index →
      ∃ answer, final.result? index = some answer) ∧
    ((∀ index < calls.length, ∃ answer, final.result? index = some answer) →
      store.entries ⊆ final.state.entries ∧ (final.state.entries.map (·.tag)).Nodup ∧
      ∀ tag, tag ∈ final.state.entries.map (·.tag) ↔
        tag ∈ store.entries.map (·.tag) ∨ ∃ call ∈ calls, tag ∈ call.requested) := by
  intro final
  have hsound := Resolution.sound hmigrated hwritable htags hdistinct hnew
  have hcompatible := Resolution.compatible hdistinct
  have hentry {index : Nat} {call : Resolution} {answer : Answer} {canonical : String}
      (hcall : calls[index]? = some call) (hanswer : final.result? index = some answer)
      (hrequested : canonical ∈ call.requested) :
      ∃ entry ∈ final.state.entries, entry.tag = canonical ∧
        answer.slugOf canonical = some entry.slug := by
    have hsucceeded := (hsound.run hcompatible schedule).result hcompatible hanswer call hcall
    have hoperation : (calls.map Resolution.operation)[index]? = some call.operation := by
      simp [hcall]
    exact Resolution.slugOf_of_answeredFrom hsucceeded
      (Workload.answered_run hanswer call.operation hoperation) hrequested
  have hextends := Resolution.extends_run hsound hdistinct schedule
  refine ⟨fun canonical => ?_, fun index call hcall hcount => ?_, fun hcompleted => ?_⟩
  · by_cases hheld : ∃ entry ∈ final.state.entries, entry.tag = canonical
    · obtain ⟨entry, hmem, rfl⟩ := hheld
      have hfilter := Store.filter_entries hmem
      refine ⟨entry.slug, fun index call answer hcall hanswer hrequested => ?_⟩
      obtain ⟨other, hother, htag, hslug⟩ := hentry hcall hanswer hrequested
      have honly : other ∈ [entry] :=
        hfilter ▸ List.mem_filter.mpr ⟨hother, beq_iff_eq.mpr htag⟩
      rw [List.mem_singleton.mp honly] at hslug
      exact ⟨hslug, entry, hfilter, rfl⟩
    · refine ⟨"", fun index call answer hcall hanswer hrequested => absurd ?_ hheld⟩
      obtain ⟨entry, hmem, htag, -⟩ := hentry hcall hanswer hrequested
      exact ⟨entry, hmem, htag⟩
  · have hprogram : (Workload.start store (calls.map Resolution.operation)).programs[index]? =
        some call.operation.program := by
      simp [Workload.start, hcall]
    exact Workload.exists_result_of_count hprogram call.endsWithin_program hcount
  · have hkept : store.entries ⊆ final.state.entries :=
      (Workload.keeps_run store (calls.map Resolution.operation) schedule).entries_subset
    refine ⟨hkept, final.state.nodup_tags, fun tag => ?_⟩
    simp only [List.mem_map]
    constructor
    · rintro ⟨entry, hmem, rfl⟩
      rcases hextends.added (Store.mem_entries_iff.mp hmem) with hold | hadded
      · exact Or.inl ⟨entry, Store.mem_entries_iff.mpr hold, rfl⟩
      · exact Or.inr hadded
    · rintro (⟨entry, hmem, rfl⟩ | ⟨call, hcall, hrequested⟩)
      · exact ⟨entry, hkept hmem, rfl⟩
      · obtain ⟨index, hindex⟩ := List.mem_iff_getElem?.mp hcall
        obtain ⟨answer, hanswer⟩ := hcompleted index (List.getElem?_eq_some_iff.mp hindex).1
        obtain ⟨entry, hmem, htag, -⟩ := hentry hindex hanswer hrequested
        exact ⟨entry, hmem, htag⟩

/-- Two single calls and a batch race for one tag; the batch looks it up before it is registered. -/
def race : List Resolution :=
  [.one " VIP" "first" "t1",
    .many ["Gala", "vip", "kept"] (fun index => "batch" ++ String.ofList (.replicate index '-')) "t2",
    .one "vip " "last" "t3"]

def raceStore : Store :=
  { (Store.blank.migrate "t0").2 with slugs := some (Table.empty.insert "kept" ⟨"old", "t0", "t0"⟩) }

theorem race_agrees :
    let final := (Workload.start raceStore (race.map Resolution.operation)).run
      [1, 0, 2, 1, 2, 0, 1, 1]
    final.state.entries.map (fun entry => (entry.tag, entry.slug)) =
        [("gala", "batch"), ("kept", "old"), ("vip", "first")] ∧
      ∃ slug, ∀ index < 3, ∃ answer, final.result? index = some answer ∧
        answer.slugOf "vip" = some slug := by
  have htags : ∀ call ∈ race, ∀ tag ∈ call.tags,
      ((Tag.canonicalize tag).any fun canonical => canonical.toList.head? != some '\x00') := by
    decide
  obtain ⟨hagree, hcompleted, -⟩ := resolvers_agree raceStore race [1, 0, 2, 1, 2, 0, 1, 1] rfl rfl
    (fun call hcall tag htag => by simpa [Option.any_eq_true] using htags call hcall tag htag)
    (by decide) (by decide)
  have hvip : ∀ call ∈ race, "vip" ∈ call.requested := by decide
  have hcount : ∀ index (h : index < 3), (race.get ⟨index, h⟩).statements ≤
      [1, 0, 2, 1, 2, 0, 1, 1].count index := by decide
  obtain ⟨slug, hslug⟩ := hagree "vip"
  refine ⟨by decide +kernel, slug, fun index hindex => ?_⟩
  have hcall : race[index]? = some (race.get ⟨index, hindex⟩) := List.getElem?_eq_getElem hindex
  obtain ⟨answer, hanswer⟩ := hcompleted index _ hcall (hcount index hindex)
  exact ⟨answer, hanswer, (hslug index _ answer hcall hanswer
    (hvip _ (List.mem_of_getElem? hcall))).1⟩

end TagLedger
