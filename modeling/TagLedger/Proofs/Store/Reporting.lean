import TagLedger.Proofs.Registry.Agreement
import TagLedger.Proofs.Store.Loading
import TagLedger.Proofs.Store.Usage

/-!
# When the usage report is given

A report registers what it counts.  Loaded projects can always be read, and nearly everything they
use is a key that the schema takes: the exception is a tag that starts with a NUL, which is not blank
and so stays in front of a canonical tag, and at which the schema takes a text to end.  One such tag
in one document is enough for the whole report to be refused.
-/

namespace TagLedger

namespace Store

/-- The registry is there and can be written, and holds keys that the schema takes. -/
structure RegistryIntact (store : Store) : Prop where
  slugs : store.slugs.isSome = true
  refusal : store.refusal = none
  keys : ∀ entry ∈ store.entries, notEmpty entry.tag = true

theorem RegistryIntact.ready {store : Store} (h : store.RegistryIntact) {candidates : Nat → String}
    (hnew : ∀ entry ∈ store.entries, ∀ index, entry.slug ≠ candidates index) (limit : Nat) :
    store.Ready ((List.range limit).map candidates) := by
  refine ⟨h.slugs, h.refusal, fun tag row hrow hslug => ?_⟩
  obtain ⟨index, -, hindex⟩ := List.mem_map.mp hslug
  exact hnew _ (ofRow_mem_entries hrow) index hindex.symm

variable {candidates : Nat → String} {store : Store} {tags : List String}

theorem exists_resolveAll_of_notEmpty (hintact : store.RegistryIntact)
    (hdistinct : ((List.range tags.length).map candidates).Nodup)
    (hnew : ∀ entry ∈ store.entries, ∀ index, entry.slug ≠ candidates index)
    (hnormal : ∀ tag ∈ tags, Tag.Normal tag) (hempty : ∀ tag ∈ tags, notEmpty tag = true)
    (now : String) : ∃ slugs after, store.resolveAll candidates now tags = (.ok slugs, after) := by
  have hensures := ensures_ok_resolveAllProgram (hintact.ready hnew tags.length) hdistinct now
    fun tag htag => ⟨tag, (hnormal tag htag).canonicalize, hempty tag htag⟩
  obtain ⟨slugs, hslugs⟩ := hensures.run Extends.refl
  rw [run_resolveAllProgram] at hslugs
  exact ⟨slugs, _, Prod.ext hslugs rfl⟩

/-- A tag that the schema does not take is no key of the registry, so it has to be inserted. -/
theorem resolveAll_of_refused (hintact : store.RegistryIntact)
    (hdistinct : ((List.range tags.length).map candidates).Nodup)
    (hnew : ∀ entry ∈ store.entries, ∀ index, entry.slug ≠ candidates index)
    (hnormal : ∀ tag ∈ tags, Tag.Normal tag) {tag : String} (htag : tag ∈ tags)
    (hempty : notEmpty tag = false) (now : String) :
    store.resolveAll candidates now tags =
      (.error (.store (.checkFailed (.notEmpty "tag"))), store) := by
  have hmem : tag ∈ orderedSet tags := mem_orderedSet.mpr htag
  have hmiss : (lookupTags store.slugTable .empty (orderedSet tags)).contains tag = false := by
    rw [Bool.eq_false_iff, ne_eq, contains_lookupTags]
    rintro (⟨-, hcontains⟩ | hfound)
    · obtain ⟨row, hrow⟩ := Table.contains_iff.mp hcontains
      exact absurd (hintact.keys _ (ofRow_mem_entries hrow)) (by simp [SlugEntry.ofRow, hempty])
    · cases hfound
  rw [resolveAll_of_normal hnormal, resolveCanonical, if_neg (by simpa using List.ne_nil_of_mem hmem),
    registry_of_isSome hintact.slugs]
  simp only [lookupChunked_eq]
  generalize hmisses : (orderedSet tags).filter (fun tag =>
    !(lookupTags store.slugTable .empty (orderedSet tags)).contains tag) = misses
  have hmissed : tag ∈ misses := by
    rw [← hmisses]
    exact List.mem_filter.mpr ⟨hmem, by simp [hmiss]⟩
  have hrefused : insertSlugs candidates now misses store.slugTable =
      .error (.checkFailed (.notEmpty "tag")) := by
    have hready := hintact.ready hnew misses.length
    have hlength : misses.length ≤ tags.length := by
      rw [← hmisses]
      exact Nat.le_trans (List.length_filter_le _ _) (length_orderedSet_le tags)
    have hsublist := (List.range_sublist.mpr hlength).map candidates
    rcases insertSlugs_of_new now (hdistinct.sublist hsublist) hready.unused with
      ⟨hall, -⟩ | ⟨-, herror⟩
    · exact absurd (hall tag hmissed) (by simp [hempty])
    · exact herror
  rw [if_neg (by simpa using List.ne_nil_of_mem hmissed), attempt, hintact.refusal, hrefused]

end Store

/-- With loaded projects, an intact registry and fresh identifiers, the report is given exactly if
no document uses a tag that starts with a NUL; if one does, the report is refused and nothing is
written. -/
theorem hashtagUsage_given_iff {candidates : Nat → String} {store : Store}
    (hloaded : Loaded .projects store.projects) (hintact : store.RegistryIntact)
    (hdistinct : Function.Injective candidates)
    (hnew : ∀ entry ∈ store.entries, ∀ index, entry.slug ≠ candidates index)
    (now : String) (options : UsageOptions) :
    ((∃ report after, store.hashtagUsage candidates now options = (.ok report, after)) ↔
      ∀ body ∈ store.projectBodies, ∀ tag, body.Uses tag → tag.toList.head? ≠ some '\x00') ∧
    ((∃ body ∈ store.projectBodies, ∃ tag, body.Uses tag ∧ tag.toList.head? = some '\x00') →
      store.hashtagUsage candidates now options =
        (.error (.store (.checkFailed (.notEmpty "tag"))), store)) := by
  obtain ⟨stored, hstored⟩ := hloaded.exists_scanDocuments
  obtain ⟨scan, hscan⟩ : ∃ scan, store.scanUsage = .ok scan := by
    rw [Store.scanUsage, hstored]
    exact ⟨_, rfl⟩
  have hcovers := Store.covers_of_scanUsage hscan
  have hnormal := hcovers.normal_of_mem_keys
  have hrefused : (∃ body ∈ store.projectBodies, ∃ tag, body.Uses tag ∧
      tag.toList.head? = some '\x00') → store.hashtagUsage candidates now options =
        (.error (.store (.checkFailed (.notEmpty "tag"))), store) := by
    rintro ⟨body, hbody, tag, huses, hstart⟩
    have hkey : tag ∈ scan.counts.keys := hcovers.mem_keys_iff.mpr ⟨body, hbody, huses⟩
    have hempty : notEmpty tag = false := by
      rw [Bool.eq_false_iff, ne_eq, (hnormal tag hkey).notEmpty_iff, not_not]
      exact hstart
    rw [Store.hashtagUsage, hscan]
    simp only [Store.resolveAll_of_refused hintact (List.nodup_range.map hdistinct) hnew
      hnormal hkey hempty now]
  refine ⟨⟨?_, ?_⟩, hrefused⟩
  · rintro ⟨report, after, hreport⟩ body hbody tag huses hstart
    rw [hrefused ⟨body, hbody, tag, huses, hstart⟩] at hreport
    cases hreport
  · intro hstarts
    have hempty : ∀ tag ∈ scan.counts.keys, notEmpty tag = true := by
      intro tag hkey
      obtain ⟨body, hbody, huses⟩ := hcovers.mem_keys_iff.mp hkey
      exact (hnormal tag hkey).notEmpty_iff.mpr (hstarts body hbody tag huses)
    obtain ⟨slugs, after, hslugs⟩ :=
      Store.exists_resolveAll_of_notEmpty hintact (List.nodup_range.map hdistinct) hnew hnormal
        hempty now
    exact ⟨_, after, Store.hashtagUsage_of_resolveAll hscan hslugs options⟩

/-- Identifiers that are told apart by their lengths. -/
def dashes (index : Nat) : String :=
  String.ofList (.replicate (index + 1) '-')

theorem dashes_injective : Function.Injective dashes := by
  intro index other h
  have hlist := String.ofList_injective h
  simpa using congrArg List.length hlist

/-- A migrated store into which one project with these tags was loaded. -/
def tagged (tags : List String) : Store :=
  ((Store.blank.migrate "t0").2.upsertDocuments dashes "t1" .projects
    [.object [("hashtags", .array (tags.map .string))]]).2

theorem loaded_tagged (tags : List String) : Loaded .projects (tagged tags).projects :=
  .batch dashes "t1" _ .created

theorem exists_tagged (tags : List String) : ∃ table,
    tagged tags = (Store.blank.migrate "t0").2.withDocuments .projects table := by
  rcases Store.upsertDocuments_cases dashes "t1" .projects
    [.object [("hashtags", .array (tags.map .string))]] (Store.blank.migrate "t0").2 with
    ⟨_, hbatch⟩ | ⟨_, _, written, -, -, -, hbatch⟩
  · exact ⟨.empty, by rw [tagged, hbatch]; rfl⟩
  · exact ⟨written, by rw [tagged, hbatch]⟩

theorem entries_tagged (tags : List String) : (tagged tags).entries = [] := by
  obtain ⟨table, htagged⟩ := exists_tagged tags
  rw [htagged]
  rfl

theorem registryIntact_tagged (tags : List String) : (tagged tags).RegistryIntact := by
  obtain ⟨table, htagged⟩ := exists_tagged tags
  refine ⟨by rw [htagged]; rfl, by rw [htagged]; rfl, ?_⟩
  simp [entries_tagged]

/-- Control characters may start a tag, and a NUL may stand inside it. -/
theorem control_tags_reported :
    (tagged ["\x01VIP", "a\x00b", "\x85"]).projectBodies.length = 1 ∧
      ∃ report after, (tagged ["\x01VIP", "a\x00b", "\x85"]).hashtagUsage dashes "t2"
        ⟨true, none⟩ = (.ok report, after) := by
  have hgiven := (hashtagUsage_given_iff (loaded_tagged ["\x01VIP", "a\x00b", "\x85"])
    (registryIntact_tagged _) dashes_injective (by simp [entries_tagged]) "t2"
    ⟨true, none⟩).1
  have hstarts : ((tagged ["\x01VIP", "a\x00b", "\x85"]).projectBodies.all fun body =>
      body.document?.all fun document =>
        (Tag.projectRepresentations document).all (·.toList.head? != some '\x00')) = true := by
    decide +kernel
  refine ⟨by decide +kernel, hgiven.mpr fun body hbody tag huses => ?_⟩
  obtain ⟨document, hdocument, htag⟩ := huses
  have hbodyStarts := List.all_eq_true.mp hstarts body hbody
  rw [hdocument, Option.all_some] at hbodyStarts
  simpa using List.all_eq_true.mp hbodyStarts tag htag

/-- A NUL at the start of one tag of one document is enough. -/
theorem leading_nul_refused : ¬ ∀ (candidates : Nat → String) (store : Store) (now : String)
    (options : UsageOptions), Loaded .projects store.projects → store.RegistryIntact →
      Function.Injective candidates →
      (∀ entry ∈ store.entries, ∀ index, entry.slug ≠ candidates index) →
      ∃ report after, store.hashtagUsage candidates now options = (.ok report, after) := by
  intro h
  obtain ⟨report, after, hreport⟩ := h dashes (tagged ["\x00vip"]) "t2" ⟨false, none⟩
    (loaded_tagged _) (registryIntact_tagged _) dashes_injective (by simp [entries_tagged])
  have hrefused : ((tagged ["\x00vip"]).hashtagUsage dashes "t2" ⟨false, none⟩).1.isOk = false := by
    decide +kernel
  rw [hreport] at hrefused
  cases hrefused

end TagLedger
