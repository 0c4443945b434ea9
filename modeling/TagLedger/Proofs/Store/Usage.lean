import TagLedger.Proofs.Registry.Batch
import TagLedger.Proofs.Store.Document
import TagLedger.Proofs.Tag.Usage
import TagLedger.Proofs.Text.Utf8
import Mathlib.Data.List.Induction

/-!
# The usage report

What the report says is fixed by the texts of the project documents and by the registry.  Every
representation of a document is canonical, so a batch of them is resolved under the very tags that
were counted, and none is lost when counts and slugs are put together.
-/

namespace TagLedger

/-! ## Documents -/

/-- The document that a stored body stands for, if it is a text that is JSON. -/
def Cell.document? : Cell → Option Json
  | .text content => Json.read content
  | .blob _ => none

def Cell.Uses (body : Cell) (tag : String) : Prop :=
  ∃ document, body.document? = some document ∧ tag ∈ Tag.projectRepresentations document

instance (body : Cell) (tag : String) : Decidable (body.Uses tag) :=
  decidable_of_iff (∃ document ∈ body.document?, tag ∈ Tag.projectRepresentations document) Iff.rfl

/-- The stored bodies of the projects, one for each row. -/
def Store.projectBodies (store : Store) : List Cell :=
  (store.projects.getD .empty).rows.map (·.2.body)

/-- The number of the documents that use the tag. -/
def Store.uses (store : Store) (tag : String) : Nat :=
  store.projectBodies.countP (·.Uses tag)

theorem Store.uses_pos_iff {store : Store} {tag : String} :
    0 < store.uses tag ↔ ∃ body ∈ store.projectBodies, body.Uses tag := by
  simp [Store.uses, List.countP_pos_iff]

namespace Tag.UsageScan

/-- The scan accounts for these bodies. -/
structure Covers (scan : UsageScan) (bodies : List Cell) : Prop where
  tallies : Tallies scan.counts fun tag => bodies.countP (·.Uses tag)
  scanned : scan.scanned = bodies.length
  skipped : scan.skipped = bodies.countP (·.document?.isNone)

theorem covers_empty : empty.Covers [] :=
  ⟨tallies_empty, rfl, rfl⟩

theorem Covers.addStored {scan : UsageScan} {bodies : List Cell} (h : scan.Covers bodies)
    (stored : StoredDocument) :
    (scan.addStored stored).Covers (bodies ++ [.text stored.body]) := by
  unfold UsageScan.addStored
  cases hread : Json.read stored.body with
  | none =>
      have huses (tag : String) : ¬ (Cell.text stored.body).Uses tag := by
        simp [Cell.Uses, Cell.document?, hread]
      refine ⟨?_, ?_, ?_⟩
      · simpa [huses] using h.tallies
      · simp [h.scanned]
      · simp [h.skipped, Cell.document?, hread]
  | some document =>
      have huses (tag : String) : (Cell.text stored.body).Uses tag ↔
          tag ∈ projectRepresentations document := by
        simp [Cell.Uses, Cell.document?, hread]
      refine ⟨?_, ?_, ?_⟩
      · have htallies := h.tallies.addDocument document
        simpa [List.countP_append, List.countP_singleton, huses] using htallies
      · simp [h.scanned]
      · simp [h.skipped, Cell.document?, hread, UsageScan.addDocument]

theorem covers_foldl_addStored (documents : List StoredDocument) :
    (documents.foldl addStored empty).Covers (documents.map fun stored => .text stored.body) := by
  induction documents using List.reverseRecOn with
  | nil => exact covers_empty
  | append_singleton documents stored ih =>
      rw [List.foldl_append, List.map_append]
      exact ih.addStored stored

theorem Covers.mem_keys_iff {scan : UsageScan} {bodies : List Cell} (h : scan.Covers bodies)
    {tag : String} : tag ∈ scan.counts.keys ↔ ∃ body ∈ bodies, body.Uses tag := by
  simp [h.tallies.mem_keys_iff, List.countP_pos_iff]

theorem Covers.normal_of_mem_keys {scan : UsageScan} {bodies : List Cell} (h : scan.Covers bodies) :
    ∀ tag ∈ scan.counts.keys, Normal tag := by
  intro tag htag
  obtain ⟨body, -, document, -, hdocument⟩ := h.mem_keys_iff.mp htag
  exact normal_of_mem_projectRepresentations hdocument

/-! ## Rows -/

/-- With a slug for every tag the rows are the ranking. -/
theorem map_rows {scan : UsageScan} {slugs : Table String}
    (h : ∀ tag ∈ scan.counts.keys, slugs.contains tag = true) :
    (scan.rows slugs).map (fun row => (row.hashtag, row.count)) = scan.ranked := by
  have hranked : ∀ counted ∈ scan.ranked, slugs.contains counted.1 = true := by
    intro counted hcounted
    exact h _ (List.mem_map_of_mem ((perm_ranked scan).mem_iff.mp hcounted))
  rw [rows]
  generalize scan.ranked = ranked at hranked
  induction ranked with
  | nil => rfl
  | cons counted rest ih =>
      obtain ⟨hcontains, hrest⟩ := List.forall_mem_cons.mp hranked
      obtain ⟨slug, hslug⟩ := Table.contains_iff.mp hcontains
      simp [hslug, ih hrest]

theorem rows_congr {scan : UsageScan} {slugs others : Table String}
    (h : ∀ tag ∈ scan.counts.keys, slugs.find? tag = others.find? tag) :
    scan.rows slugs = scan.rows others := by
  refine List.filterMap_congr fun counted hcounted => ?_
  dsimp only
  rw [h _ (List.mem_map_of_mem ((perm_ranked scan).mem_iff.mp hcounted))]

end Tag.UsageScan

namespace Store

theorem covers_of_scanUsage {store : Store} {scan : Tag.UsageScan}
    (h : store.scanUsage = .ok scan) : scan.Covers store.projectBodies := by
  unfold scanUsage at h
  split at h
  · cases h
  · next stored hstored =>
      cases h
      obtain ⟨table, htable, hrows⟩ := scanDocuments_eq_ok_iff.mp hstored
      change store.projects = some table at htable
      have hbodies : store.projectBodies = stored.map fun stored => .text stored.body := by
        have hcells := congrArg (List.map Prod.snd) hrows
        rw [projectBodies, htable, Option.getD_some]
        simpa [StoredDocument.cells, Function.comp_def] using hcells
      rw [hbodies]
      exact Tag.UsageScan.covers_foldl_addStored stored

theorem scanUsage_congr {store later : Store} (h : later.projects = store.projects) :
    later.scanUsage = store.scanUsage := by
  simp [scanUsage, scanDocuments, documents, h]

theorem hashtagUsage_cases {candidates : Nat → String} {now : String} {options : UsageOptions}
    {store after : Store} {report : UsageReport}
    (h : store.hashtagUsage candidates now options = (.ok report, after)) :
    ∃ scan slugs, store.scanUsage = .ok scan ∧
      store.resolveAll candidates now scan.counts.keys = (.ok slugs, after) ∧
      report = scan.report slugs options := by
  unfold hashtagUsage at h
  split at h
  · cases h
  · next scan hscan =>
      split at h
      · cases h
      · next slugs after hslugs =>
          cases h
          exact ⟨scan, slugs, hscan, hslugs, rfl⟩

theorem hashtagUsage_of_resolveAll {candidates : Nat → String} {now : String}
    {store after : Store} {scan : Tag.UsageScan} {slugs : Table String}
    (hscan : store.scanUsage = .ok scan)
    (hslugs : store.resolveAll candidates now scan.counts.keys = (.ok slugs, after))
    (options : UsageOptions) :
    store.hashtagUsage candidates now options = (.ok (scan.report slugs options), after) := by
  simp only [hashtagUsage, hscan, hslugs]

/-! ## The report -/

/-- The rows of a complete report: one for each tag in use, with the number of the documents that
use it and the slug that the registry holds afterwards, in the order of counts and bytes. -/
structure UsageRows (store after : Store) (rows : List HashtagCount) : Prop where
  distinct : (rows.map (·.hashtag)).Nodup
  complete : ∀ tag, tag ∈ rows.map (·.hashtag) ↔ ∃ body ∈ store.projectBodies, body.Uses tag
  counted : ∀ row ∈ rows, row.count = store.uses row.hashtag
  registered : ∀ row ∈ rows,
    ∃ entry ∈ after.entries, entry.tag = row.hashtag ∧ entry.slug = row.slug
  ranked : rows.Pairwise fun row other => other.count < row.count ∨
    row.count = other.count ∧ Text.utf8 row.hashtag < Text.utf8 other.hashtag

/-- The report under options whose complete rows are these. -/
def usageReport (store : Store) (rows : List HashtagCount) (options : UsageOptions) : UsageReport :=
  { hashtags :=
      match options.limit with
      | some limit => rows.take limit
      | none => rows
    debug :=
      if options.includeDebug then
        some
          { projectsScanned := store.projectBodies.length
            projectsSkipped := store.projectBodies.countP (·.document?.isNone)
            distinctHashtags := rows.length
            totalOccurrences := (rows.map (·.count)).sum }
      else none }

theorem report_eq_usageReport {store : Store} {scan : Tag.UsageScan} {slugs : Table String}
    (hcovers : scan.Covers store.projectBodies)
    (hslugs : ∀ tag ∈ scan.counts.keys, slugs.contains tag = true)
    (options : UsageOptions) :
    scan.report slugs options = store.usageReport (scan.rows slugs) options := by
  have hrows := Tag.UsageScan.map_rows hslugs
  have hdistinct : scan.counts.size = (scan.rows slugs).length := by
    rw [← List.length_map, hrows, (Tag.UsageScan.perm_ranked scan).length_eq, Table.size]
  have htotal : scan.totalOccurrences = ((scan.rows slugs).map (·.count)).sum := by
    rw [Tag.UsageScan.totalOccurrences_eq_sum, ← hrows, List.map_map]
    rfl
  obtain ⟨includeDebug, limit⟩ := options
  cases limit <;>
    simp only [Tag.UsageScan.report, Tag.UsageScan.debugFigures, usageReport, hcovers.scanned,
      hcovers.skipped, hdistinct, htotal]

theorem usageRows_of_covers {store after : Store} {scan : Tag.UsageScan} {slugs : Table String}
    (hcovers : scan.Covers store.projectBodies) (hholds : HoldsFound slugs after)
    (hcontains : ∀ tag ∈ scan.counts.keys, slugs.contains tag = true) :
    UsageRows store after (scan.rows slugs) := by
  have hrows := Tag.UsageScan.map_rows hcontains
  have hperm := Tag.UsageScan.perm_ranked scan
  have hkeys : ((scan.rows slugs).map (·.hashtag)).Perm scan.counts.keys := by
    have htags : (scan.rows slugs).map (·.hashtag) = scan.ranked.map Prod.fst := by
      rw [← hrows, List.map_map]
      rfl
    rw [htags]
    exact hperm.map Prod.fst
  refine ⟨?_, ?_, ?_, ?_, ?_⟩
  · exact hkeys.nodup_iff.mpr scan.counts.nodup_keys
  · intro tag
    rw [hkeys.mem_iff, hcovers.mem_keys_iff]
  · intro row hrow
    have hranked : (row.hashtag, row.count) ∈ scan.ranked := hrows ▸ List.mem_map_of_mem hrow
    exact (hcovers.tallies.mem_rows_iff.mp (hperm.mem_iff.mp hranked)).1.symm
  · intro row hrow
    obtain ⟨entry, hentry, hslug⟩ := hholds _ _ (find?_of_mem_rows hrow)
    exact ⟨_, ofRow_mem_entries hentry, rfl, hslug⟩
  · have hranked := Tag.UsageScan.pairwise_ranked scan
    rw [← hrows, List.pairwise_map] at hranked
    refine hranked.imp fun houtranks => ?_
    exact houtranks.imp_right fun hequal => ⟨hequal.1, Text.utf8_lt_iff.mpr hequal.2⟩

/-- Where every tag in use is registered, the report is read off, and nothing is written. -/
theorem hashtagUsage_of_holdsFound {store later : Store} {scan : Tag.UsageScan}
    {slugs : Table String} (hscan : store.scanUsage = .ok scan)
    (hprojects : later.projects = store.projects) (hholds : HoldsFound slugs later)
    (hcontains : ∀ tag ∈ scan.counts.keys, slugs.contains tag = true)
    (candidates : Nat → String) (now : String) (options : UsageOptions) :
    later.hashtagUsage candidates now options =
      (.ok (store.usageReport (scan.rows slugs) options), later) := by
  have hcovers := covers_of_scanUsage hscan
  have hnormal := hcovers.normal_of_mem_keys
  obtain ⟨others, hothers⟩ := resolveAll_of_contains hnormal
    (fun tag htag => hholds.contains (hcontains tag htag)) candidates now
  obtain ⟨hholdsOthers, hcontainsOthers⟩ := resolves_resolveAll hnormal hothers
  have hrows : scan.rows others = scan.rows slugs :=
    Tag.UsageScan.rows_congr fun tag htag =>
      hholdsOthers.find?_eq hholds (hcontainsOthers tag htag) (hcontains tag htag)
  rw [hashtagUsage_of_resolveAll ((scanUsage_congr hprojects).trans hscan) hothers,
    report_eq_usageReport hcovers hcontainsOthers, hrows]

end Store

/-- The report is determined by the texts of the projects and the registry.  Options only cut it
short or add the figures; the call registers the tags in use that have no entry yet and changes
nothing else, and as long as the projects stay the same, whatever else is registered in between, it
gives the same report again without any change. -/
theorem hashtagUsage_exact {candidates : Nat → String} {now : String} {options : UsageOptions}
    {store after : Store} {report : UsageReport}
    (h : store.hashtagUsage candidates now options = (.ok report, after)) :
    ∃ rows, Store.UsageRows store after rows ∧
      (∀ options, store.hashtagUsage candidates now options =
        (.ok (store.usageReport rows options), after)) ∧
      (after = { store with slugs := after.slugs } ∧
        ∃ added : List SlugEntry, after.entries.Perm (store.entries ++ added) ∧
          (added.map (·.tag)).Nodup ∧ ∀ tag, tag ∈ added.map (·.tag) ↔
            (∃ body ∈ store.projectBodies, body.Uses tag) ∧ tag ∉ store.entries.map (·.tag)) ∧
      ∀ later : Store, later.projects = store.projects → after.entries ⊆ later.entries →
        ∀ candidates now options, later.hashtagUsage candidates now options =
          (.ok (store.usageReport rows options), later) := by
  obtain ⟨scan, slugs, hscan, hslugs, -⟩ := Store.hashtagUsage_cases h
  have hcovers := Store.covers_of_scanUsage hscan
  have hnormal := hcovers.normal_of_mem_keys
  obtain ⟨hholds, hcontains⟩ := Store.resolves_resolveAll hnormal hslugs
  have hadds : Store.Adds scan.counts.keys store after := by
    have hall := Store.adds_resolveAll hnormal candidates now store
    rwa [hslugs] at hall
  have hrows := Store.usageRows_of_covers hcovers hholds hcontains
  refine ⟨scan.rows slugs, hrows, fun options => ?_, ⟨hadds.frame, ?_⟩, ?_⟩
  · rw [Store.hashtagUsage_of_resolveAll hscan hslugs,
      Store.report_eq_usageReport hcovers hcontains]
  · obtain ⟨added, hperm, hnodup, hadded⟩ := hadds.exists_added fun tag htag =>
      hholds.contains (hcontains tag htag)
    exact ⟨added, hperm, hnodup, fun tag => by rw [hadded, hcovers.mem_keys_iff]⟩
  · intro later hprojects hentries
    exact Store.hashtagUsage_of_holdsFound hscan hprojects (hholds.of_entries_subset hentries)
      hcontains

/-- Two projects that use the tag under different spellings, one of them also by its category, and a
text that is not JSON. -/
def regulars : Store :=
  { Store.blank with
    projects := some (.ofList
      [("a", ⟨.text "\x7b\"hashtags\":[\"VIP\"]\x7d", "t0", "t0"⟩),
        ("b", ⟨.text "\x7b\"categorizedHashtags\":\x7b\"Tier\":[\" vip\"]\x7d\x7d", "t0", "t0"⟩),
        ("c", ⟨.text "VIP", "t0", "t0"⟩)])
    slugs := some .empty }

theorem regulars_usage_exact : ∃ report after rows,
    regulars.hashtagUsage toString "t1" ⟨true, some 1⟩ = (.ok report, after) ∧
      Store.UsageRows regulars after rows ∧
      report = regulars.usageReport rows ⟨true, some 1⟩ ∧
      (∃ row ∈ rows, row.hashtag = "vip" ∧ row.count = 2) ∧
      after.hashtagUsage toString "t2" ⟨true, some 1⟩ = (.ok report, after) := by
  obtain ⟨report, after, husage⟩ : ∃ report after,
      regulars.hashtagUsage toString "t1" ⟨true, some 1⟩ = (.ok report, after) := by
    have hok : (regulars.hashtagUsage toString "t1" ⟨true, some 1⟩).1.isOk = true := by
      decide +kernel
    generalize regulars.hashtagUsage toString "t1" ⟨true, some 1⟩ = outcome at hok
    obtain ⟨error | report, after⟩ := outcome
    · cases hok
    · exact ⟨report, after, rfl⟩
  obtain ⟨rows, hrows, hreports, ⟨hframe, -⟩, hagain⟩ := hashtagUsage_exact husage
  have hreport : report = regulars.usageReport rows ⟨true, some 1⟩ := by
    have hsame := husage.symm.trans (hreports ⟨true, some 1⟩)
    exact Except.ok.inj (Prod.mk.inj hsame).1
  have hused : regulars.uses "vip" = 2 := by decide +kernel
  have hvip : "vip" ∈ rows.map (·.hashtag) :=
    (hrows.complete "vip").mpr (Store.uses_pos_iff.mp (hused ▸ Nat.two_pos))
  obtain ⟨row, hrow, htag⟩ := List.mem_map.mp hvip
  have hcount : row.count = 2 := by
    rw [hrows.counted row hrow, htag]
    exact hused
  have hprojects : after.projects = regulars.projects := by rw [hframe]
  refine ⟨report, after, rows, husage, hrows, hreport, ⟨row, hrow, htag, hcount⟩, ?_⟩
  rw [hagain after hprojects (List.Subset.refl _), hreport]

end TagLedger
