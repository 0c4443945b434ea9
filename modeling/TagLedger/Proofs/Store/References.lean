import TagLedger.Proofs.Reference.Definition
import TagLedger.Proofs.Store.Contents
import TagLedger.Store.References
import Mathlib.Data.List.Flatten

/-!
# Uses and hits

A use of a key is an element of a stored chart that mentions it.  The scan sees the uses in the charts
that can be read, and counts a use once for the name of its chart and its index.  A chart's name is
what its definition calls it, and that is not always the id under which it is stored; but two stored
charts have one name only if they are both called by the same blank text.
-/

namespace TagLedger

open Reference

/-- Both definitions name themselves by the same blank text. -/
def SharesBlankName (definition other : Json) : Prop :=
  ∃ blank, Text.trim blank = "" ∧ definition.stringField? "chartId" = some blank ∧
    other.stringField? "chartId" = some blank

/-! ## Names of charts -/

theorem id_eq_of_stringField? {id text : String} {definition : Json}
    (h : Names .charts id definition) (htext : definition.stringField? "chartId" = some text)
    (hblank : Text.trim text ≠ "") : id = Text.trim text := by
  obtain ⟨fields, rfl, hid⟩ := h.named
  have hlookup : fields.lookup "chartId" = some (.string text) :=
    stringField?_eq_some_iff.mp htext
  have husable : usableId (.string text) = some (Text.trim text) := by
    simp [usableId, hblank]
  rw [documentId, Collection.idFields, List.findSome?_cons, hlookup, Option.bind_some,
    husable] at hid
  exact (Option.some.inj hid).symm

theorem trim_id_of_names {collection : Collection} {id : String} {document : Json}
    (h : Names collection id document) : id ≠ "" ∧ Text.trim id = id := by
  obtain ⟨fields, -, hid⟩ := h.named
  obtain ⟨hempty, htrimmed⟩ := trimmed_of_documentId hid
  exact ⟨hempty, Text.trim_eq_self htrimmed⟩

/-- Charts with different ids have different names, unless these are the same blank text. -/
theorem chartName_eq_iff {id otherId : String} {definition other : Json}
    (h : Names .charts id definition) (hother : Names .charts otherId other)
    (hsame : id = otherId → definition = other) :
    chartName definition id = chartName other otherId ↔
      id = otherId ∨ SharesBlankName definition other := by
  have hmixed {id otherId text : String} {definition other : Json}
      (h : Names .charts id definition) (hother : Names .charts otherId other)
      (htext : definition.stringField? "chartId" = some text) (heq : text = otherId) :
      id = otherId := by
    obtain ⟨hempty, htrim⟩ := trim_id_of_names hother
    subst heq
    have hblank : Text.trim text ≠ "" := by rwa [htrim]
    exact (id_eq_of_stringField? h htext hblank).trans htrim
  unfold chartName
  constructor
  · intro hname
    cases htext : definition.stringField? "chartId" with
    | none =>
        cases hotherText : other.stringField? "chartId" with
        | none =>
            rw [htext, hotherText] at hname
            exact Or.inl hname
        | some text =>
            rw [htext, hotherText] at hname
            exact Or.inl (hmixed hother h hotherText hname.symm).symm
    | some text =>
        cases hotherText : other.stringField? "chartId" with
        | none =>
            rw [htext, hotherText] at hname
            exact Or.inl (hmixed h hother htext hname)
        | some otherText =>
            rw [htext, hotherText] at hname
            obtain rfl : text = otherText := hname
            by_cases hblank : Text.trim text = ""
            · exact Or.inr ⟨text, hblank, htext, hotherText⟩
            · left
              rw [id_eq_of_stringField? h htext hblank,
                id_eq_of_stringField? hother hotherText hblank]
  · rintro (heq | ⟨blank, -, htext, hotherText⟩)
    · rw [hsame heq, heq]
    · rw [htext, hotherText]
      rfl

/-! ## Uses -/

/-- The hits in the charts, each with the id of its chart. -/
def usesIn (key : String) (charts : List (String × Json)) : List (String × Hit) :=
  charts.flatMap fun chart => (hitsOf chart.2 chart.1 key).map (chart.1, ·)

variable {key : String} {charts : List (String × Json)}

theorem mem_usesIn_iff {use : String × Hit} : use ∈ usesIn key charts ↔
    ∃ definition, (use.1, definition) ∈ charts ∧ use.2 ∈ hitsOf definition use.1 key := by
  obtain ⟨id, hit⟩ := use
  simp only [usesIn, List.mem_flatMap, List.mem_map, Prod.exists, Prod.mk.injEq]
  constructor
  · rintro ⟨_, definition, hchart, hit, hhit, rfl, rfl⟩
    exact ⟨definition, hchart, hhit⟩
  · rintro ⟨definition, hchart, hhit⟩
    exact ⟨id, definition, hchart, hit, hhit, rfl, rfl⟩

theorem mem_map_usesIn_iff {id : String} {index : Nat} :
    (id, index) ∈ (usesIn key charts).map (fun use => (use.1, use.2.elementIndex)) ↔
      ∃ definition, (id, definition) ∈ charts ∧ RefersAt definition key index := by
  simp only [List.mem_map, mem_usesIn_iff, Prod.exists, Prod.mk.injEq]
  constructor
  · rintro ⟨_, hit, ⟨definition, hchart, hhit⟩, rfl, rfl⟩
    exact ⟨definition, hchart, mem_map_elementIndex_iff.mp (List.mem_map_of_mem hhit)⟩
  · rintro ⟨definition, hchart, hrefers⟩
    obtain ⟨hit, hhit, hindex⟩ := exists_mem_hitsOf id hrefers
    exact ⟨id, hit, ⟨definition, hchart, hhit⟩, rfl, hindex⟩

/-- With distinct ids, a use is known by the id of its chart and its index. -/
theorem nodup_map_usesIn (key : String) (hids : (charts.map Prod.fst).Nodup) :
    ((usesIn key charts).map fun use => (use.1, use.2.elementIndex)).Nodup := by
  have hmap : (usesIn key charts).map (fun use => (use.1, use.2.elementIndex)) =
      charts.flatMap fun chart =>
        ((hitsOf chart.2 chart.1 key).map Hit.elementIndex).map (chart.1, ·) := by
    simp only [usesIn, List.map_flatMap, List.map_map, Function.comp_def]
  rw [hmap, List.nodup_flatMap]
  refine ⟨fun chart _ => ?_, ?_⟩
  · exact (nodup_map_elementIndex chart.2 chart.1 key).map (Prod.mk_right_injective chart.1)
  · refine (List.pairwise_map.mp hids).imp fun hne => ?_
    rintro ⟨id, index⟩ hleft hright
    obtain ⟨_, -, hleft⟩ := List.mem_map.mp hleft
    obtain ⟨_, -, hright⟩ := List.mem_map.mp hright
    exact hne ((congrArg Prod.fst hleft).trans (congrArg Prod.fst hright).symm)

theorem length_usesIn_filter (key : String) (charts : List (String × Json))
    (legible : Json → Bool) :
    (usesIn key (charts.filter fun chart => legible chart.2)).length ≤
        (usesIn key charts).length ∧
      ((usesIn key (charts.filter fun chart => legible chart.2)).length =
          (usesIn key charts).length ↔
        ∀ chart ∈ charts, hitsOf chart.2 chart.1 key ≠ [] → legible chart.2 = true) := by
  induction charts with
  | nil => simp [usesIn]
  | cons chart charts ih =>
      obtain ⟨hle, hiff⟩ := ih
      rw [List.forall_mem_cons, ← hiff]
      have hcons (charts : List (String × Json)) : (usesIn key (chart :: charts)).length =
          (hitsOf chart.2 chart.1 key).length + (usesIn key charts).length := by
        simp [usesIn]
      rw [List.filter_cons]
      cases hlegible : legible chart.2 with
      | true =>
          rw [if_pos rfl, hcons, hcons]
          exact ⟨by omega, by simp⟩
      | false =>
          have hnone : hitsOf chart.2 chart.1 key ≠ [] ↔
              (hitsOf chart.2 chart.1 key).length ≠ 0 := List.length_eq_zero_iff.symm.not
          rw [if_neg Bool.false_ne_true, hcons, hnone]
          simp only [Bool.false_eq_true, imp_false, not_not]
          omega

/-! ## The scan -/

/-- Of a chart that can be read, the scan finds the hits in the chart as it was written. -/
theorem storedHits_getD {id : String} {definition : Json} (hordered : definition.Ordered) :
    (ReferenceScan.storedHits key (.ofIdentified (id, definition))).getD [] =
      if definition.Legible then hitsOf definition id key else [] := by
  rw [ReferenceScan.storedHits, StoredDocument.ofIdentified, Json.read_compact hordered]
  by_cases hdepth : definition.depth ≤ Json.deepest
  · rw [if_pos hdepth]
    cases hreread : definition.reread with
    | none => simp [Json.Legible, hreread]
    | some read =>
        have hshape : scanDefinition read id key = scanDefinition definition id key := by
          rw [← scanDefinition_shape read, Json.shape_of_reread hreread, scanDefinition_shape]
        simp [Json.Legible, hreread, hdepth, hitsOf, hshape]
  · simp [Json.Legible, hdepth]

/-- The charts that the scan can read. -/
def legibleIn (charts : List (String × Json)) : List (String × Json) :=
  charts.filter fun chart => chart.2.Legible

theorem hits_ofDocuments (hordered : ∀ chart ∈ charts, chart.2.Ordered) :
    (ReferenceScan.ofDocuments key (charts.map .ofIdentified)).hits =
      distinctHits [] ((usesIn key (legibleIn charts)).map Prod.snd) := by
  have hfound : ((charts.map StoredDocument.ofIdentified).map
        (ReferenceScan.storedHits key)).flatMap (·.getD []) =
      (usesIn key (legibleIn charts)).map Prod.snd := by
    induction charts with
    | nil => rfl
    | cons chart charts ih =>
        obtain ⟨hchart, hcharts⟩ := List.forall_mem_cons.mp hordered
        rw [List.map_cons, List.map_cons, List.flatMap_cons, ih hcharts, storedHits_getD hchart]
        by_cases hlegible : chart.2.Legible
        · simp [usesIn, legibleIn, hlegible, Function.comp_def]
        · simp [legibleIn, hlegible]
  exact congrArg (distinctHits []) hfound

theorem placed_of_mem_usesIn {hit : Hit} (h : hit ∈ (usesIn key charts).map Prod.snd) :
    hit.Placed := by
  obtain ⟨use, huse, rfl⟩ := List.mem_map.mp h
  obtain ⟨definition, -, hhit⟩ := mem_usesIn_iff.mp huse
  exact (placed_of_mem_hitsOf hhit).1

/-- What is known of charts that are stored: each names its id, and no two have one id. -/
structure Stored (charts : List (String × Json)) : Prop where
  ids : (charts.map Prod.fst).Nodup
  names : ∀ id definition, (id, definition) ∈ charts → Names .charts id definition

theorem Stored.chartName_eq_iff (h : Stored charts) {id other : String}
    {definition otherDefinition : Json} (hchart : (id, definition) ∈ charts)
    (hother : (other, otherDefinition) ∈ charts) :
    chartName definition id = chartName otherDefinition other ↔
      id = other ∨ SharesBlankName definition otherDefinition := by
  refine TagLedger.chartName_eq_iff (h.names _ _ hchart) (h.names _ _ hother) fun heq => ?_
  exact congrArg Prod.snd (List.inj_on_of_nodup_map h.ids hchart hother heq)

/-- All uses have identities of their own exactly if no two of them are at one index of charts that
are called by the same blank text. -/
theorem Stored.nodup_place_iff (h : Stored charts) :
    (((usesIn key charts).map Prod.snd).map Hit.place).Nodup ↔
      ∀ id other definition otherDefinition index, (id, definition) ∈ charts →
        (other, otherDefinition) ∈ charts → RefersAt definition key index →
        RefersAt otherDefinition key index → SharesBlankName definition otherDefinition →
        id = other := by
  have huses := nodup_map_usesIn key h.ids
  rw [List.map_map, List.nodup_map_iff_inj_on (List.Nodup.of_map _ huses)]
  constructor
  · intro hinj id other definition otherDefinition index hchart hother hrefers hotherRefers hshares
    obtain ⟨hit, hhit, rfl⟩ := exists_mem_hitsOf id hrefers
    obtain ⟨otherHit, hotherHit, hindex⟩ := exists_mem_hitsOf other hotherRefers
    have hplace : hit.place = otherHit.place := by
      refine Prod.ext ?_ hindex.symm
      have hname := (placed_of_mem_hitsOf hhit).2
      have hotherName := (placed_of_mem_hitsOf hotherHit).2
      exact (hname.trans ((h.chartName_eq_iff hchart hother).mpr (Or.inr hshares))).trans
        hotherName.symm
    exact congrArg Prod.fst (hinj (id, hit) (mem_usesIn_iff.mpr ⟨definition, hchart, hhit⟩)
      (other, otherHit) (mem_usesIn_iff.mpr ⟨otherDefinition, hother, hotherHit⟩) hplace)
  · rintro hshared ⟨id, hit⟩ huse ⟨other, otherHit⟩ hotherUse hplace
    obtain ⟨definition, hchart, hhit⟩ := mem_usesIn_iff.mp huse
    obtain ⟨otherDefinition, hother, hotherHit⟩ := mem_usesIn_iff.mp hotherUse
    have hindex : hit.elementIndex = otherHit.elementIndex := congrArg Prod.snd hplace
    have hname : chartName definition id = chartName otherDefinition other := by
      rw [← (placed_of_mem_hitsOf hhit).2, ← (placed_of_mem_hitsOf hotherHit).2]
      exact congrArg Prod.fst hplace
    have hid : id = other := by
      rcases (h.chartName_eq_iff hchart hother).mp hname with hsame | hshares
      · exact hsame
      · have hrefers := mem_map_elementIndex_iff.mp (List.mem_map_of_mem hhit)
        have hotherRefers := mem_map_elementIndex_iff.mp (List.mem_map_of_mem hotherHit)
        exact hshared id other definition otherDefinition _ hchart hother hrefers
          (hindex ▸ hotherRefers) hshares
    exact List.inj_on_of_nodup_map huses huse hotherUse (Prod.ext hid hindex)

theorem usesIn_legibleIn_of_length
    (h : (usesIn key (legibleIn charts)).length = (usesIn key charts).length) :
    usesIn key (legibleIn charts) = usesIn key charts :=
  (List.filter_sublist.flatMap _).eq_of_length h

theorem length_distinctHits_le (key : String) (charts : List (String × Json)) :
    (distinctHits [] ((usesIn key (legibleIn charts)).map Prod.snd)).length ≤
      (usesIn key (legibleIn charts)).length := by
  have hle := (distinctHits_sublist [] ((usesIn key (legibleIn charts)).map Prod.snd)).length_le
  rwa [List.length_map] at hle

theorem hitsOf_ne_nil_iff {definition : Json} {storedId : String} :
    hitsOf definition storedId key ≠ [] ↔ Refers definition key :=
  scanDefinition_ne_nil_iff

/-- Every use is counted exactly if all charts with uses can be read and no two of them have one
identity. -/
theorem Stored.length_distinctHits_iff (h : Stored charts) :
    (distinctHits [] ((usesIn key (legibleIn charts)).map Prod.snd)).length =
        (usesIn key charts).length ↔
      (∀ id definition, (id, definition) ∈ charts → Refers definition key → definition.Legible) ∧
      ∀ id other definition otherDefinition index, (id, definition) ∈ charts →
        (other, otherDefinition) ∈ charts → RefersAt definition key index →
        RefersAt otherDefinition key index → SharesBlankName definition otherDefinition →
        id = other := by
  have hdistinct := length_distinctHits_le key charts
  obtain ⟨hle, hlength⟩ := length_usesIn_filter key charts fun definition => definition.Legible
  have hlegible : (usesIn key (legibleIn charts)).length = (usesIn key charts).length ↔
      ∀ id definition, (id, definition) ∈ charts → Refers definition key →
        definition.Legible := by
    refine hlength.trans ?_
    simp only [hitsOf_ne_nil_iff, decide_eq_true_eq, Prod.forall]
  have hidentities : ((usesIn key charts).map Prod.snd).length = (usesIn key charts).length ∧
      ((distinctHits [] ((usesIn key charts).map Prod.snd)).length =
          ((usesIn key charts).map Prod.snd).length ↔
        (((usesIn key charts).map Prod.snd).map Hit.place).Nodup) :=
    ⟨List.length_map _, length_distinctHits_eq_iff.trans
      (nodup_map_elementId_iff fun _ hhit => placed_of_mem_usesIn hhit)⟩
  rw [← h.nodup_place_iff, ← hidentities.2, hidentities.1, ← hlegible]
  constructor
  · intro hcounted
    have hseen : (usesIn key (legibleIn charts)).length = (usesIn key charts).length :=
      Nat.le_antisymm hle (hcounted ▸ hdistinct)
    exact ⟨hseen, usesIn_legibleIn_of_length hseen ▸ hcounted⟩
  · rintro ⟨hseen, hcounted⟩
    rwa [usesIn_legibleIn_of_length hseen]

/-- The places of distinct hits are those of all hits. -/
theorem mem_map_place_distinctHits_iff {hits : List Hit} (hplaced : ∀ hit ∈ hits, hit.Placed)
    {place : String × Nat} :
    place ∈ (distinctHits [] hits).map Hit.place ↔ place ∈ hits.map Hit.place := by
  have hsublist := distinctHits_sublist [] hits
  refine ⟨fun hmem => (hsublist.map _).subset hmem, fun hmem => ?_⟩
  obtain ⟨hit, hhit, rfl⟩ := List.mem_map.mp hmem
  obtain ⟨kept, hkept, hsame⟩ := List.mem_map.mp
    (mem_map_distinctHits_iff.mpr ⟨List.mem_map_of_mem hhit, List.not_mem_nil⟩)
  rw [hplaced hit hhit, hplaced kept (hsublist.subset hkept)] at hsame
  obtain ⟨hchart, hindex⟩ := elementId_inj hsame
  exact List.mem_map.mpr ⟨kept, hkept, Prod.ext hchart hindex⟩

theorem mem_map_place_usesIn_iff {name : String} {index : Nat} :
    (name, index) ∈ ((usesIn key charts).map Prod.snd).map Hit.place ↔
      ∃ id definition, (id, definition) ∈ charts ∧ RefersAt definition key index ∧
        chartName definition id = name := by
  simp only [List.map_map, List.mem_map, mem_usesIn_iff, Prod.exists, Function.comp_apply]
  constructor
  · rintro ⟨id, hit, ⟨definition, hchart, hhit⟩, hplace⟩
    have hindex : hit.elementIndex = index := congrArg Prod.snd hplace
    subst hindex
    refine ⟨id, definition, hchart, mem_map_elementIndex_iff.mp (List.mem_map_of_mem hhit), ?_⟩
    rw [← (placed_of_mem_hitsOf hhit).2]
    exact congrArg Prod.fst hplace
  · rintro ⟨id, definition, hchart, hrefers, rfl⟩
    obtain ⟨hit, hhit, hindex⟩ := exists_mem_hitsOf id hrefers
    exact ⟨id, hit, ⟨definition, hchart, hhit⟩,
      Prod.ext (placed_of_mem_hitsOf hhit).2 hindex⟩

theorem mem_legibleIn_iff {chart : String × Json} :
    chart ∈ legibleIn charts ↔ chart ∈ charts ∧ chart.2.Legible := by
  simp [legibleIn]

theorem Written.stored {held : Option (Table DocumentRow)} {contents : Table Json}
    (h : Written .charts held contents) : Stored contents.rows where
  ids := contents.nodup_keys
  names id definition hchart := by
    obtain ⟨_, -, hrecorded⟩ := h.exists_recorded
    exact hrecorded.names id definition (Table.mem_rows_iff.mp hchart)

theorem Written.exists_scanReferences {store : Store} {contents : Table Json}
    (h : Written .charts (store.documents .charts) contents) (key : String) :
    ∃ scan, store.scanReferences key = .ok scan ∧
      scan.hits = distinctHits [] ((usesIn key (legibleIn contents.rows)).map Prod.snd) := by
  have hordered : ∀ chart ∈ contents.rows, chart.2.Ordered :=
    fun chart hchart => (h.stored.names chart.1 chart.2 hchart).ordered
  refine ⟨_, ?_, hits_ofDocuments hordered⟩
  rw [Store.scanReferences, h.scanDocuments]

/-- How often a key is used, over charts that were written by any batches.  The scan counts the
elements that mention the key, except that those in charts which cannot be read are not seen, and that
elements at one index of different charts are counted once if these charts are called by the same blank
text; in no other case do two charts go by one name. -/
theorem referenceScan_counts {store : Store} {contents : Table Json}
    (h : Written .charts (store.documents .charts) contents) (key : String) :
    ∃ (scan : ReferenceScan) (uses : List (String × Nat)),
      store.scanReferences key = .ok scan ∧ uses.Nodup ∧
      (∀ id index, (id, index) ∈ uses ↔
        ∃ definition, contents.find? id = some definition ∧ RefersAt definition key index) ∧
      scan.usageCount ≤ uses.length ∧
      (scan.usageCount = uses.length ↔
        (∀ id definition, contents.find? id = some definition → Refers definition key →
          definition.Legible) ∧
        ∀ id other definition otherDefinition index, contents.find? id = some definition →
          contents.find? other = some otherDefinition → RefersAt definition key index →
          RefersAt otherDefinition key index → SharesBlankName definition otherDefinition →
          id = other) ∧
      (scan.hits.map Hit.place).Nodup ∧
      (∀ name index, (name, index) ∈ scan.hits.map Hit.place ↔
        ∃ id definition, contents.find? id = some definition ∧ definition.Legible ∧
          RefersAt definition key index ∧ chartName definition id = name) ∧
      ∀ id other definition otherDefinition, contents.find? id = some definition →
        contents.find? other = some otherDefinition →
        (chartName definition id = chartName otherDefinition other ↔
          id = other ∨ SharesBlankName definition otherDefinition) := by
  obtain ⟨scan, hscan, hhits⟩ := h.exists_scanReferences key
  have hstored := h.stored
  have hplaced : ∀ hit ∈ (usesIn key (legibleIn contents.rows)).map Prod.snd, hit.Placed :=
    fun _ hhit => placed_of_mem_usesIn hhit
  have hkept : ∀ hit ∈ scan.hits, hit.Placed := by
    rw [hhits]
    exact fun hit hhit => hplaced hit ((distinctHits_sublist [] _).subset hhit)
  simp only [← Table.mem_rows_iff]
  refine ⟨scan, (usesIn key contents.rows).map fun use => (use.1, use.2.elementIndex), hscan,
    nodup_map_usesIn key hstored.ids, fun _ _ => mem_map_usesIn_iff, ?_, ?_, ?_, ?_, ?_⟩
  · rw [ReferenceScan.usageCount, hhits, List.length_map]
    exact Nat.le_trans (length_distinctHits_le key contents.rows)
      (length_usesIn_filter key contents.rows fun definition => definition.Legible).1
  · rw [ReferenceScan.usageCount, hhits, List.length_map]
    exact hstored.length_distinctHits_iff
  · rw [← nodup_map_elementId_iff hkept, hhits]
    exact nodup_map_distinctHits [] _
  · intro name index
    rw [hhits, mem_map_place_distinctHits_iff hplaced, mem_map_place_usesIn_iff]
    simp only [mem_legibleIn_iff, and_assoc]
  · exact fun id other definition otherDefinition hchart hother =>
      hstored.chartName_eq_iff hchart hother

/-- A chart with two fields that may name it, and with one element for each formula. -/
def sampleChart (id chartId : String) (formulas : List String) : Json :=
  .object [("_id", .string id), ("chartId", .string chartId),
    ("elements", .array (formulas.map fun formula => .object [("formula", .string formula)]))]

theorem ordered_sampleChart (id chartId : String) (formulas : List String) :
    (sampleChart id chartId formulas).Ordered := by
  have hnames : ["_id", "chartId", "elements"].Pairwise (· < ·) := by decide
  refine ⟨hnames, trivial, trivial, ?_, trivial⟩
  induction formulas with
  | nil => trivial
  | cons formula formulas ih => exact ⟨⟨List.pairwise_singleton _ _, trivial, trivial⟩, ih⟩

theorem refersAt_sampleChart {id chartId formula key : String} {formulas : List String}
    {index : Nat} (hformula : formulas[index]? = some formula) (hkey : referencesKey formula key = true) :
    RefersAt (sampleChart id chartId formulas) key index := by
  refine ⟨_, .object [("formula", .string formula)], formula, rfl, ?_, rfl,
    referencesKey_eq_true_iff.mp hkey⟩
  rw [List.getElem?_map, hformula]
  rfl

/-- Two uses in a chart with blanks around its name, and one in a chart whose name is blank. -/
theorem padded_and_blank_names_counted :
    let documents := [sampleChart "a" " kpi " ["[MEDIA:logo]", "[TEXT:a]", "[MEDIA:logo]"],
      sampleChart "b" "" ["[MEDIA:logo]"]]
    let batch := (Store.blank.migrate "t0").2.upsertDocuments (Identifier.sequence 1 1) "t1" .charts
      documents
    ∃ (scan : ReferenceScan) (uses : List (String × Nat)),
      batch.2.scanReferences "logo" = .ok scan ∧ uses.Nodup ∧
      ("kpi", 0) ∈ uses ∧ ("kpi", 2) ∈ uses ∧ ("b", 0) ∈ uses ∧ scan.usageCount = uses.length ∧
      (" kpi ", 2) ∈ scan.hits.map Hit.place := by
  intro documents batch
  have hwritten : Written .charts (batch.2.documents .charts)
      (contentsAfter .charts (Identifier.sequence 1 1) documents .empty batch.1) :=
    .batch "t1" .created (by simp [documents, ordered_sampleChart]) fun index => ⟨_, rfl⟩
  obtain ⟨scan, uses, hscan, hnodup, huses, -, hcount, -, hplaces, -⟩ :=
    referenceScan_counts hwritten "logo"
  have hcontents {id : String} {definition : Json} (h : (contentsAfter .charts
      (Identifier.sequence 1 1) documents .empty batch.1).find? id = some definition) :
      definition = sampleChart "a" " kpi " ["[MEDIA:logo]", "[TEXT:a]", "[MEDIA:logo]"] ∧ id = "kpi" ∨
        definition = sampleChart "b" "" ["[MEDIA:logo]"] ∧ id = "b" := by
    have hrow : (id, definition) ∈ [("b", sampleChart "b" "" ["[MEDIA:logo]"]),
        ("kpi", sampleChart "a" " kpi " ["[MEDIA:logo]", "[TEXT:a]", "[MEDIA:logo]"])] :=
      Table.mem_rows_iff.mpr h
    simpa [and_comm, or_comm] using hrow
  refine ⟨scan, uses, hscan, hnodup, ?_, ?_, ?_, ?_, ?_⟩
  · exact (huses _ _).mpr ⟨_, rfl, refersAt_sampleChart rfl (by decide +kernel)⟩
  · exact (huses _ _).mpr ⟨_, rfl, refersAt_sampleChart rfl (by decide +kernel)⟩
  · exact (huses _ _).mpr ⟨_, rfl, refersAt_sampleChart rfl (by decide +kernel)⟩
  · refine hcount.mpr ⟨?_, ?_⟩
    · intro id definition hchart _
      rcases hcontents hchart with ⟨rfl, -⟩ | ⟨rfl, -⟩ <;> decide +kernel
    · rintro id other definition otherDefinition index hchart hother - - ⟨blank, -, hname, hotherName⟩
      rcases hcontents hchart with ⟨rfl, rfl⟩ | ⟨rfl, rfl⟩ <;>
        rcases hcontents hother with ⟨rfl, rfl⟩ | ⟨rfl, rfl⟩
      · rfl
      · exact absurd (hname.trans hotherName.symm) (by decide)
      · exact absurd (hname.trans hotherName.symm) (by decide)
      · rfl
  · refine (hplaces _ _).mpr ⟨"kpi", _, rfl, by decide +kernel, ?_, rfl⟩
    exact refersAt_sampleChart rfl (by decide +kernel)

/-- Two charts that are called by the same blank text are stored under two ids, and one of their uses
is not counted. -/
theorem blank_names_merged : ¬ ∀ (store : Store) (contents : Table Json) (key : String),
    Written .charts (store.documents .charts) contents →
    ∃ (scan : ReferenceScan) (uses : List (String × Nat)),
      store.scanReferences key = .ok scan ∧ uses.Nodup ∧
      (∀ id index, (id, index) ∈ uses ↔
        ∃ definition, contents.find? id = some definition ∧ RefersAt definition key index) ∧
      scan.usageCount = uses.length := by
  intro h
  let documents := [sampleChart "a" "" ["[MEDIA:logo]"], sampleChart "b" "" ["[MEDIA:logo]"]]
  let batch := (Store.blank.migrate "t0").2.upsertDocuments (Identifier.sequence 1 1) "t1" .charts
    documents
  have hwritten : Written .charts (batch.2.documents .charts)
      (contentsAfter .charts (Identifier.sequence 1 1) documents .empty batch.1) :=
    .batch "t1" .created (by simp [documents, ordered_sampleChart]) fun index => ⟨_, rfl⟩
  obtain ⟨scan, uses, hscan, -, huses, hcount⟩ := h _ _ "logo" hwritten
  have hone : scan.usageCount = 1 := by
    have hvalue : (batch.2.scanReferences "logo").map ReferenceScan.usageCount = .ok 1 := by
      decide +kernel
    rw [hscan] at hvalue
    exact Except.ok.inj hvalue
  have hrefers (id : String) : RefersAt (sampleChart id "" ["[MEDIA:logo]"]) "logo" 0 :=
    refersAt_sampleChart rfl (by decide +kernel)
  have hfirst : ("a", 0) ∈ uses := (huses _ _).mpr ⟨_, rfl, hrefers "a"⟩
  have hsecond : ("b", 0) ∈ uses := (huses _ _).mpr ⟨_, rfl, hrefers "b"⟩
  obtain ⟨use, rfl⟩ := List.length_eq_one_iff.mp (hcount.symm.trans hone)
  have hsame := (List.mem_singleton.mp hfirst).trans (List.mem_singleton.mp hsecond).symm
  exact absurd hsame (by decide)

end TagLedger
