import TagLedger.Proofs.Json.Reading
import TagLedger.Proofs.Reference.Token
import TagLedger.Reference.Definition
import Mathlib.Data.List.Nodup

/-!
# Hits in a chart definition

A definition has a hit exactly for each element that mentions the key, with the index of the element
and the name of the chart, which together are its identity.  What the definition says besides, in
numbers, does not matter.  Dropping elements that were hit before never drops the last hit, and within
one definition it drops none.
-/

namespace TagLedger.Reference

/-- An element of the definition has a formula that mentions the key. -/
def Refers (definition : Json) (key : String) : Prop :=
  ∃ elements element formula, definition.field? "elements" = some (.array elements) ∧
    element ∈ elements ∧ element.field? "formula" = some (.string formula) ∧
    Mentions formula key

/-- The element at the index has a formula that mentions the key. -/
def RefersAt (definition : Json) (key : String) (index : Nat) : Prop :=
  ∃ elements element formula, definition.field? "elements" = some (.array elements) ∧
    elements[index]? = some element ∧ element.field? "formula" = some (.string formula) ∧
    Mentions formula key

/-! ## Distinct hits -/

theorem distinctHits_eq_nil_iff {hits : List Hit} : distinctHits [] hits = [] ↔ hits = [] := by
  cases hits <;> simp [distinctHits]

theorem stringField?_eq_some_iff {name text : String} {value : Json} :
    value.stringField? name = some text ↔ value.field? name = some (.string text) := by
  simp only [Json.stringField?, Option.bind_eq_some_iff]
  constructor
  · rintro ⟨field, hfield, htext⟩
    cases field with
    | string other =>
        cases htext
        exact hfield
    | _ => cases htext
  · intro h
    exact ⟨_, h, rfl⟩

theorem hit?_eq_none_iff {chart : Chart} {key : String} {element : Json} {index : Nat} :
    chart.hit? key element index = none ↔
      ¬ ∃ formula, element.field? "formula" = some (.string formula) ∧ Mentions formula key := by
  simp only [← stringField?_eq_some_iff, ← referencesKey_eq_true_iff, Chart.hit?]
  cases element.stringField? "formula" with
  | none => simp
  | some formula => cases hkey : referencesKey formula key <;> simp [hkey]

theorem scanDefinition_ne_nil_iff {definition : Json} {storedId key : String} :
    (scanDefinition definition storedId key).getD [] ≠ [] ↔ Refers definition key := by
  unfold scanDefinition Refers
  split
  · next elements helements =>
      rw [Option.getD_some, ne_eq, distinctHits_eq_nil_iff, List.filterMap_eq_nil_iff]
      constructor
      · intro h
        push Not at h
        obtain ⟨⟨element, index⟩, hmem, hhit⟩ := h
        obtain ⟨formula, hformula, hmentions⟩ := Classical.not_not.mp (mt hit?_eq_none_iff.mpr hhit)
        exact ⟨elements, element, formula, helements, List.fst_mem_of_mem_zipIdx hmem, hformula,
          hmentions⟩
      · rintro ⟨others, element, formula, hothers, hmem, hformula, hmentions⟩ hnone
        cases helements.symm.trans hothers
        obtain ⟨index, hindex⟩ := List.mem_iff_getElem?.mp hmem
        have hmissed : (Chart.ofDefinition definition storedId).hit? key element index = none :=
          hnone (element, index) (List.mk_mem_zipIdx_iff_getElem?.mpr hindex)
        exact hit?_eq_none_iff.mp hmissed ⟨formula, hformula, hmentions⟩
  · next hnone =>
      simp only [Option.getD_none, ne_eq, not_true_eq_false, false_iff]
      rintro ⟨elements, -, -, helements, -⟩
      exact hnone elements helements

theorem distinctHits_sublist (seen : List String) (hits : List Hit) :
    (distinctHits seen hits).Sublist hits := by
  induction hits generalizing seen with
  | nil => exact .slnil
  | cons hit rest ih =>
      rw [distinctHits]
      split
      · exact (ih seen).cons hit
      · exact (ih _).cons_cons hit

theorem mem_map_distinctHits_iff {seen : List String} {hits : List Hit} {id : String} :
    id ∈ (distinctHits seen hits).map Hit.elementId ↔ id ∈ hits.map Hit.elementId ∧ id ∉ seen := by
  induction hits generalizing seen with
  | nil => simp [distinctHits]
  | cons hit rest ih =>
      rw [distinctHits]
      split
      · next hseen =>
          have hmem : hit.elementId ∈ seen := by simpa using hseen
          rw [ih, List.map_cons, List.mem_cons]
          exact ⟨fun h => ⟨Or.inr h.1, h.2⟩, fun h =>
            ⟨h.1.resolve_left fun heq => h.2 (heq ▸ hmem), h.2⟩⟩
      · next hunseen =>
          have hnew : hit.elementId ∉ seen := by simpa using hunseen
          rw [List.map_cons, List.map_cons, List.mem_cons, List.mem_cons, ih, List.mem_cons]
          by_cases heq : id = hit.elementId
          · simp [heq, hnew]
          · simp [heq]

theorem nodup_map_distinctHits (seen : List String) (hits : List Hit) :
    ((distinctHits seen hits).map Hit.elementId).Nodup := by
  induction hits generalizing seen with
  | nil => exact .nil
  | cons hit rest ih =>
      rw [distinctHits]
      split
      · exact ih seen
      · refine List.nodup_cons.mpr ⟨fun hmem => ?_, ih _⟩
        exact (mem_map_distinctHits_iff.mp hmem).2 List.mem_cons_self

/-- Of the hits on one element the first one is kept. -/
theorem distinctHits_eq_eraseDupsBy (hits : List Hit) :
    distinctHits [] hits = hits.eraseDupsBy (·.elementId == ·.elementId) := by
  have hunseen (seen : List String) : distinctHits seen hits =
      (hits.filter (!seen.contains ·.elementId)).eraseDupsBy (·.elementId == ·.elementId) := by
    induction hits generalizing seen with
    | nil => rfl
    | cons hit rest ih =>
        rw [distinctHits, List.filter_cons]
        cases hseen : seen.contains hit.elementId with
        | true => simpa using ih seen
        | false =>
            have hrest : rest.filter (!(hit.elementId :: seen).contains ·.elementId) =
                (rest.filter (!seen.contains ·.elementId)).filter
                  fun other => (other.elementId == hit.elementId) = false := by
              rw [List.filter_filter]
              refine List.filter_congr fun other _ => ?_
              by_cases hsame : other.elementId = hit.elementId <;> simp [hsame]
            simp only [Bool.not_false, Bool.false_eq_true, ↓reduceIte, List.eraseDupsBy_cons, ih,
              hrest]
  simpa using hunseen []

theorem distinctHits_of_nodup {hits : List Hit} (h : (hits.map Hit.elementId).Nodup) :
    distinctHits [] hits = hits := by
  have hkept (seen : List String) (hnew : ∀ hit ∈ hits, hit.elementId ∉ seen) :
      distinctHits seen hits = hits := by
    induction hits generalizing seen with
    | nil => rfl
    | cons hit rest ih =>
        obtain ⟨hhit, hrest⟩ := List.forall_mem_cons.mp hnew
        obtain ⟨hfresh, hnodup⟩ := List.nodup_cons.mp h
        rw [distinctHits, if_neg (by simpa using hhit), ih hnodup]
        intro other hother
        rw [List.mem_cons, not_or]
        exact ⟨fun heq => hfresh (heq ▸ List.mem_map_of_mem hother), hrest other hother⟩
  exact hkept [] fun _ _ => List.not_mem_nil

theorem length_distinctHits_eq_iff {hits : List Hit} :
    (distinctHits [] hits).length = hits.length ↔ (hits.map Hit.elementId).Nodup := by
  constructor
  · intro h
    rw [← (distinctHits_sublist [] hits).eq_of_length h]
    exact nodup_map_distinctHits [] hits
  · exact fun h => congrArg List.length (distinctHits_of_nodup h)

/-! ## Identities of elements -/

theorem toList_elementId (chartId : String) (index : Nat) :
    (elementId chartId index).toList = chartId.toList ++ '#' :: Nat.toDigits 10 index := by
  simp [elementId, Nat.toString_eq_repr]

/-- The digits behind the last number sign are the index, and what stands before it is the chart. -/
theorem elementId_inj {chartId otherId : String} {index other : Nat}
    (h : elementId chartId index = elementId otherId other) :
    chartId = otherId ∧ index = other := by
  have hdigits (index : Nat) : ∀ digit ∈ (Nat.toDigits 10 index).reverse, digit.isDigit = true :=
    fun digit hdigit => Nat.isDigit_of_mem_toDigits (by decide) (by decide)
      (List.mem_reverse.mp hdigit)
  have hreverse (chartId : String) (index : Nat) : (elementId chartId index).toList.reverse =
      (Nat.toDigits 10 index).reverse ++ '#' :: chartId.toList.reverse := by
    simp [toList_elementId]
  have hindex (chartId : String) (index : Nat) :
      (elementId chartId index).toList.reverse.takeWhile Char.isDigit =
        (Nat.toDigits 10 index).reverse := by
    rw [hreverse, List.takeWhile_append_of_pos (hdigits index)]
    simp
  have hchart (chartId : String) (index : Nat) :
      (elementId chartId index).toList.reverse.dropWhile Char.isDigit =
        '#' :: chartId.toList.reverse := by
    rw [hreverse, List.dropWhile_append_of_pos (hdigits index)]
    simp
  constructor
  · have hsame := (hchart chartId index).symm.trans (h ▸ hchart otherId other)
    exact String.toList_injective (List.reverse_injective (List.cons.inj hsame).2)
  · have hsame := (hindex chartId index).symm.trans (h ▸ hindex otherId other)
    have hvalue := congrArg (Nat.ofDigitChars 10 · 0) (List.reverse_injective hsame)
    simpa [Nat.ofDigitChars_toDigits] using hvalue

/-! ## Places -/

/-- The name of the chart and the index of the element. -/
def Hit.place (hit : Hit) : String × Nat :=
  (hit.chartId, hit.elementIndex)

/-- The identity of the element says its place. -/
def Hit.Placed (hit : Hit) : Prop :=
  hit.elementId = Reference.elementId hit.chartId hit.elementIndex

theorem nodup_map_elementId_iff {hits : List Hit} (h : ∀ hit ∈ hits, hit.Placed) :
    (hits.map Hit.elementId).Nodup ↔ (hits.map Hit.place).Nodup := by
  have hplaces : hits.map Hit.elementId =
      (hits.map Hit.place).map fun place => elementId place.1 place.2 := by
    rw [List.map_map]
    exact List.map_congr_left fun hit hmem => h hit hmem
  rw [hplaces]
  refine List.nodup_map_iff ?_
  rintro ⟨chartId, index⟩ ⟨otherId, other⟩ heq
  exact Prod.ext (elementId_inj heq).1 (elementId_inj heq).2

/-- The hits of the definition that is stored under the id. -/
def hitsOf (definition : Json) (storedId key : String) : List Hit :=
  (scanDefinition definition storedId key).getD []

def chartName (definition : Json) (storedId : String) : String :=
  (definition.stringField? "chartId").getD storedId

theorem hit?_eq_some {chart : Chart} {key : String} {element : Json} {index : Nat} {hit : Hit}
    (h : chart.hit? key element index = some hit) :
    hit.Placed ∧ hit.place = (chart.chartId, index) := by
  unfold Chart.hit? at h
  split at h
  · split at h
    · cases h
      exact ⟨rfl, rfl⟩
    · cases h
  · cases h

section Definition

variable {definition : Json} {storedId key : String}

private theorem pairwise_hits (chart : Chart) (elements : List Json) :
    (elements.zipIdx.filterMap fun (element, index) => chart.hit? key element index).Pairwise
      fun earlier later => earlier.elementIndex < later.elementIndex := by
  have hindices : elements.zipIdx.Pairwise fun earlier later => earlier.2 < later.2 := by
    refine List.pairwise_map.mp ?_
    rw [List.zipIdx_map_snd]
    exact List.pairwise_lt_range'
  refine List.pairwise_filterMap.mpr (hindices.imp ?_)
  rintro ⟨first, index⟩ ⟨second, other⟩ hlt hit hhit otherHit hotherHit
  have hindex : hit.elementIndex = index := congrArg Prod.snd (hit?_eq_some hhit).2
  have hother : otherHit.elementIndex = other := congrArg Prod.snd (hit?_eq_some hotherHit).2
  rw [hindex, hother]
  exact hlt

theorem hitsOf_eq {elements : List Json}
    (h : definition.field? "elements" = some (.array elements)) :
    hitsOf definition storedId key = elements.zipIdx.filterMap fun (element, index) =>
      (Chart.ofDefinition definition storedId).hit? key element index := by
  have hplaced : ∀ hit ∈ elements.zipIdx.filterMap fun (element, index) =>
      (Chart.ofDefinition definition storedId).hit? key element index, hit.Placed := by
    intro hit hmem
    obtain ⟨item, -, hhit⟩ := List.mem_filterMap.mp hmem
    exact (hit?_eq_some hhit).1
  rw [hitsOf, scanDefinition, h]
  refine distinctHits_of_nodup ((nodup_map_elementId_iff hplaced).mpr ?_)
  refine List.pairwise_map.mpr ((pairwise_hits _ elements).imp fun hlt heq => ?_)
  exact Nat.ne_of_lt hlt (congrArg Prod.snd heq)

theorem hitsOf_eq_nil (h : ∀ elements, definition.field? "elements" ≠ some (.array elements)) :
    hitsOf definition storedId key = [] := by
  unfold hitsOf scanDefinition
  split
  · next elements helements => exact absurd helements (h elements)
  · rfl

theorem hitsOf_cases (definition : Json) (storedId key : String) :
    (∃ elements, definition.field? "elements" = some (.array elements) ∧
      hitsOf definition storedId key = elements.zipIdx.filterMap fun (element, index) =>
        (Chart.ofDefinition definition storedId).hit? key element index) ∨
      (∀ elements, definition.field? "elements" ≠ some (.array elements)) ∧
        hitsOf definition storedId key = [] := by
  by_cases h : ∃ elements, definition.field? "elements" = some (.array elements)
  · obtain ⟨elements, helements⟩ := h
    exact Or.inl ⟨elements, helements, hitsOf_eq helements⟩
  · push Not at h
    exact Or.inr ⟨h, hitsOf_eq_nil h⟩

theorem placed_of_mem_hitsOf {hit : Hit} (h : hit ∈ hitsOf definition storedId key) :
    hit.Placed ∧ hit.chartId = chartName definition storedId := by
  rcases hitsOf_cases definition storedId key with ⟨elements, -, hhits⟩ | ⟨-, hnil⟩
  · rw [hhits] at h
    obtain ⟨item, -, hhit⟩ := List.mem_filterMap.mp h
    exact ⟨(hit?_eq_some hhit).1, congrArg Prod.fst (hit?_eq_some hhit).2⟩
  · rw [hnil] at h
    cases h

theorem pairwise_hitsOf (definition : Json) (storedId key : String) :
    (hitsOf definition storedId key).Pairwise fun earlier later =>
      earlier.elementIndex < later.elementIndex := by
  rcases hitsOf_cases definition storedId key with ⟨elements, -, hhits⟩ | ⟨-, hnil⟩
  · rw [hhits]
    exact pairwise_hits _ elements
  · rw [hnil]
    exact .nil

theorem nodup_map_elementIndex (definition : Json) (storedId key : String) :
    ((hitsOf definition storedId key).map Hit.elementIndex).Nodup :=
  List.pairwise_map.mpr ((pairwise_hitsOf definition storedId key).imp Nat.ne_of_lt)

theorem mem_map_elementIndex_iff {index : Nat} :
    index ∈ (hitsOf definition storedId key).map Hit.elementIndex ↔
      RefersAt definition key index := by
  rcases hitsOf_cases definition storedId key with ⟨elements, helements, hhits⟩ | ⟨hnone, hnil⟩
  · rw [hhits, List.mem_map]
    constructor
    · rintro ⟨hit, hmem, rfl⟩
      obtain ⟨⟨element, index⟩, hitem, hhit⟩ := List.mem_filterMap.mp hmem
      obtain ⟨formula, hformula, hmentions⟩ :=
        Classical.not_not.mp (mt hit?_eq_none_iff.mpr fun hnone => by cases hnone.symm.trans hhit)
      have hindex : hit.elementIndex = index := congrArg Prod.snd (hit?_eq_some hhit).2
      rw [hindex]
      exact ⟨elements, element, formula, helements, List.mem_zipIdx_iff_getElem?.mp hitem, hformula,
        hmentions⟩
    · rintro ⟨others, element, formula, hothers, helement, hformula, hmentions⟩
      cases helements.symm.trans hothers
      have hfound : (Chart.ofDefinition definition storedId).hit? key element index ≠ none :=
        fun hnone => hit?_eq_none_iff.mp hnone ⟨formula, hformula, hmentions⟩
      obtain ⟨hit, hhit⟩ := Option.ne_none_iff_exists'.mp hfound
      exact ⟨hit, List.mem_filterMap.mpr ⟨(element, index),
        List.mk_mem_zipIdx_iff_getElem?.mpr helement, hhit⟩, congrArg Prod.snd (hit?_eq_some hhit).2⟩
  · rw [hnil]
    constructor
    · intro h
      cases h
    · rintro ⟨elements, -, -, helements, -⟩
      exact absurd helements (hnone elements)

theorem exists_mem_hitsOf (storedId : String) {index : Nat} (h : RefersAt definition key index) :
    ∃ hit ∈ hitsOf definition storedId key, hit.elementIndex = index :=
  List.mem_map.mp (mem_map_elementIndex_iff.mpr h)

end Definition

/-! ## Numbers do not matter -/

theorem hit?_shape (chart : Chart) (key : String) (element : Json) (index : Nat) :
    chart.hit? key element.shape index = chart.hit? key element index := by
  simp only [Chart.hit?, Json.stringField?_shape]

theorem scanDefinition_shape (definition : Json) (storedId key : String) :
    scanDefinition definition.shape storedId key = scanDefinition definition storedId key := by
  have hchart : Chart.ofDefinition definition.shape storedId =
      Chart.ofDefinition definition storedId := by
    simp only [Chart.ofDefinition, Json.stringField?_shape]
  unfold scanDefinition
  rw [Json.field?_shape, hchart]
  cases definition.field? "elements" with
  | none => rfl
  | some elements =>
      cases elements with
      | array elements =>
          have hhits : (Json.shapes elements).zipIdx.filterMap (fun (element, index) =>
                (Chart.ofDefinition definition storedId).hit? key element index) =
              elements.zipIdx.filterMap fun (element, index) =>
                (Chart.ofDefinition definition storedId).hit? key element index := by
            rw [Json.shapes_eq_map, List.zipIdx_map, List.filterMap_map]
            exact congrFun (congrArg List.filterMap (funext fun item => hit?_shape ..)) _
          exact congrArg some (congrArg (distinctHits []) hhits)
      | _ => rfl

end TagLedger.Reference
