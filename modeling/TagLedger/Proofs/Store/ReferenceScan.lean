import TagLedger.Proofs.Store.Ingestion
import TagLedger.Proofs.Store.Loading
import TagLedger.Proofs.Store.Usage

/-!
# The scan over any stored rows

Whatever texts stand in the rows of the charts, the scan reports every element with a formula that
mentions the key, in the order of the rows and of the elements, and of those with one identity the
first.  The identity is a text of the chart's name and the element's index, and says both.
-/

namespace TagLedger

open Reference

/-! ## Reported elements -/

namespace Reference

/-- What is reported of an element of the definition that is stored under the id. -/
def reportedHit (definition : Json) (storedId key : String) (element : Json) (index : Nat) :
    Hit where
  referencedKey := key
  elementId := elementId (chartName definition storedId) index
  chartId := chartName definition storedId
  title := (definition.stringField? "title").getD ""
  kind := (definition.stringField? "type").getD "unknown"
  elementIndex := index
  locationHint := locationHint index (element.stringField? "label")

variable {definition element : Json} {storedId key : String} {index : Nat} {hit : Hit}

theorem hit?_eq_some_iff :
    (Chart.ofDefinition definition storedId).hit? key element index = some hit ↔
    ∃ formula, element.field? "formula" = some (.string formula) ∧ Mentions formula key ∧
      hit = reportedHit definition storedId key element index := by
  simp only [← stringField?_eq_some_iff, ← referencesKey_eq_true_iff, Chart.hit?]
  cases element.stringField? "formula" with
  | none => simp
  | some formula =>
      cases hkey : referencesKey formula key with
      | false => simp [hkey]
      | true =>
          simp only [hkey, ↓reduceIte, Option.some.injEq, exists_eq_left', true_and]
          exact eq_comm

theorem mem_hitsOf_iff : hit ∈ hitsOf definition storedId key ↔
    ∃ elements element formula, definition.field? "elements" = some (.array elements) ∧
      elements[hit.elementIndex]? = some element ∧
      element.field? "formula" = some (.string formula) ∧ Mentions formula key ∧
      hit = reportedHit definition storedId key element hit.elementIndex := by
  rcases hitsOf_cases definition storedId key with ⟨elements, helements, hhits⟩ | ⟨hnone, hnil⟩
  · rw [hhits, List.mem_filterMap]
    constructor
    · rintro ⟨⟨element, index⟩, hitem, hhit⟩
      obtain ⟨formula, hformula, hmentions, rfl⟩ := hit?_eq_some_iff.mp hhit
      exact ⟨elements, element, formula, helements, List.mem_zipIdx_iff_getElem?.mp hitem, hformula,
        hmentions, rfl⟩
    · rintro ⟨others, element, formula, hothers, helement, hformula, hmentions, hhit⟩
      cases helements.symm.trans hothers
      exact ⟨(element, hit.elementIndex), List.mk_mem_zipIdx_iff_getElem?.mpr helement,
        hit?_eq_some_iff.mpr ⟨formula, hformula, hmentions, hhit⟩⟩
  · rw [hnil]
    constructor
    · intro h
      cases h
    · rintro ⟨elements, -, -, helements, -⟩
      exact absurd helements (hnone elements)

/-- Within one definition no element is dropped. -/
theorem scanDefinition_eq (definition : Json) (storedId key : String) :
    scanDefinition definition storedId key = (elements? definition).map fun elements =>
      elements.zipIdx.filterMap fun (element, index) =>
        (Chart.ofDefinition definition storedId).hit? key element index := by
  cases hscan : scanDefinition definition storedId key with
  | none =>
      have hnone : (elements? definition).isNone = true := by
        rw [← isNone_scanDefinition definition storedId key, hscan]
        rfl
      rw [Option.isNone_iff_eq_none.mp hnone]
      rfl
  | some hits =>
      have hhits : hitsOf definition storedId key = hits := by rw [hitsOf, hscan, Option.getD_some]
      unfold scanDefinition at hscan
      split at hscan
      · next elements helements =>
          rw [hitsOf_eq helements] at hhits
          simp [elements?, helements, Json.array?, hhits]
      · cases hscan

theorem eraseDupsBy_congr {α : Type} {same other : α → α → Bool} {items : List α}
    (h : ∀ left ∈ items, ∀ right ∈ items, same left right = other left right) :
    items.eraseDupsBy same = items.eraseDupsBy other := by
  induction hlength : items.length using Nat.strong_induction_on generalizing items with
  | _ length ih =>
      cases items with
      | nil => rfl
      | cons item items =>
          have hfilter : (items.filter fun later => same later item = false) =
              items.filter fun later => other later item = false :=
            List.filter_congr fun later hlater => by
              rw [h later (List.mem_cons_of_mem item hlater) item List.mem_cons_self]
          have hle := List.length_filter_le (fun later => other later item = false) items
          rw [List.length_cons] at hlength
          rw [List.eraseDupsBy_cons, List.eraseDupsBy_cons, hfilter,
            ih _ (by omega) (fun left hleft right hright => ?_) rfl]
          exact h left (List.mem_cons_of_mem item (List.mem_of_mem_filter hleft)) right
            (List.mem_cons_of_mem item (List.mem_of_mem_filter hright))

/-- Hits have one identity exactly if they are at one index of charts with one name. -/
theorem elementId_eq_iff_place_eq {other : Hit} (h : hit.Placed) (hother : other.Placed) :
    hit.elementId = other.elementId ↔ hit.place = other.place := by
  rw [h, hother]
  constructor
  · exact fun heq => Prod.ext (elementId_inj heq).1 (elementId_inj heq).2
  · intro heq
    rw [show hit.chartId = other.chartId from congrArg Prod.fst heq,
      show hit.elementIndex = other.elementIndex from congrArg Prod.snd heq]

theorem distinctHits_eq_eraseDupsBy_place {hits : List Hit} (h : ∀ hit ∈ hits, hit.Placed) :
    distinctHits [] hits = hits.eraseDupsBy (·.place == ·.place) := by
  rw [distinctHits_eq_eraseDupsBy]
  refine eraseDupsBy_congr fun left hleft right hright => ?_
  rw [Bool.eq_iff_iff, beq_iff_eq, beq_iff_eq]
  exact elementId_eq_iff_place_eq (h left hleft) (h right hright)

end Reference

/-! ## Rows of charts -/

/-- The charts whose text is JSON, under the ids of their rows. -/
def readCharts (rows : List (String × DocumentRow)) : List (String × Json) :=
  rows.filterMap fun row => row.2.body.document?.map (row.1, ·)

theorem mem_readCharts_iff {rows : List (String × DocumentRow)} {id : String} {definition : Json} :
    (id, definition) ∈ readCharts rows ↔
      ∃ row, (id, row) ∈ rows ∧ row.body.document? = some definition := by
  simp [readCharts]

/-- The earlier element is in a chart whose id has the lower bytes, or has a lower index in one
chart. -/
def Precedes (earlier later : String × Hit) : Prop :=
  Text.utf8 earlier.1 < Text.utf8 later.1 ∨
    earlier.1 = later.1 ∧ earlier.2.elementIndex < later.2.elementIndex

theorem pairwise_usesIn (key : String) (table : Table DocumentRow) :
    (usesIn key (readCharts table.rows)).Pairwise Precedes := by
  rw [usesIn, List.pairwise_flatMap]
  constructor
  · intro chart _
    have hindices := pairwise_hitsOf chart.2 chart.1 key
    exact List.pairwise_map.mpr (hindices.imp fun hlt => Or.inr ⟨rfl, hlt⟩)
  · refine List.pairwise_filterMap.mpr (table.ordered.imp fun {left right} hlt => ?_)
    intro chart hchart other hother use huse otherUse hotherUse
    obtain ⟨definition, -, rfl⟩ := Option.map_eq_some_iff.mp hchart
    obtain ⟨otherDefinition, -, rfl⟩ := Option.map_eq_some_iff.mp hother
    obtain ⟨hit, -, rfl⟩ := List.mem_map.mp huse
    obtain ⟨otherHit, -, rfl⟩ := List.mem_map.mp hotherUse
    exact Or.inl (Text.utf8_lt_iff.mpr hlt)

/-- The elements of the chart that is stored in the body. -/
def Cell.elements? (body : Cell) : Option (List Json) :=
  body.document?.bind TagLedger.elements?

theorem ofDocuments_of_cells (key : String) {documents : List StoredDocument}
    {rows : List (String × DocumentRow)}
    (h : rows.map (fun row => (row.1, row.2.body)) = documents.map StoredDocument.cells) :
    ReferenceScan.ofDocuments key documents =
      { hits := distinctHits [] ((usesIn key (readCharts rows)).map Prod.snd)
        scanned := rows.length
        skipped := rows.countP fun row => row.2.body.elements?.isNone } := by
  have hfound : documents.map (ReferenceScan.storedHits key) =
      rows.map fun row => row.2.body.document?.bind (scanDefinition · row.1 key) := by
    have hcells := congrArg (List.map fun cells : String × Cell =>
      cells.2.document?.bind (scanDefinition · cells.1 key)) h
    rw [List.map_map, List.map_map] at hcells
    exact hcells.symm
  have hhits : (rows.map fun row => row.2.body.document?.bind (scanDefinition · row.1 key)).flatMap
      (·.getD []) = (usesIn key (readCharts rows)).map Prod.snd := by
    clear h hfound
    induction rows with
    | nil => rfl
    | cons row rows ih =>
        rw [List.map_cons, List.flatMap_cons, ih]
        cases hdocument : row.2.body.document? with
        | none => simp [readCharts, hdocument]
        | some definition => simp [readCharts, hdocument, usesIn, hitsOf, Function.comp_def]
  have hlength : documents.length = rows.length := by simpa using (congrArg List.length h).symm
  have hskipped (row : String × DocumentRow) :
      (row.2.body.document?.bind (scanDefinition · row.1 key)).isNone =
        row.2.body.elements?.isNone := by
    unfold Cell.elements?
    cases row.2.body.document? with
    | none => rfl
    | some definition => exact isNone_scanDefinition definition row.1 key
  simp only [ReferenceScan.ofDocuments, hfound, hhits, hlength, List.filter_map, List.length_map,
    List.countP_eq_length_filter, Function.comp_def, hskipped]

/-- The scan over charts with any texts in their rows.  The candidates are all elements with a
formula that mentions the key, in the order of the rows' ids by bytes and then of the indices; the
hits are the candidates without those at a place that an earlier one has.  Rows are skipped exactly
for a text that is not JSON or has no array of elements.  Identities say as much as places, and the
search for repeated identities within one definition finds none. -/
theorem scanReferences_exact {store : Store} {table : Table DocumentRow}
    (htable : store.documents .charts = some table) (htextual : Textual table) (key : String) :
    ∃ (scan : ReferenceScan) (candidates : List (String × Hit)),
      store.scanReferences key = .ok scan ∧
      scan.scanned = table.rows.length ∧
      scan.skipped = table.rows.countP (fun row => row.2.body.elements?.isNone) ∧
      candidates.Pairwise Precedes ∧
      (∀ id hit, (id, hit) ∈ candidates ↔ ∃ row definition elements element formula,
        table.find? id = some row ∧ row.body.document? = some definition ∧
        definition.field? "elements" = some (.array elements) ∧
        elements[hit.elementIndex]? = some element ∧
        element.field? "formula" = some (.string formula) ∧ Mentions formula key ∧
        hit = reportedHit definition id key element hit.elementIndex) ∧
      scan.hits = (candidates.map Prod.snd).eraseDupsBy (·.place == ·.place) ∧
      (scan.hits.map Hit.elementId).Nodup ∧
      (∀ use ∈ candidates, ∀ other ∈ candidates,
        use.2.elementId = other.2.elementId ↔ use.2.place = other.2.place) ∧
      ∀ definition storedId, scanDefinition definition storedId key =
        (elements? definition).map fun elements =>
          elements.zipIdx.filterMap fun (element, index) =>
            (Chart.ofDefinition definition storedId).hit? key element index := by
  obtain ⟨documents, hdocuments⟩ := Store.exists_map_cells fun id row hrow =>
    htextual id row (Table.mem_rows_iff.mp hrow)
  have hscan : store.scanDocuments .charts = .ok documents :=
    Store.scanDocuments_eq_ok_iff.mpr ⟨table, htable, hdocuments.symm⟩
  have hplaced : ∀ use ∈ usesIn key (readCharts table.rows), use.2.Placed := fun use huse =>
    placed_of_mem_usesIn (List.mem_map_of_mem huse)
  have hreferences : store.scanReferences key = .ok
      { hits := distinctHits [] ((usesIn key (readCharts table.rows)).map Prod.snd)
        scanned := table.rows.length
        skipped := table.rows.countP fun row => row.2.body.elements?.isNone } := by
    rw [Store.scanReferences, hscan]
    exact congrArg Except.ok (ofDocuments_of_cells key hdocuments.symm)
  refine ⟨_, usesIn key (readCharts table.rows), hreferences, rfl, rfl, pairwise_usesIn key table,
    fun id hit => ?_, ?_, nodup_map_distinctHits [] _, fun use huse other hother => ?_,
    fun definition storedId => scanDefinition_eq definition storedId key⟩
  · simp only [mem_usesIn_iff, mem_readCharts_iff, mem_hitsOf_iff, Table.mem_rows_iff]
    constructor
    · rintro ⟨definition, ⟨row, hrow, hread⟩, elements, element, formula, hhit⟩
      exact ⟨row, definition, elements, element, formula, hrow, hread, hhit⟩
    · rintro ⟨row, definition, elements, element, formula, hrow, hread, hhit⟩
      exact ⟨definition, ⟨row, hrow, hread⟩, elements, element, formula, hhit⟩
  · exact distinctHits_eq_eraseDupsBy_place fun hit hhit => placed_of_mem_usesIn hhit
  · exact elementId_eq_iff_place_eq (hplaced use huse) (hplaced other hother)

def chartText (chartId : Json) (formulas : List Json) : String :=
  (Json.object [("chartId", chartId),
    ("elements", .array (formulas.map fun formula => .object [("formula", formula)]))]).compact

/-- Charts of which one is not JSON, one has no elements, one is named with a number sign and a
digit, and two go by one name. -/
def oddCharts : Table DocumentRow where
  rows := [("a", "[1,"), ("b", chartText (.string "x#1") [.string "[MEDIA:logo]"]),
      ("x", chartText (.number (.integer 7)) [.string "[TEXT:logo]", .null]),
      ("y", chartText (.string "x") [.string "[TEXT:logo]", .string "[MEDIA:logo]"]),
      ("z", "[]")].map
    fun row => (row.1, ⟨.text row.2, "t0", "t0"⟩)
  ordered := by decide

theorem oddCharts_scanned : ∃ scan, { Store.blank with charts := some oddCharts }.scanReferences
      "logo" = .ok scan ∧ scan.scanned = 5 ∧ scan.skipped = 2 ∧
      scan.hits.map Hit.elementId = ["x#1#0", "x#0", "x#1"] ∧
      (scan.hits.map Hit.elementId).Nodup := by
  have htextual : Textual oddCharts := by
    intro id row hrow
    obtain ⟨text, -, htext⟩ := List.mem_map.mp (Table.mem_rows_iff.mpr hrow)
    cases htext
    exact ⟨text.2, rfl⟩
  obtain ⟨scan, candidates, hscan, hscanned, hskipped, -, -, -, hnodup, -⟩ :=
    @scanReferences_exact { Store.blank with charts := some oddCharts } oddCharts rfl htextual
      "logo"
  have hids : (Store.scanReferences "logo" { Store.blank with charts := some oddCharts }).map
      (·.hits.map Hit.elementId) = .ok ["x#1#0", "x#0", "x#1"] := by
    decide +kernel
  rw [hscan] at hids
  refine ⟨scan, hscan, hscanned, ?_, Except.ok.inj hids, hnodup⟩
  rw [hskipped]
  decide +kernel

end TagLedger
