import TagLedger.CommandLine.Run
import TagLedger.Identifier
import TagLedger.Proofs.Json.Reading
import TagLedger.Proofs.Store.Batch
import TagLedger.Proofs.Workspace.Opening

/-!
# Refused loads

A load reads its files before it writes anything, and writes the projects before the charts.  So all
that makes it refuse its input is found before the first write, except for an entry of the charts
that is no object: then the projects have been written, and stay.
-/

namespace TagLedger.CommandLine

/-! ## Input -/

/-- The documents in a file, or why it has none. -/
def inputIn (workspace : Workspace) (path : String) : Except Failure (List Json) :=
  match workspace.files.readText workspace.project path with
  | .error fault => .error (.cannotRead path fault)
  | .ok text =>
      match Json.read text with
      | none => .error (.notJson path)
      | some (.array documents) => .ok documents
      | some _ => .error (.coded (.invalidDocument 0 (path ++ " must contain a JSON array")))

def optionalInputIn (workspace : Workspace) : Option String → Except Failure (Option (List Json))
  | none => .ok none
  | some path => (inputIn workspace path).map some

theorem optionalInputIn_eq_some_iff {workspace : Workspace} {path : Option String}
    {documents : List Json} : optionalInputIn workspace path = .ok (some documents) ↔
      ∃ given, path = some given ∧ inputIn workspace given = .ok documents := by
  cases path with
  | none => simp [optionalInputIn]
  | some given =>
      cases hinput : inputIn workspace given <;> simp [optionalInputIn, hinput, Except.map]

theorem run_readDocuments (path : String) (workspace : Workspace) :
    (readDocuments path).run workspace = (inputIn workspace path, workspace) := by
  unfold readDocuments inputIn
  rw [run_bind, run_get]
  dsimp only
  cases workspace.files.readText workspace.project path with
  | error fault => rfl
  | ok text =>
      dsimp only
      cases Json.read text with
      | none => rfl
      | some value => cases value <;> rfl

theorem run_readOptional (path : Option String) (workspace : Workspace) :
    (readOptional path).run workspace = (optionalInputIn workspace path, workspace) := by
  cases path with
  | none => rfl
  | some path =>
      unfold readOptional optionalInputIn
      rw [run_bind, run_readDocuments]
      dsimp only
      cases inputIn workspace path <;> rfl

/-! ## Steps of a task -/

theorem run_ofLedger {α : Type} (result : Except LedgerError α) (workspace : Workspace) :
    (Task.ofLedger result).run workspace = (result.mapError .coded, workspace) := by
  cases result <;> rfl

theorem run_settings (workspace : Workspace) :
    Task.settings.run workspace = (workspace.settings.mapError .coded, workspace) := by
  unfold Task.settings
  rw [run_bind, run_get]
  exact run_ofLedger _ _

theorem run_openStore (sources : Sources) (workspace : Workspace) :
    (Task.openStore sources).run workspace =
      ((workspace.openStore sources.now).1.mapError .coded,
        (workspace.openStore sources.now).2) := by
  unfold Task.openStore
  rw [run_bind, run_get]
  dsimp only
  rw [run_bind, run_set]
  exact run_ofLedger _ _

theorem run_onStore {α : Type} (store : Store) (operation : Store → Outcome α)
    (workspace : Workspace) : (Task.onStore store operation).run workspace =
      ((operation store).1.mapError .coded, workspace.putStore (operation store).2) := by
  unfold Task.onStore
  rw [run_bind, run_modify]
  exact run_ofLedger _ _

/-! ## Batches -/

/-- The error for the entry of a batch that is no object. -/
def notAnObject (index : Nat) : LedgerError :=
  .invalidDocument index "expected a JSON object"

/-- A batch that is refused leaves the store, and is refused to blame the caller only for an entry
that is no object. -/
theorem upsertDocuments_refused {candidates : Nat → String} {now : String} {collection : Collection}
    {documents : List Json} {store after : Store} {error : LedgerError}
    (h : store.upsertDocuments candidates now collection documents = (.error error, after)) :
    after = store ∧ (error.code.status = 400 → ∃ index,
      documents.findIdx? (·.object?.isNone) = some index ∧ error = notAnObject index) := by
  refine ⟨Store.allOrNothing_upsertDocuments _ _ _ _ _ _ _ h, fun hstatus => ?_⟩
  cases hindex : documents.findIdx? (·.object?.isNone) with
  | some index =>
      rw [Store.upsertDocuments_of_findIdx? candidates now collection hindex] at h
      cases h
      exact ⟨index, rfl, rfl⟩
  | none =>
      have hfault : ∃ fault, error = .store fault := by
        unfold Store.upsertDocuments at h
        rw [mapM_prepareDocument (objects_of_findIdx? hindex)] at h
        dsimp only at h
        split at h
        · cases h
          exact ⟨_, rfl⟩
        · split at h
          · cases h
            exact ⟨_, rfl⟩
          · cases h
      obtain ⟨fault, rfl⟩ := hfault
      cases hstatus

theorem loadBatch_refused {sources : Sources} {first : Nat} {collection : Collection}
    {batch : Option (List Json)} {store after : Store} {error : LedgerError}
    (h : loadBatch sources first collection batch store = (.error error, after)) :
    after = store ∧ (error.code.status = 400 → ∃ documents index, batch = some documents ∧
      documents.findIdx? (·.object?.isNone) = some index ∧ error = notAnObject index) := by
  cases batch with
  | none => cases h
  | some documents =>
      unfold loadBatch at h
      dsimp only at h
      split at h
      · next error after hbatch =>
          cases h
          obtain ⟨hsame, hindex⟩ := upsertDocuments_refused hbatch
          refine ⟨hsame, fun hstatus => ?_⟩
          obtain ⟨index, hindex, herror⟩ := hindex hstatus
          exact ⟨documents, index, rfl, hindex, herror⟩
      · cases h

theorem status_totals {projectsLoaded chartsLoaded : Nat} {store : Store} {error : LedgerError}
    (h : totals projectsLoaded chartsLoaded store = .error error) : error.code.status = 500 := by
  unfold totals at h
  split at h
  · cases h
  · cases h
    rfl
  · cases h
    rfl

/-- The projects are accepted and written, and then the charts have an entry that is no object. -/
def HalfAccepted (sources : Sources) (projects charts : List Json) (store loaded : Store)
    (index : Nat) : Prop :=
  (∃ ids, store.upsertDocuments sources.candidates sources.now .projects projects =
    (.ok ids, loaded)) ∧
  charts.findIdx? (·.object?.isNone) = some index

theorem loadBatch_some (sources : Sources) (projects : List Json) (store : Store) :
    loadBatch sources 0 .projects (some projects) store =
      match store.upsertDocuments sources.candidates sources.now .projects projects with
      | (.error error, after) => (.error error, after)
      | (.ok ids, after) => (.ok ids.length, after) := by
  have hcandidates : sources.candidates = fun index => sources.candidates (0 + index) :=
    funext fun index => congrArg sources.candidates (Nat.zero_add index).symm
  rw [hcandidates]
  rfl

theorem loadBatches_of_halfAccepted {sources : Sources} {projects charts : List Json}
    {store loaded : Store} {index : Nat}
    (h : HalfAccepted sources projects charts store loaded index) :
    loadBatches sources (some projects) (some charts) store =
      (.error (notAnObject index), loaded) := by
  obtain ⟨⟨ids, hprojects⟩, hindex⟩ := h
  unfold loadBatches
  rw [loadBatch_some, hprojects]
  dsimp only
  rw [loadBatch, Store.upsertDocuments_of_findIdx? _ _ .charts hindex]
  rfl

theorem loadBatches_refused {sources : Sources} {projects charts : Option (List Json)}
    {store after : Store} {error : LedgerError}
    (h : loadBatches sources projects charts store = (.error error, after))
    (hstatus : error.code.status = 400) : after = store ∨
      ∃ projectDocuments chartDocuments index, projects = some projectDocuments ∧
        charts = some chartDocuments ∧
        HalfAccepted sources projectDocuments chartDocuments store after index := by
  unfold loadBatches at h
  split at h
  · next error after hprojects =>
      cases h
      exact Or.inl (loadBatch_refused hprojects).1
  · next projectsLoaded loaded hprojects =>
      split at h
      · next error after hcharts =>
          cases h
          obtain ⟨rfl, hindex⟩ := loadBatch_refused hcharts
          cases projects with
          | none =>
              cases hprojects
              exact Or.inl rfl
          | some projectDocuments =>
              right
              obtain ⟨chartDocuments, index, rfl, hindex, -⟩ := hindex hstatus
              refine ⟨projectDocuments, chartDocuments, index, rfl, rfl, ?_, hindex⟩
              rw [loadBatch_some] at hprojects
              split at hprojects
              · cases hprojects
              · next ids after hupsert =>
                  cases hprojects
                  exact ⟨ids, hupsert⟩
      · injection h with htotals _
        rw [status_totals htotals] at hstatus
        cases hstatus

/-- How a load ends once its store is open, and which store it leaves. -/
def loadOpened (sources : Sources) (projects charts : Option String) (store : Store)
    (opened : Workspace) : Except Failure Report × Store :=
  match optionalInputIn opened projects, optionalInputIn opened charts with
  | .error failure, _ => (.error failure, store)
  | .ok _, .error failure => (.error failure, store)
  | .ok projects, .ok charts =>
      let (result, after) := loadBatches sources projects charts store
      ((result.map .loaded).mapError .coded, after)

theorem load_of_given {projects charts : Option String}
    (h : projects.isSome = true ∨ charts.isSome = true) (sources : Sources) :
    load sources projects charts = (do
      let store ← Task.openStore sources
      let projects ← readOptional projects
      let charts ← readOptional charts
      return .loaded (← Task.onStore store (loadBatches sources projects charts))) := by
  have hsome : (projects.isNone && charts.isNone) = false := by
    cases projects <;> cases charts <;> simp at h ⊢
  unfold load
  rw [hsome]
  rfl

theorem documentRows_load {sources : Sources} {projects charts : Option String}
    (hgiven : projects.isSome = true ∨ charts.isSome = true) {workspace opened : Workspace}
    {store : Store} (hopen : workspace.openStore sources.now = (.ok store, opened)) :
    ((load sources projects charts).run workspace).1 =
        (loadOpened sources projects charts store opened).1 ∧
      ((load sources projects charts).run workspace).2.documentRows =
        (loadOpened sources projects charts store opened).2.documentRows := by
  obtain ⟨hrows, hstore⟩ := Workspace.documentRows_openStore hopen
  have hsame : opened.documentRows = store.documentRows := hrows.trans (hstore store rfl).symm
  rw [load_of_given hgiven, run_bind, run_openStore, hopen]
  unfold loadOpened
  simp only [Except.mapError, run_bind, run_readOptional, run_onStore]
  cases optionalInputIn opened projects with
  | error failure => exact ⟨rfl, hsame⟩
  | ok projectDocuments =>
      dsimp only
      cases optionalInputIn opened charts with
      | error failure => exact ⟨rfl, hsame⟩
      | ok chartDocuments =>
          dsimp only
          rw [← Workspace.documentRows_putStore (loadBatches sources projectDocuments
            chartDocuments store).2 opened]
          cases (loadBatches sources projectDocuments chartDocuments store).1 <;> exact ⟨rfl, rfl⟩

theorem documentRows_load_of_closed {sources : Sources} {projects charts : Option String}
    (hgiven : projects.isSome = true ∨ charts.isSome = true) {workspace opened : Workspace}
    {error : LedgerError} (hopen : workspace.openStore sources.now = (.error error, opened)) :
    ((load sources projects charts).run workspace).2.documentRows = workspace.documentRows := by
  rw [load_of_given hgiven, run_bind, run_openStore, hopen]
  exact (Workspace.documentRows_openStore hopen).1

/-! ## Refusals -/

/-- The store opens, both files hold arrays, and the projects are accepted but the charts are
not. -/
def HalfLoad (sources : Sources) (projects charts : Option String) (workspace : Workspace)
    (loaded : Store) (index : Nat) : Prop :=
  ∃ store opened projectsPath chartsPath projectDocuments chartDocuments,
    workspace.openStore sources.now = (.ok store, opened) ∧
    projects = some projectsPath ∧ inputIn opened projectsPath = .ok projectDocuments ∧
    charts = some chartsPath ∧ inputIn opened chartsPath = .ok chartDocuments ∧
    HalfAccepted sources projectDocuments chartDocuments store loaded index

theorem loadOpened_refused {sources : Sources} {projects charts : Option String}
    {store after : Store} {opened : Workspace} {error : LedgerError}
    (h : loadOpened sources projects charts store opened = (.error (.coded error), after))
    (hstatus : error.code.status = 400) : after = store ∨
      ∃ projectsPath chartsPath projectDocuments chartDocuments index,
        projects = some projectsPath ∧ inputIn opened projectsPath = .ok projectDocuments ∧
        charts = some chartsPath ∧ inputIn opened chartsPath = .ok chartDocuments ∧
        HalfAccepted sources projectDocuments chartDocuments store after index := by
  unfold loadOpened at h
  split at h
  · cases h
    exact Or.inl rfl
  · cases h
    exact Or.inl rfl
  · next projectInput chartInput hprojects hcharts =>
      have hresult : loadBatches sources projectInput chartInput store = (.error error, after) := by
        revert h
        rcases loadBatches sources projectInput chartInput store with ⟨_ | _, _⟩ <;> rintro ⟨⟩
        rfl
      rcases loadBatches_refused hresult hstatus with
        hsame | ⟨projectDocuments, chartDocuments, index, rfl, rfl, hhalf⟩
      · exact Or.inl hsame
      · obtain ⟨projectsPath, hprojectsPath, hprojectInput⟩ :=
          optionalInputIn_eq_some_iff.mp hprojects
        obtain ⟨chartsPath, hchartsPath, hchartInput⟩ := optionalInputIn_eq_some_iff.mp hcharts
        exact Or.inr ⟨projectsPath, chartsPath, projectDocuments, chartDocuments, index,
          hprojectsPath, hprojectInput, hchartsPath, hchartInput, hhalf⟩

theorem loadOpened_of_halfAccepted {sources : Sources} {projectsPath chartsPath : String}
    {projectDocuments chartDocuments : List Json} {store loaded : Store} {opened : Workspace}
    {index : Nat} (hprojects : inputIn opened projectsPath = .ok projectDocuments)
    (hcharts : inputIn opened chartsPath = .ok chartDocuments)
    (hhalf : HalfAccepted sources projectDocuments chartDocuments store loaded index) :
    loadOpened sources (some projectsPath) (some chartsPath) store opened =
      (.error (.coded (notAnObject index)), loaded) := by
  have hprojectInput := optionalInputIn_eq_some_iff.mpr ⟨projectsPath, rfl, hprojects⟩
  have hchartInput := optionalInputIn_eq_some_iff.mpr ⟨chartsPath, rfl, hcharts⟩
  unfold loadOpened
  rw [hprojectInput, hchartInput]
  dsimp only
  rw [loadBatches_of_halfAccepted hhalf]
  rfl

theorem documentRows_of_halfAccepted {sources : Sources} {projects charts : List Json}
    {store loaded : Store} {index : Nat}
    (h : HalfAccepted sources projects charts store loaded index) :
    loaded.documentRows .charts = store.documentRows .charts := by
  obtain ⟨⟨ids, hprojects⟩, -⟩ := h
  rcases store.upsertDocuments_cases sources.candidates sources.now .projects projects with
    ⟨error, hrefused⟩ | ⟨prepared, table, written, -, -, -, haccepted⟩
  · cases hrefused.symm.trans hprojects
  · cases haccepted.symm.trans hprojects
    rfl

theorem load_refused {sources : Sources} {projects charts : Option String} {workspace : Workspace}
    {error : LedgerError}
    (h : ((load sources projects charts).run workspace).1 = .error (.coded error))
    (hstatus : error.code.status = 400) :
    ((load sources projects charts).run workspace).2.documentRows = workspace.documentRows ∨
      ∃ loaded index, HalfLoad sources projects charts workspace loaded index := by
  by_cases hgiven : projects.isSome = true ∨ charts.isSome = true
  · cases hopen : workspace.openStore sources.now with
    | mk opening opened =>
        cases opening with
        | error failure => exact Or.inl (documentRows_load_of_closed hgiven hopen)
        | ok store =>
            obtain ⟨hresult, hrows⟩ := documentRows_load hgiven hopen
            obtain ⟨-, hstore⟩ := Workspace.documentRows_openStore hopen
            have hopened : loadOpened sources projects charts store opened = (.error (.coded error),
                (loadOpened sources projects charts store opened).2) :=
              Prod.ext (hresult.symm.trans h) rfl
            rcases loadOpened_refused hopened hstatus with
              hsame | ⟨projectsPath, chartsPath, projectDocuments, chartDocuments, index, hhalf⟩
            · left
              rw [hrows, hsame, hstore store rfl]
            · exact Or.inr ⟨_, index, store, opened, projectsPath, chartsPath, projectDocuments,
                chartDocuments, hopen, hhalf⟩
  · left
    cases projects with
    | some path => exact absurd (Or.inl rfl) hgiven
    | none =>
        cases charts with
        | some path => exact absurd (Or.inr rfl) hgiven
        | none => rfl

theorem load_of_halfLoad {sources : Sources} {projects charts : Option String}
    {workspace : Workspace} {loaded : Store} {index : Nat}
    (h : HalfLoad sources projects charts workspace loaded index) :
    ((load sources projects charts).run workspace).1 = .error (.coded (notAnObject index)) ∧
      ((load sources projects charts).run workspace).2.documentRows = loaded.documentRows ∧
      loaded.documentRows .charts = workspace.documentRows .charts := by
  obtain ⟨store, opened, projectsPath, chartsPath, projectDocuments, chartDocuments, hopen, rfl,
    hprojects, rfl, hcharts, hhalf⟩ := h
  have hgiven : (some projectsPath).isSome = true ∨ (some chartsPath).isSome = true := Or.inl rfl
  obtain ⟨hresult, hrows⟩ := documentRows_load hgiven hopen
  obtain ⟨-, hstore⟩ := Workspace.documentRows_openStore hopen
  rw [loadOpened_of_halfAccepted hprojects hcharts hhalf] at hresult hrows
  exact ⟨hresult, hrows, by rw [documentRows_of_halfAccepted hhalf, hstore store rfl]⟩

theorem documentRows_runRequest (sources : Sources) (mode : OutputMode) (request : Request)
    (workspace : Workspace) : (runRequest sources mode request workspace).2.documentRows =
      ((perform sources request).run workspace).2.documentRows :=
  Workspace.documentRows_closeStore _

/-- A load that ends with a client error leaves the documents of both collections, except for one
case: all is well with the projects, but the charts have an entry that is no object.  Then the
projects have been written, and the charts have not. -/
theorem load_refusal (sources : Sources) (mode : OutputMode) (projects charts : Option String)
    (workspace : Workspace) :
    let result := ((perform sources (.load projects charts)).run workspace).1
    let final := (runRequest sources mode (.load projects charts) workspace).2
    (∀ error, result = .error (.coded error) → error.code.status = 400 →
      final.documentRows = workspace.documentRows ∨
        ∃ loaded index, HalfLoad sources projects charts workspace loaded index) ∧
    ∀ loaded index, HalfLoad sources projects charts workspace loaded index →
      result = .error (.coded (notAnObject index)) ∧
      final.documentRows = loaded.documentRows ∧
      final.documentRows .charts = workspace.documentRows .charts := by
  intro result final
  have hfinal : final.documentRows =
      ((load sources projects charts).run workspace).2.documentRows :=
    documentRows_runRequest sources mode (.load projects charts) workspace
  rw [hfinal]
  refine ⟨fun error herror hstatus => load_refused herror hstatus, fun loaded index hhalf => ?_⟩
  obtain ⟨hresult, hrows, hcharts⟩ := load_of_halfLoad hhalf
  exact ⟨hresult, hrows, hrows ▸ hcharts⟩

/-! ## A half load -/

def sampleSources : Sources :=
  ⟨"t1", Identifier.sequence 1 1⟩

def sampleProjects : List Json :=
  [.object [("_id", .string "a")]]

def sampleCharts : List Json :=
  [.object [("chartId", .string "c")], .null]

/-- A project with an empty store, and a file of projects and a file of charts beside it. -/
def sampleWorkspace : Workspace :=
  let store := (Store.blank.migrate "t0").2
  let files : Files := .empty
  let files := files.put ["work", storeDirectory, storeFileName] (.store store true none)
  let files := files.put ["work", "p"] (.text (Json.array sampleProjects).compact)
  let files := files.put ["work", "c"] (.text (Json.array sampleCharts).compact)
  ⟨"/work", ["work"], none, files⟩

def sampleLoaded : Store :=
  let store := (sampleWorkspace.openStore "t1").1.toOption.getD .blank
  (store.upsertDocuments sampleSources.candidates "t1" .projects sampleProjects).2

theorem inputIn_of_readText {workspace : Workspace} {path : String} {documents : List Json}
    (hread : workspace.files.readText workspace.project path = .ok (Json.array documents).compact)
    (hordered : (Json.array documents).Ordered)
    (hdepth : (Json.array documents).depth ≤ Json.deepest)
    (hreread : (Json.array documents).reread = some (.array documents)) :
    inputIn workspace path = .ok documents := by
  unfold inputIn
  rw [hread]
  dsimp only
  rw [Json.read_compact hordered, if_pos hdepth, hreread]

theorem halfLoad_sample :
    HalfLoad sampleSources (some "p") (some "c") sampleWorkspace sampleLoaded 1 := by
  have hsplit (name : String) (h : name = "p" ∨ name = "c") : name.splitOn "/" = [name] := by
    rcases h with rfl | rfl <;> simp +decide [String.splitOn, String.splitOnAux]
  have hopen : sampleWorkspace.openStore "t1" =
      (.ok ((sampleWorkspace.openStore "t1").1.toOption.getD .blank),
        (sampleWorkspace.openStore "t1").2) := by
    have hok : (sampleWorkspace.openStore "t1").1.toOption.isSome = true := by decide +kernel
    refine Prod.ext ?_ rfl
    cases hresult : (sampleWorkspace.openStore "t1").1 with
    | error error => simp [hresult, Except.toOption] at hok
    | ok store => rfl
  refine ⟨_, _, "p", "c", sampleProjects, sampleCharts, hopen, rfl, ?_, rfl, ?_, ?_, rfl⟩
  · refine inputIn_of_readText ?_ ?_ (by decide +kernel) rfl
    · unfold Files.readText Files.followPath
      rw [hsplit "p" (Or.inl rfl)]
      decide +kernel
    · exact ⟨⟨List.pairwise_singleton _ _, trivial, trivial⟩, trivial⟩
  · refine inputIn_of_readText ?_ ?_ (by decide +kernel) rfl
    · unfold Files.readText Files.followPath
      rw [hsplit "c" (Or.inr rfl)]
      decide +kernel
    · exact ⟨⟨List.pairwise_singleton _ _, trivial, trivial⟩, trivial, trivial⟩
  · refine ⟨["a"], Prod.ext ?_ rfl⟩
    decide +kernel

/-- The project stays in the store although the load was refused. -/
theorem projects_kept_of_refused_charts :
    let final := (runRequest sampleSources .text (.load (some "p") (some "c")) sampleWorkspace).2
    ((perform sampleSources (.load (some "p") (some "c"))).run sampleWorkspace).1 =
        .error (.coded (.invalidDocument 1 "expected a JSON object")) ∧
      sampleWorkspace.documentRows .projects = [] ∧
      (final.documentRows .projects).map Prod.fst = ["a"] ∧ final.documentRows .charts = [] := by
  intro final
  obtain ⟨hresult, hrows, hcharts⟩ :=
    (load_refusal sampleSources .text (some "p") (some "c") sampleWorkspace).2 _ _ halfLoad_sample
  have hfinal : final.documentRows = sampleLoaded.documentRows := hrows
  refine ⟨hresult, rfl, ?_, hcharts⟩
  rw [hfinal]
  decide +kernel

/-- A client error does not say that nothing was written. -/
theorem refused_load_writes : ¬ ∀ (sources : Sources) (mode : OutputMode)
    (projects charts : Option String) (workspace : Workspace) (error : LedgerError),
    ((perform sources (.load projects charts)).run workspace).1 = .error (.coded error) →
    error.code.status = 400 →
    (runRequest sources mode (.load projects charts) workspace).2.documentRows =
      workspace.documentRows := by
  intro h
  obtain ⟨hresult, hrows, -⟩ := load_of_halfLoad halfLoad_sample
  have hsame := h sampleSources .text (some "p") (some "c") sampleWorkspace _ hresult rfl
  rw [documentRows_runRequest] at hsame
  have hloaded : sampleLoaded.documentRows = sampleWorkspace.documentRows := hrows.symm.trans hsame
  have hkeys : (sampleLoaded.documentRows .projects).map Prod.fst = ["a"] := by decide +kernel
  rw [hloaded] at hkeys
  cases hkeys

end TagLedger.CommandLine
