import TagLedger.Proofs.CommandLine.Load
import TagLedger.Proofs.Json.Layout

/-!
# One object for each run

A run that is asked for JSON prints one object: to the output what a request had to report, or to the
errors why it failed.  The object says which of the two it is.  An error of the ledger among the causes
of a failure is shown with its code, its status and a suggestion.  All other failures are those of
files, in setting up and in reading what is to be loaded.

Before the errors stands what the run logs, which depends on the filter: if that lets through nothing
but errors it is nothing, as no event is one.
-/

namespace TagLedger.Json

/-! ## Objects -/

theorem depth_object_le {fields : List (String × Json)} {limit : Nat}
    (h : ∀ field ∈ fields, field.2.depth ≤ limit) : (object fields).depth ≤ limit + 1 := by
  refine Nat.succ_le_succ ?_
  induction fields with
  | nil => exact Nat.zero_le _
  | cons field fields ih =>
      obtain ⟨hfield, hfields⟩ := List.forall_mem_cons.mp h
      exact Nat.max_le.mpr ⟨hfield, ih hfields⟩

theorem depth_array_map_le {α : Type} {convert : α → Json} {limit : Nat}
    (h : ∀ item, (convert item).depth ≤ limit) (items : List α) :
    (array (items.map convert)).depth ≤ limit + 1 := by
  refine Nat.succ_le_succ ?_
  induction items with
  | nil => exact Nat.zero_le _
  | cons item items ih => exact Nat.max_le.mpr ⟨h item, ih⟩

theorem depth_success_le {fields : List (String × Json)} {limit : Nat}
    (h : ∀ field ∈ fields, field.2.depth ≤ limit) : (success fields).depth ≤ limit + 1 :=
  depth_object_le (List.forall_mem_cons.mpr ⟨Nat.zero_le limit, h⟩)

/-- An object of counts says of success the same when it is read. -/
theorem read_success {fields : List (String × Json)} (hfresh : "success" ∉ fields.map Prod.fst)
    (hdepth : (success fields).depth ≤ deepest) (hcounted : (success fields).isCounted = true) :
    ∃ read, Json.read ((success fields).pretty ++ "\n") = some (.object read) ∧
      read.lookup "success" = some (.bool true) := by
  refine ⟨_, read_pretty (reread_of_isCounted hcounted) hdepth, ?_⟩
  have hlast : (arrangedFields (("success", .bool true) :: fields)).reverse.lookup "success" =
      some (.bool true) := by
    have hnone : (arrangedFields fields).reverse.lookup "success" = none := by
      rw [← map_fst_arrangedFields] at hfresh
      refine List.lookup_eq_none_iff.mpr fun field hfield => ?_
      simp only [List.mem_reverse] at hfield
      simpa using fun heq : "success" = field.1 => hfresh (heq ▸ List.mem_map_of_mem hfield)
    rw [arrangedFields, List.reverse_cons, List.lookup_append, hnone]
    rfl
  rw [← hlast, ← field?_ofFields]
  rfl

end TagLedger.Json

namespace TagLedger.CommandLine

/-! ## Reports -/

namespace Report

/-- Every report is one object that says success, and nothing else under that name. -/
theorem json_eq_success (report : Report) : ∃ fields, report.json = success fields ∧
    "success" ∉ fields.map Prod.fst := by
  cases report with
  | usage report =>
      refine ⟨_, rfl, ?_⟩
      cases report.debug <;> simp [optionalField]
  | _ => exact ⟨_, rfl, by simp [SlugEntry.fields]⟩

theorem depth_asset_le (asset : ContentAsset) : asset.json.depth ≤ 1 := by
  refine Json.depth_object_le ?_
  cases asset.content <;> simp [optionalField, Json.depth]

theorem depth_json_le (report : Report) : report.json.depth ≤ 3 := by
  cases report with
  | initialized | loaded | shownSlug =>
      refine Json.depth_success_le ?_
      simp [SlugEntry.fields, Json.depth, Json.ofNat]
  | usage report =>
      have hrow (row : HashtagCount) : row.json.depth ≤ 1 :=
        Json.depth_object_le (by simp [Json.depth, Json.ofNat])
      have hdebug (debug : UsageDebug) : debug.json.depth ≤ 2 :=
        Json.depth_object_le (by simp [Json.depth, Json.ofNat])
      refine Json.depth_success_le (List.forall_mem_cons.mpr
        ⟨Json.depth_array_map_le hrow report.hashtags, ?_⟩)
      cases report.debug with
      | none => simp [optionalField]
      | some debug => simpa [optionalField] using hdebug debug
  | resolved slugs =>
      exact Json.depth_success_le (List.forall_mem_singleton.mpr (Json.depth_array_map_le
        (fun row => Json.depth_object_le (by simp [Json.depth])) slugs.rows))
  | listedSlugs entries =>
      exact Json.depth_success_le (List.forall_mem_singleton.mpr (Json.depth_array_map_le
        (fun entry => Json.depth_object_le (by simp [SlugEntry.fields, Json.depth])) entries))
  | references report =>
      have hchart (chart : ChartReference) : chart.json.depth ≤ 1 :=
        Json.depth_object_le (by simp [Json.depth, Json.ofNat])
      have hcharts := Json.depth_array_map_le hchart report.charts
      exact Json.depth_success_le (List.forall_mem_cons.mpr ⟨Nat.zero_le 2,
        List.forall_mem_cons.mpr ⟨Nat.zero_le 2, List.forall_mem_singleton.mpr hcharts⟩⟩)
  | savedAsset asset =>
      exact Json.depth_success_le (List.forall_mem_singleton.mpr
        (Nat.le_trans (depth_asset_le asset) (by decide)))
  | deletedAsset report =>
      have hdangling :
          (Json.array (report.dangling.map fun hit => .string hit.elementId)).depth ≤ 2 :=
        Json.depth_array_map_le (fun _ => Nat.zero_le 1) report.dangling
      exact Json.depth_success_le (List.forall_mem_cons.mpr ⟨Nat.zero_le 2,
        List.forall_mem_singleton.mpr hdangling⟩)
  | listedAssets assets =>
      exact Json.depth_success_le (List.forall_mem_singleton.mpr
        (Json.depth_array_map_le depth_asset_le assets))
  | colors fallback rows =>
      exact Json.depth_success_le (List.forall_mem_cons.mpr ⟨Nat.zero_le 2,
        List.forall_mem_singleton.mpr (Json.depth_array_map_le
          (fun row => Json.depth_object_le (by simp [Json.depth])) rows)⟩)

end Report

/-! ## Causes -/

/-- One of the causes that a failure carries: what was being done, or what went wrong with it. -/
inductive Cause where
  | note (text : String)
  | ledger (error : LedgerError)

def Cause.text : Cause → String
  | .note text => text
  | .ledger error => error.text

namespace Failure

/-- The causes of a failure, the innermost last.  Left out are what is noted around an error of the
ledger, which is never shown, and what is wrong with a text that is no JSON. -/
def causes : Failure → List Cause
  | .coded error => [.ledger error]
  | .alreadyInitialized => [.note Failure.alreadyInitialized.text]
  | .cannotCreate path fault => [.note s!"Failed to create {path}", .note fault.text]
  | .cannotWrite what path fault => [.note s!"Failed to write {what}: {path}", .note fault.text]
  | .cannotRead path fault => [.note s!"Failed to read {path}", .note fault.text]
  | .notJson path => [.note s!"Failed to parse {path} as JSON"]
  | .cannotOpen path failure => [.note (failure.context path), .note (failure.cause path)]
  | .store fault => [.note fault.text]

theorem ledger_mem_causes_iff {failure : Failure} {error : LedgerError} :
    .ledger error ∈ failure.causes ↔ failure.error? = some error := by
  cases failure <;> simp [causes, error?, eq_comm]

/-- A failure is reported with all its causes. -/
theorem text_eq_intercalate (failure : Failure) :
    failure.text = ": ".intercalate (failure.causes.map Cause.text) := by
  have hone (what : String) : what = ": ".intercalate [what] := rfl
  have htwo (what why : String) : what ++ ": " ++ why = ": ".intercalate [what, why] := rfl
  cases failure with
  | coded | alreadyInitialized | notJson | store => exact hone _
  | cannotCreate | cannotWrite | cannotRead | cannotOpen => exact htwo _ _

end Failure

/-- The fields tell the code, the status and the suggestion of an error. -/
def TellsCode (fields : List (String × Json)) (error : LedgerError) : Prop :=
  fields.lookup "error_code" = some (.string error.code.text) ∧
    fields.lookup "status" = some (.ofNat error.code.status) ∧
    fields.lookup "suggestion" = some (.string error.suggestion)

def TellsNoCode (fields : List (String × Json)) : Prop :=
  fields.lookup "error_code" = none ∧ fields.lookup "status" = none ∧
    fields.lookup "suggestion" = none

namespace Failure

theorem message_details (failure : Failure) : failure.details.lookup "message" =
    some (.string (": ".intercalate (failure.causes.map Cause.text))) := by
  rw [← text_eq_intercalate]
  cases failure <;> rfl

theorem tellsCode_details {failure : Failure} {error : LedgerError}
    (h : .ledger error ∈ failure.causes) : TellsCode failure.details error := by
  rw [details, ledger_mem_causes_iff.mp h]
  exact ⟨rfl, rfl, rfl⟩

theorem tellsNoCode_details {failure : Failure} (h : ∀ error, .ledger error ∉ failure.causes) :
    TellsNoCode failure.details := by
  have hnone : failure.error? = none := Option.eq_none_iff_forall_ne_some.mpr fun error herror =>
    h error (ledger_mem_causes_iff.mpr herror)
  rw [details, hnone]
  exact ⟨rfl, rfl, rfl⟩

theorem ordered_json (failure : Failure) : failure.json.Ordered := by
  have hnames : ["error_code", "message", "status", "suggestion"].Pairwise (· < ·) := by decide
  have hparts : ["error", "success"].Pairwise (· < ·) := by decide
  have hdetails : (Json.object failure.details).Ordered := by
    unfold details
    cases failure.error? with
    | some error => exact ⟨hnames, trivial, trivial, trivial, trivial, trivial⟩
    | none => exact ⟨List.pairwise_singleton _ _, trivial, trivial⟩
  exact ⟨hparts, hdetails, trivial, trivial⟩

theorem depth_json_le (failure : Failure) : failure.json.depth ≤ 2 := by
  have hdetails : (Json.object failure.details).depth ≤ 1 := by
    refine Json.depth_object_le ?_
    unfold details
    cases failure.error? <;> simp [Json.depth, Json.ofNat]
  exact Json.depth_object_le (List.forall_mem_cons.mpr
    ⟨hdetails, List.forall_mem_singleton.mpr (Nat.zero_le 1)⟩)

theorem isCounted_json (failure : Failure) : failure.json.isCounted = true := by
  have hstatus (code : ErrorCode) : decide (code.status < twoTo 64) = true := by
    cases code <;> decide
  have hdetails : Json.fieldsCounted failure.details = true := by
    unfold details
    cases failure.error? with
    | some error =>
        exact Bool.and_eq_true_iff.mpr ⟨rfl, Bool.and_eq_true_iff.mpr ⟨rfl,
          Bool.and_eq_true_iff.mpr ⟨hstatus error.code, rfl⟩⟩⟩
    | none => rfl
  exact Bool.and_eq_true_iff.mpr ⟨hdetails, rfl⟩

theorem read_json (failure : Failure) :
    Json.read (failure.json.pretty ++ "\n") = some failure.json := by
  have hdepth : failure.json.depth ≤ Json.deepest :=
    Nat.le_trans failure.depth_json_le (by decide)
  rw [Json.read_pretty (Json.reread_of_isCounted failure.isCounted_json) hdepth,
    Json.arranged_of_ordered failure.ordered_json]

end Failure

/-! ## Where failures come from -/

/-- Whenever the task fails, it is with an allowed failure. -/
def FailsAs {α : Type} (allowed : Failure → Prop) (task : Task α) : Prop :=
  ∀ workspace failure, (task.run workspace).1 = .error failure → allowed failure

section Tasks

variable {α β : Type} {allowed : Failure → Prop}

theorem failsAs_pure (value : α) : FailsAs allowed (pure value : Task α) :=
  fun _ _ h => by cases h

theorem failsAs_throw {failure : Failure} (h : allowed failure) :
    FailsAs allowed (throw failure : Task α) := by
  intro workspace other hother
  cases hother
  exact h

theorem failsAs_bind {task : Task α} {next : α → Task β} (h : FailsAs allowed task)
    (hnext : ∀ value, FailsAs allowed (next value)) : FailsAs allowed (task >>= next) := by
  intro workspace failure hfailure
  rw [run_bind] at hfailure
  cases hrun : task.run workspace with
  | mk result after =>
      rw [hrun] at hfailure
      cases result with
      | ok value => exact hnext value after failure hfailure
      | error error =>
          cases hfailure
          exact h workspace failure (congrArg Prod.fst hrun)

theorem failsAs_mono {other : Failure → Prop} {task : Task α} (h : FailsAs allowed task)
    (hallowed : ∀ failure, allowed failure → other failure) : FailsAs other task :=
  fun workspace failure hfailure => hallowed failure (h workspace failure hfailure)

theorem failsAs_get : FailsAs allowed (get : Task Workspace) :=
  fun _ _ h => by cases h

theorem failsAs_modify (change : Workspace → Workspace) :
    FailsAs allowed (modify change : Task PUnit) :=
  fun _ _ h => by cases h

variable (hcoded : ∀ error, allowed (.coded error))
include hcoded

theorem failsAs_ofLedger (result : Except LedgerError α) :
    FailsAs allowed (Task.ofLedger result) := by
  cases result with
  | ok value => exact failsAs_pure value
  | error error => exact failsAs_throw (hcoded error)

theorem failsAs_openStore (sources : Sources) : FailsAs allowed (Task.openStore sources) := by
  intro workspace failure hfailure
  rw [run_openStore] at hfailure
  cases hresult : (workspace.openStore sources.now).1 with
  | ok store => simp [hresult, Except.mapError] at hfailure
  | error error =>
      simp only [hresult, Except.mapError, Except.error.injEq] at hfailure
      exact hfailure ▸ hcoded error

theorem failsAs_onStore (store : Store) (operation : Store → Outcome α) :
    FailsAs allowed (Task.onStore store operation) :=
  failsAs_bind (failsAs_modify _) fun _ => failsAs_ofLedger hcoded _

theorem failsAs_withStore (sources : Sources) (operation : Store → Outcome α) :
    FailsAs allowed (Task.withStore sources operation) :=
  failsAs_bind (failsAs_openStore hcoded sources) fun store =>
    failsAs_onStore hcoded store operation

theorem failsAs_asking (sources : Sources) (question : Store → Except LedgerError α) :
    FailsAs allowed (Task.asking sources question) :=
  failsAs_withStore hcoded sources _

theorem failsAs_settings : FailsAs allowed Task.settings :=
  failsAs_bind failsAs_get fun _ => failsAs_ofLedger hcoded _

theorem failsAs_withColors (sources : Sources)
    (display : String → Nat → Board → Except LedgerError (List ColorRow) × Board) :
    FailsAs allowed (withColors sources display) :=
  failsAs_bind (failsAs_settings hcoded) fun _ =>
    failsAs_bind (failsAs_openStore hcoded sources) fun _ =>
      failsAs_bind failsAs_get fun _ =>
        failsAs_bind (failsAs_modify _) fun _ =>
          failsAs_bind (failsAs_ofLedger hcoded _) fun _ => failsAs_pure _

end Tasks

/-- The failures of a file that is to be loaded. -/
def Failure.IsOfInput (path : String) (failure : Failure) : Prop :=
  failure = .notJson path ∨ ∃ fault, failure = .cannotRead path fault

/-- The failures without an error of the ledger: in setting up, and of a file to be loaded. -/
def Failure.IsOfFiles (failure : Failure) : Request → Prop
  | .setUp _ => True
  | .load projects charts => ∃ path, (projects = some path ∨ charts = some path) ∧
      failure.IsOfInput path
  | _ => False

theorem inputIn_fails {workspace : Workspace} {path : String} {failure : Failure}
    (h : inputIn workspace path = .error failure) :
    (∃ error, failure = .coded error) ∨ failure.IsOfInput path := by
  unfold inputIn at h
  split at h
  · cases h
    exact Or.inr (Or.inr ⟨_, rfl⟩)
  · split at h
    · cases h
      exact Or.inr (Or.inl rfl)
    · cases h
    · cases h
      exact Or.inl ⟨_, rfl⟩

theorem failsAs_readOptional (path : Option String) :
    FailsAs (fun failure => (∃ error, failure = .coded error) ∨
      ∃ given, path = some given ∧ failure.IsOfInput given) (readOptional path) := by
  intro workspace failure hfailure
  rw [run_readOptional] at hfailure
  cases path with
  | none => cases hfailure
  | some given =>
      cases hinput : inputIn workspace given with
      | ok documents => simp [optionalInputIn, hinput, Except.map] at hfailure
      | error error =>
          simp only [optionalInputIn, hinput, Except.map, Except.error.injEq] at hfailure
          exact (inputIn_fails (hfailure ▸ hinput)).imp_right fun hinput => ⟨given, rfl, hinput⟩

/-- A request fails with an error of the ledger, or on files. -/
theorem failsAs_perform (sources : Sources) (request : Request) :
    FailsAs (fun failure => (∃ error, failure = .coded error) ∨ failure.IsOfFiles request)
      (perform sources request) := by
  have hcoded (error : LedgerError) : (∃ other, Failure.coded error = .coded other) ∨
      (Failure.coded error).IsOfFiles request := Or.inl ⟨error, rfl⟩
  unfold perform
  cases request with
  | setUp force => exact fun _ _ _ => Or.inr trivial
  | load projects charts =>
      by_cases hgiven : projects.isSome = true ∨ charts.isSome = true
      · dsimp only
        rw [load_of_given hgiven]
        refine failsAs_bind (failsAs_openStore hcoded sources) fun _ => ?_
        refine failsAs_bind ?_ fun _ => failsAs_bind ?_ fun _ => ?_
        · exact failsAs_mono (failsAs_readOptional projects) fun failure => Or.imp_right
            fun ⟨path, hpath, hinput⟩ => ⟨path, Or.inl hpath, hinput⟩
        · exact failsAs_mono (failsAs_readOptional charts) fun failure => Or.imp_right
            fun ⟨path, hpath, hinput⟩ => ⟨path, Or.inr hpath, hinput⟩
        · exact failsAs_bind (failsAs_onStore hcoded _ _) fun _ => failsAs_pure _
      · have hnone : projects = none ∧ charts = none := by
          simpa [Option.isSome_iff_ne_none] using hgiven
        obtain ⟨rfl, rfl⟩ := hnone
        exact failsAs_throw (hcoded _)
  | hashtags debug limit =>
      exact failsAs_bind (failsAs_settings hcoded) fun _ =>
        failsAs_bind (failsAs_withStore hcoded sources _) fun _ => failsAs_pure _
  | showSlug | listSlugs | references | listAssets =>
      exact failsAs_bind (failsAs_asking hcoded sources _) fun _ => failsAs_pure _
  | resolveSlugs | addAsset | removeAsset =>
      exact failsAs_bind (failsAs_withStore hcoded sources _) fun _ => failsAs_pure _
  | setColor | listColors => exact failsAs_withColors hcoded sources _

/-! ## Logs -/

/-- Nothing that happens is logged as an error. -/
theorem LogEvent.level_ne_error (event : LogEvent) : event.entry.level ≠ .error := by
  cases event <;> nofun

/-- The parts of the program that are not of the core. -/
def commandTargets : List String :=
  ["tb", "tb::output", "tb::cmd::init", "tb::cmd::load", "tb::cmd::assets", "tb::cmd::colors"]

theorem LogEvent.isOfCore_eq (event : LogEvent) :
    event.isOfCore = !commandTargets.contains event.entry.target := by
  cases event <;>
    · simp only [isOfCore, entry]
      decide +kernel

/-- What is shown without a filter, unless details are asked for, are warnings and that an asset has been
deleted. -/
theorem LogFilter.default_false_iff (event : LogEvent) : default false event = true ↔
    event.entry.level = .warn ∨ ∃ key, event = .assetDeleted key := by
  cases event <;> simp [default, LogEvent.isOfCore_eq, commandTargets, upTo, LogEvent.entry,
    LogLevel.detail]

namespace Logging

/-- A log that is filtered by what lets only errors through. -/
def OnlyErrors (logging : Logging) : Prop :=
  ∃ filter, logging.filter = some filter ∧
    ∀ event, filter event = true → event.entry.level = .error

variable {logging : Logging}

theorem OnlyErrors.write_eq_empty (h : logging.OnlyErrors) (verbose : Bool)
    (events : List LogEvent) : logging.write verbose events = "" := by
  obtain ⟨filter, hfilter, herrors⟩ := h
  have hnone : logging.shown verbose events = [] := by
    refine List.filter_eq_nil_iff.mpr fun event _ hshown => ?_
    rw [hfilter] at hshown
    exact event.level_ne_error (herrors event hshown)
  rw [write, hnone]
  rfl

theorem shown_of_default (hfilter : logging.filter = none) (hdetailed : logging.detailed = false)
    (events : List LogEvent) : ∀ event ∈ logging.shown false events,
      event.entry.level = .warn ∨ ∃ key, event = .assetDeleted key := by
  intro event hevent
  rw [shown, hfilter, hdetailed] at hevent
  exact (LogFilter.default_false_iff event).mp (List.mem_filter.mp hevent).2

end Logging

/-! ## Runs -/

/-- The object that tells of a failure. -/
def failureBody (details : List (String × Json)) : Json :=
  .object [("error", .object details), ("success", .bool false)]

theorem Ending.logged_success (log output : String) :
    (success output).logged log = ⟨0, output, log⟩ := by
  rw [logged, success, String.append_empty]

theorem run_of_call {words : List String} {request : Request} {flag : Option OutputMode}
    {verbose : Bool} (hcall : readCall words = .ok ⟨.perform request, flag, verbose⟩)
    (sources : Sources) (environment : Environment) (workspace : Workspace) :
    (run sources environment words workspace).1 =
      (Ending.ofResult (outputMode environment flag workspace)
        ((perform sources request).run workspace).1).logged
          (logOf sources environment ⟨.perform request, flag, verbose⟩ workspace) := by
  unfold run
  rw [hcall]
  rfl

/-- A request that is made in the JSON mode ends in one of two ways, whatever the workspace is.  It
succeeds, and all that is printed on the output is an object with `success` true.  Or it fails, and all
that is printed is, among the errors, an object with `success` false and an `error`.  That one tells
the code, the status and the suggestion of an error of the ledger if there is one among the causes,
and otherwise none of them, which happens on files only.

In both cases the log stands before what is printed among the errors.  There is none if the filter lets
only errors through; by default its lines are of warnings and of the deletion of an asset.

The objects are also what is read from the texts; for a report this takes counts of 64 bits. -/
theorem run_prints_one_object (sources : Sources) {environment : Environment} {words : List String}
    {workspace : Workspace} {request : Request} {flag : Option OutputMode} {verbose : Bool}
    (hcall : readCall words = .ok ⟨.perform request, flag, verbose⟩)
    (hmode : outputMode environment flag workspace = .json) :
    let result := ((perform sources request).run workspace).1
    let ending := (run sources environment words workspace).1
    let events := callEvents sources ⟨.perform request, flag, verbose⟩ workspace
    let log := environment.logging.write verbose events
    ((∃ report fields, result = .ok report ∧ report.json = .object fields ∧
        ending = ⟨0, (Json.object fields).pretty ++ "\n", log⟩ ∧
        fields.lookup "success" = some (.bool true) ∧
        ((Json.object fields).isCounted = true →
          ∃ read, Json.read ending.output = some (.object read) ∧
            read.lookup "success" = some (.bool true))) ∨
      ∃ failure details, result = .error failure ∧
        ending = ⟨1, "", log ++ ((failureBody details).pretty ++ "\n")⟩ ∧
        Json.read ((failureBody details).pretty ++ "\n") = some (failureBody details) ∧
        details.lookup "message" =
          some (.string (": ".intercalate (failure.causes.map Cause.text))) ∧
        (∀ error, .ledger error ∈ failure.causes → TellsCode details error) ∧
        ((∀ error, .ledger error ∉ failure.causes) →
          TellsNoCode details ∧ failure.IsOfFiles request)) ∧
    (environment.logging.OnlyErrors → log = "") ∧
    (environment.logging.filter = none → environment.logging.detailed = false → verbose = false →
      ∀ event ∈ environment.logging.shown verbose events,
        event.entry.level = .warn ∨ ∃ key, event = .assetDeleted key) := by
  intro result ending events log
  have hending : ending = (Ending.ofResult .json result).logged log := by
    rw [← hmode]
    exact run_of_call hcall sources environment workspace
  refine ⟨?_, fun honly => honly.write_eq_empty verbose events, fun hfilter hdetailed hquiet =>
    hquiet ▸ Logging.shown_of_default hfilter hdetailed events⟩
  clear_value ending log
  subst hending
  cases hresult : result with
  | ok report =>
      obtain ⟨fields, hfields, hfresh⟩ := report.json_eq_success
      have hdepth : (success fields).depth ≤ Json.deepest := by
        rw [← hfields]
        exact Nat.le_trans report.depth_json_le (by decide)
      have hending : (Ending.ofResult .json (.ok report)).logged log =
          ⟨0, (success fields).pretty ++ "\n", log⟩ := by
        rw [← hfields]
        exact Ending.logged_success log _
      refine Or.inl ⟨report, _, rfl, hfields, hending, rfl, fun hcounted => ?_⟩
      rw [hending]
      exact Json.read_success hfresh hdepth hcounted
  | error failure =>
      have hcode (error : LedgerError) (h : .ledger error ∈ failure.causes) :=
        Failure.tellsCode_details h
      have hfiles (hnone : ∀ error, .ledger error ∉ failure.causes) :
          failure.IsOfFiles request := by
        rcases failsAs_perform sources request workspace failure hresult with ⟨error, rfl⟩ | hfiles
        · exact absurd (List.mem_singleton_self _) (hnone error)
        · exact hfiles
      exact Or.inr ⟨failure, failure.details, rfl, rfl, failure.read_json, failure.message_details,
        hcode, fun hnone => ⟨Failure.tellsNoCode_details hnone, hfiles hnone⟩⟩

/-- Surroundings that name nothing, except perhaps a filter for the log. -/
def bareEnvironment (filter : Option LogFilter) : Environment :=
  ⟨none, false, false, filter, false, fun _ event => event.entry.line⟩

theorem onlyErrors_bareEnvironment :
    (bareEnvironment (some (.upTo .error))).logging.OnlyErrors := by
  refine ⟨_, rfl, fun event hevent => ?_⟩
  cases hlevel : event.entry.level <;> simp [LogFilter.upTo, hlevel, LogLevel.detail] at hevent ⊢

/-- A directory without a project. -/
def bareDirectory : Workspace :=
  ⟨"/work", ["work"], none, .empty⟩

/-- In such a directory a project is set up, and before that nothing can be asked for. -/
theorem bare_directory_answers :
    let sources : Sources := ⟨"t0", Identifier.sequence 1 1⟩
    let environment := bareEnvironment (some (.upTo .error))
    let ending := fun words => (run sources environment words bareDirectory).1
    readCall ["init", "--json"] = .ok ⟨.perform (.setUp false), some .json, false⟩ ∧
    readCall ["refs", "logo", "-v", "--json"] =
      .ok ⟨.perform (.references (some "logo")), some .json, true⟩ ∧
    outputMode environment (some .json) bareDirectory = .json ∧
    (∃ read, Json.read (ending ["init", "--json"]).output = some (.object read) ∧
      read.lookup "success" = some (.bool true)) ∧
    (ending ["init", "--json"]).errors = "" ∧
    ∃ details, Json.read (ending ["refs", "logo", "-v", "--json"]).errors =
        some (failureBody details) ∧
      TellsCode details (.notInitialized "/work/.tagboard/tagboard.db") := by
  intro sources environment ending
  have hcall : readCall ["init", "--json"] = .ok ⟨.perform (.setUp false), some .json, false⟩ := rfl
  have hrefs : readCall ["refs", "logo", "-v", "--json"] =
    .ok ⟨.perform (.references (some "logo")), some .json, true⟩ := rfl
  have hmode : outputMode environment (some .json) bareDirectory = .json := by decide +kernel
  have honly : environment.logging.OnlyErrors := onlyErrors_bareEnvironment
  have hdone : ((perform sources (.setUp false)).run bareDirectory).1.map (·.json.isCounted) =
      .ok true := by
    decide +kernel
  have hmissing : ((perform sources (.references (some "logo"))).run bareDirectory).1.map
      (·.json.isCounted) = .error (.coded (.notInitialized "/work/.tagboard/tagboard.db")) := by
    decide +kernel
  obtain ⟨hset, hquiet, -⟩ := run_prints_one_object sources hcall hmode
  obtain ⟨hasked, hhushed, -⟩ := run_prints_one_object sources hrefs hmode
  rcases hset with ⟨report, fields, hresult, hfields, hending, -, hread⟩ | ⟨failure, -, hresult, -⟩
  · rw [hresult] at hdone
    have hcounted : report.json.isCounted = true := Except.ok.inj hdone
    rw [hfields] at hcounted
    refine ⟨hcall, hrefs, hmode, hread hcounted, ?_, ?_⟩
    · rw [hquiet honly] at hending
      exact congrArg Ending.errors hending
    · rcases hasked with
        ⟨report, -, hresult, -⟩ | ⟨failure, details, hresult, hending, hread, -, hcode, -⟩
      · rw [hresult] at hmissing
        cases hmissing
      · rw [hresult] at hmissing
        cases hmissing
        refine ⟨details, ?_, hcode _ (List.mem_singleton_self _)⟩
        rw [hhushed honly, String.empty_append] at hending
        have herrors := congrArg Ending.errors hending
        exact (congrArg Json.read herrors).trans hread
  · rw [hresult] at hdone
    cases hdone

/-- All that is printed is one object, which says whether the run has succeeded. -/
def Ending.IsOneObject (ending : Ending) : Prop :=
  (ending.status = 0 ∧ ending.errors = "" ∧ ∃ read,
    Json.read ending.output = some (.object read) ∧
      read.lookup "success" = some (.bool true)) ∨
  (ending.status = 1 ∧ ending.output = "" ∧ ∃ read,
    Json.read ending.errors = some (.object read) ∧
      read.lookup "success" = some (.bool false))

/-- A project with one asset, to which no chart refers. -/
def assetDirectory : Workspace :=
  let row : AssetRow := ⟨.text "media", .text "Logo", none, .text "t0", .text "t0"⟩
  let store := { (Store.blank.migrate "t0").2 with assets := some (.ofList [("logo", row)]) }
  let files : Files := .empty
  ⟨"/work", ["work"], none,
    files.put ["work", storeDirectory, storeFileName] (.store store true none)⟩

/-- By default the log has a line about an asset that is deleted, so that more is printed than the
object.  And the version is no object, for it is the same text in every mode. -/
theorem deletion_logged_beside_object : ¬ (∀ (sources : Sources) (environment : Environment)
      (words : List String) (workspace : Workspace) (request : Request)
      (flag : Option OutputMode) (verbose : Bool),
      readCall words = .ok ⟨.perform request, flag, verbose⟩ →
      outputMode environment flag workspace = .json →
      (run sources environment words workspace).1.IsOneObject) ∧
    ∀ (sources : Sources) (environment : Environment) (workspace : Workspace),
      ¬ (run sources environment ["--json", "--version"] workspace).1.IsOneObject := by
  constructor
  · intro h
    let ending := (run sampleSources (bareEnvironment none) ["assets", "rm", "logo", "--json"]
      assetDirectory).1
    have hstatus : ending.status = 0 := by decide +kernel
    have herrors : ending.errors = "INFO tagboard_core::db::assets: deleted content asset\n" := by
      decide +kernel
    rcases h sampleSources (bareEnvironment none) ["assets", "rm", "logo", "--json"]
      assetDirectory (.removeAsset "logo" false) (some .json) false rfl (by decide +kernel) with
      ⟨-, hnone, -⟩ | ⟨hone, -⟩
    · exact absurd (herrors.symm.trans hnone) (by decide)
    · cases hstatus.symm.trans hone
  · rintro sources environment workspace (⟨-, -, read, hobject, -⟩ | ⟨hone, -⟩)
    · have hread : Json.read (unlines [versionText]) = none := by decide +kernel
      cases hread.symm.trans hobject
    · cases hone

end TagLedger.CommandLine
