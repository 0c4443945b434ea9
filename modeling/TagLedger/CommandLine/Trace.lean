import TagLedger.CommandLine.Log
import TagLedger.CommandLine.Perform

/-!
# What is logged

The events of a run, in their order.  They follow from what the run reads and from how each of its
operations ends.
-/

namespace TagLedger

open CommandLine (LogEvent)

/-! ## Stores -/

def StoreFile.version : StoreFile → Int
  | .store content _ => content.version
  | _ => Store.blank.version

/-- The migrations that bring a store from one version to another. -/
def migrationEvents (before after : Int) : List LogEvent :=
  ([1, latestVersion].filter fun version : Nat => before < version && version ≤ after).map
    .migrationApplied

/-- Both a store that cannot be opened and one without metadata are warned of. -/
def openingWarnings (path : String) : Except OpenFailure Store → List LogEvent
  | .error failure => [.openFailed path failure]
  | .ok store => if store.hasMetadata then [] else [.metadataUnreadable path]

def StoreFile.openingEvents (now path : String) (file : StoreFile) : List LogEvent :=
  match file with
  | .absent => []
  | file =>
      let (result, opened) := file.openStore now
      migrationEvents file.version opened.version ++ openingWarnings path result

def Workspace.openingEvents (now : String) (workspace : Workspace) : List LogEvent :=
  match workspace.storeFile with
  | .absent => []
  | file =>
      let (result, opened) := workspace.createStore now
      migrationEvents file.version opened.storeFile.version ++
        openingWarnings workspace.storePath result

/-! ## Documents, tags and assets -/

namespace Store

/-- The documents that a scan comes to: those before the first that cannot be read. -/
def visited (collection : Collection) (store : Store) : List StoredDocument :=
  let rows := ((store.documents collection).map (·.rows)).getD []
  ((rows.map readDocument).takeWhile (·.isOk)).filterMap (·.toOption)

def projectEvent? (stored : StoredDocument) : Option LogEvent :=
  if (Json.read stored.body).isNone then some (.projectSkipped stored.id) else none

def usageScanEvents (store : Store) : List LogEvent :=
  (store.visited .projects).filterMap projectEvent? ++
    match store.scanUsage with
    | .error _ => []
    | .ok scan => [.usageScanned scan.scanned scan.skipped scan.counts.size]

/-- Nothing is said of tags that are all found at once. -/
def resolutionEvents (candidates : Nat → String) (now : String) (tags : List String)
    (store : Store) : List LogEvent :=
  match tags.mapM canonicalOrInvalid, store.slugs, store.resolveAll candidates now tags with
  | .ok canonical, some table, (.ok _, after) =>
      let requested := orderedSet canonical
      let missed := requested.filter fun tag => !table.contains tag
      let created := (after.slugs.getD .empty).size - table.size
      if missed.isEmpty then [] else [.slugsResolved requested.length missed.length created]
  | _, _, _ => []

def hashtagUsageEvents (candidates : Nat → String) (now : String) (store : Store) :
    List LogEvent :=
  store.usageScanEvents ++
    match store.scanUsage with
    | .error _ => []
    | .ok scan =>
        store.resolutionEvents candidates now scan.counts.keys ++
          match (store.resolveAll candidates now scan.counts.keys).1 with
          | .error _ => []
          | .ok slugs =>
              ((scan.ranked.map (·.1)).filter fun tag => !slugs.contains tag).map .slugMissing

def chartEvent? (key : String) (stored : StoredDocument) : Option LogEvent :=
  match Json.read stored.body with
  | none => some (.chartSkipped stored.id)
  | some definition =>
      if (Reference.scanDefinition definition stored.id key).isNone then
        some (.elementsMissing stored.id)
      else none

def referenceScanEvents (key : String) (store : Store) : List LogEvent :=
  (store.visited .charts).filterMap (chartEvent? key) ++
    match store.scanReferences key with
    | .error _ => []
    | .ok scan => [.referencesScanned key scan.scanned scan.skipped scan.usageCount]

def referenceUsageEvents (key : Option String) (store : Store) : List LogEvent :=
  let key := Text.trim (key.getD "")
  if key.isEmpty then [] else store.referenceScanEvents key

def deletionEvents (key : String) (force : Bool) (store : Store) : List LogEvent :=
  match store.getAsset key with
  | .error _ => []
  | .ok asset =>
      store.referenceScanEvents asset.key ++
        match store.scanReferences asset.key, (store.deleteAsset key force).1 with
        | .ok scan, .ok report =>
            forcedEvents asset.key scan.usageCount ++ [.assetDeleted report.key]
        | .ok scan, .error _ => if force then forcedEvents asset.key scan.usageCount else []
        | .error _, _ => []
where
  forcedEvents (key : String) (usage : Nat) : List LogEvent :=
    if 0 < usage then [.referencedAssetDeleted key usage] else []

end Store

/-! ## Colors -/

namespace Board

def fetchEvent (dataset : String) : Cache.Fetched ColorTable → LogEvent
  | .ok _ => .fetchCompleted dataset
  | .error failure => .fetchFailed dataset failure

/-- A render that is served without a fetch is not logged. -/
def renderEvents (now : String) (consumer : Nat) (board : Board) : List LogEvent :=
  let (result, rendered) := board.render now consumer
  let file : StoreFile :=
    if board.cachePath = board.path then .store board.store true else .absent
  if rendered.cache.fetches = board.cache.fetches then []
  else file.openingEvents now board.cachePath ++ [fetchEvent board.cache.dataset result]

def settingEvents (now tag color : String) (consumer : Nat) (board : Board) : List LogEvent :=
  match board.setColorAndInvalidate now tag color with
  | (.error _, _) => []
  | (.ok _, announced) =>
      .invalidationPublished colorDataset announced.bus.subscriberCount ::
        announced.renderEvents now consumer

end Board

namespace CommandLine

/-! ## Requests -/

section Requests

variable (sources : Sources) (workspace : Workspace)

def setUpEvents (force : Bool) : List LogEvent :=
  let (result, final) := (setUp sources force).run workspace
  migrationEvents workspace.storeFile.version final.storeFile.version ++
    match result with
    | .ok (.initialized path _ version) => [.storeInitialized path version]
    | _ => []

/-- What is logged of a store once it has been opened comes after its opening. -/
def openedEvents (events : Store → Workspace → List LogEvent) : List LogEvent :=
  workspace.openingEvents sources.now ++
    match workspace.openStore sources.now with
    | (.error _, _) => []
    | (.ok store, opened) => events store opened

def batchEvents (collection : Collection) (path : Option String) :
    Except LedgerError Nat → List LogEvent
  | .error _ => []
  | .ok count =>
      path.toList.flatMap fun path =>
        [.documentsWritten collection count, .documentsLoaded path count collection]

def batchesEvents (projects charts : Option String) (read : Option (List Json) × Option (List Json))
    (store : Store) : List LogEvent :=
  match loadBatch sources 0 .projects read.1 store with
  | (.error _, _) => []
  | (.ok count, store) =>
      batchEvents .projects projects (.ok count) ++
        batchEvents .charts charts (loadBatch sources count .charts read.2 store).1

def loadEvents (projects charts : Option String) : List LogEvent :=
  if projects.isNone && charts.isNone then []
  else
    openedEvents sources workspace fun store opened =>
      let reading : Task (Option (List Json) × Option (List Json)) := do
        return (← readOptional projects, ← readOptional charts)
      match (reading.run opened).1 with
      | .error _ => []
      | .ok read => batchesEvents sources projects charts read store

def savedAssetEvents (result : Except LedgerError ContentAsset) : List LogEvent :=
  match result with
  | .error _ => []
  | .ok asset => [.assetSaved asset.key asset.kind]

def colorEvents (events : Nat → Board → List LogEvent)
    (display : String → Nat → Board → Except LedgerError (List ColorRow) × Board) :
    List LogEvent :=
  match workspace.settings with
  | .error _ => []
  | .ok settings =>
      openedEvents sources workspace fun store opened =>
        let (consumer, board) := (Board.new opened.storePath opened.storePath store).mount
        events consumer board ++
          match display settings.fallbackColor consumer board with
          | (.error _, _) => []
          | (.ok _, served) => [.colorsServed served.cache.fetches]

def requestEvents : Request → List LogEvent
  | .setUp force => setUpEvents sources workspace force
  | .load projects charts => loadEvents sources workspace projects charts
  | .hashtags _ _ =>
      match workspace.settings with
      | .error _ => []
      | .ok _ =>
          openedEvents sources workspace fun store _ =>
            store.hashtagUsageEvents sources.candidates sources.now
  | .resolveSlugs tags =>
      openedEvents sources workspace fun store _ =>
        store.resolutionEvents sources.candidates sources.now tags
  | .showSlug _ | .listSlugs | .listAssets => openedEvents sources workspace fun _ _ => []
  | .references key => openedEvents sources workspace fun store _ => store.referenceUsageEvents key
  | .addAsset key kind title content =>
      openedEvents sources workspace fun store _ =>
        savedAssetEvents (store.upsertAsset sources.now key kind title content).1
  | .removeAsset key force =>
      openedEvents sources workspace fun store _ => store.deletionEvents key force
  | .setColor tag color =>
      colorEvents sources workspace (Board.settingEvents sources.now tag color)
        (setColor sources.now tag color)
  | .listColors tags =>
      colorEvents sources workspace (Board.renderEvents sources.now) (listColors sources.now tags)

end Requests

/-! ## Runs -/

/-- Why the settings of the user are ignored, if they are. -/
def ignoredSettings? (workspace : Workspace) : Option SettingsFailure := do
  let path ← workspace.userSettings
  let place := (workspace.files.followPath workspace.project path).toOption
  match UserSettings.load path (place.bind workspace.files.node?) with
  | .error failure => some failure
  | .ok _ => none

def failureEvents : Except Failure Report → List LogEvent
  | .error failure => [.commandFailed failure]
  | .ok _ => []

def demandEvents (sources : Sources) (workspace : Workspace) : Demand → List LogEvent
  | .complete _ => []
  | .perform request =>
      requestEvents sources workspace request ++
        failureEvents ((perform sources request).run workspace).1

def callEvents (sources : Sources) (call : Call) (workspace : Workspace) : List LogEvent :=
  (if call.verbose then [.verboseEnabled] else []) ++
    (ignoredSettings? workspace).toList.map .settingsIgnored ++
      demandEvents sources workspace call.demand

end CommandLine

end TagLedger
