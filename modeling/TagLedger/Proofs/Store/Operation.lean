import TagLedger.Proofs.Registry.Entries
import TagLedger.Proofs.Store.Migration
import TagLedger.Proofs.Store.Program
import TagLedger.Store.Asset
import TagLedger.Store.Color
import TagLedger.Store.Opening
import TagLedger.Store.Usage

/-!
# Operations as programs

Every operation on a store is a program of statements and transactions, each of which is atomic.
A program that runs alone is the operation itself; among others, what it read may be out of date
when it takes its next step.
-/

namespace TagLedger

/-- A call of a store, with the fresh identifiers and the time that it draws.  The last two are no
calls but happen to a store from outside: writes begin or cease to be refused, and the recorded
version is set to another one. -/
inductive Operation where
  | resolve (tag candidate now : String)
  | resolveAll (tags : List String) (candidates : Nat → String) (now : String)
  | hashtagUsage (options : UsageOptions) (candidates : Nat → String) (now : String)
  | lookupSlug (slug : String)
  | findTag (tag : String)
  | listEntries
  | upsertDocuments (collection : Collection) (documents : List Json) (candidates : Nat → String)
      (now : String)
  | setColor (tag color now : String)
  | upsertAsset (key : String) (kind : AssetKind) (title : String) (content : Option String)
      (now : String)
  | deleteAsset (key : String) (force : Bool)
  | migrate (now : String)
  | reopen (root now : String) (logged : Bool)
  | setRefusal (refusal : Option StoreFault)
  | setVersion (version : Int)

inductive Answer where
  | slug (result : Except LedgerError String)
  | slugs (result : Except LedgerError (Table String))
  | usage (result : Except LedgerError UsageReport)
  | entry (result : Except LedgerError SlugEntry)
  | found (result : Except LedgerError (Option SlugEntry))
  | entries (result : Except LedgerError (List SlugEntry))
  | identifiers (result : Except LedgerError (List String))
  | tag (result : Except LedgerError String)
  | asset (result : Except LedgerError ContentAsset)
  | deletion (result : Except LedgerError DeleteReport)
  | version (result : Except StoreFault Nat)
  | opened (result : Except LedgerError Unit)
  | nothing

namespace Store

/-! ## Resolution -/

def registerTag (candidate now canonical : String) (store : Store) :
    Except StoreFault Unit × Store :=
  match store.registry.bind fun table =>
      store.attempt (insertSlug now canonical candidate table) with
  | .error fault => (.error fault, store)
  | .ok table => (.ok (), store.withRegistry table)

def readSlug (canonical : String) (store : Store) : Except LedgerError String :=
  match store.registry with
  | .error fault => .error (.store fault)
  | .ok table =>
      match table.find? canonical with
      | some row => .ok row.slug
      | none => .error (.store .noRows)

def resolveProgram (candidate now tag : String) : Program Store (Except LedgerError String) :=
  match canonicalOrInvalid tag with
  | .error error => .done (.error error)
  | .ok canonical =>
      (Program.atomic (registerTag candidate now canonical)).bind fun
        | .error fault => .done (.error (.store fault))
        | .ok () => .read (readSlug canonical)

theorem run_resolveProgram (candidate now tag : String) (store : Store) :
    (resolveProgram candidate now tag).run store = store.resolve candidate now tag := by
  unfold resolveProgram resolve
  cases canonicalOrInvalid tag with
  | error error => rfl
  | ok canonical =>
      simp only [Program.run_bind, Program.run_atomic, registerTag]
      cases store.registry.bind fun table =>
          store.attempt (insertSlug now canonical candidate table) with
      | error fault => rfl
      | ok table =>
          simp only [Program.run_read, readSlug, registry, withRegistry, require]
          cases table.find? canonical <;> rfl

/-- Each piece of a look-up is a statement of its own. -/
def lookupProgram : List (List String) → Table String →
    Program Store (Except StoreFault (Table String))
  | [], found => .done (.ok found)
  | piece :: rest, found =>
      (Program.read registry).bind fun
        | .error fault => .done (.error fault)
        | .ok table => lookupProgram rest (lookupTags table found piece)

theorem run_lookupProgram_of_ok {store : Store} {table : Table SlugRow}
    (htable : store.registry = .ok table) (pieces : List (List String)) (found : Table String) :
    (lookupProgram pieces found).run store =
      (.ok (pieces.foldl (lookupTags table) found), store) := by
  induction pieces generalizing found with
  | nil => rfl
  | cons piece rest ih => simp [lookupProgram, htable, ih]

theorem run_lookupProgram_of_error {store : Store} {fault : StoreFault}
    (hfault : store.registry = .error fault) {pieces : List (List String)} (h : pieces ≠ [])
    (found : Table String) :
    (lookupProgram pieces found).run store = (.error fault, store) := by
  cases pieces with
  | nil => exact absurd rfl h
  | cons piece rest => simp [lookupProgram, hfault]

/-- The transaction that inserts what a look-up missed and reads it back. -/
def registerMisses (candidates : Nat → String) (now : String) (misses : List String)
    (found : Table String) (store : Store) : Except LedgerError (Table String) × Store :=
  match store.registry.bind fun table =>
      store.attempt (insertSlugs candidates now misses table) with
  | .error fault => (.error (.store fault), store)
  | .ok table => (.ok (lookupChunked lookupChunk table misses found), store.withRegistry table)

def resolveMisses (candidates : Nat → String) (now : String) (tags : List String)
    (found : Table String) : Program Store (Except LedgerError (Table String)) :=
  let misses := tags.filter fun tag => !found.contains tag
  if misses.isEmpty then .done (.ok found)
  else .atomic (registerMisses candidates now misses found)

private theorem run_resolveMisses {store : Store} {table : Table SlugRow}
    (htable : store.registry = .ok table) (candidates : Nat → String) (now : String)
    (tags : List String) (found : Table String) :
    (resolveMisses candidates now tags found).run store =
      let misses := tags.filter fun tag => !found.contains tag
      if misses.isEmpty then (.ok found, store)
      else
        match store.attempt (insertSlugs candidates now misses table) with
        | .error fault => (.error (.store fault), store)
        | .ok table =>
            (.ok (lookupChunked lookupChunk table misses found), store.withRegistry table) := by
  by_cases hmisses : (tags.filter fun tag => !found.contains tag).isEmpty = true
  · simp only [resolveMisses, if_pos hmisses, Program.run_done]
  · simp only [resolveMisses, if_neg hmisses, Program.run_atomic, registerMisses, htable,
      Except.bind]

def resolveCanonicalProgram (candidates : Nat → String) (now : String) (tags : List String) :
    Program Store (Except LedgerError (Table String)) :=
  (lookupProgram (chunks lookupChunk tags) .empty).bind fun
    | .error fault => .done (.error (.store fault))
    | .ok found => resolveMisses candidates now tags found

theorem run_resolveCanonicalProgram (candidates : Nat → String) (now : String)
    (tags : List String) (store : Store) :
    (resolveCanonicalProgram candidates now tags).run store =
      store.resolveCanonical candidates now tags := by
  unfold resolveCanonicalProgram resolveCanonical
  by_cases htags : tags = []
  · subst htags
    simp [chunks_nil, lookupProgram, resolveMisses]
  · rw [if_neg (by simpa using htags), Program.run_bind]
    cases htable : store.registry with
    | error fault =>
        rw [run_lookupProgram_of_error htable (chunks_ne_nil lookupChunk htags)]
        rfl
    | ok table =>
        rw [run_lookupProgram_of_ok htable]
        exact run_resolveMisses htable candidates now tags _

def resolveAllProgram (candidates : Nat → String) (now : String) (tags : List String) :
    Program Store (Except LedgerError (Table String)) :=
  match tags.mapM canonicalOrInvalid with
  | .error error => .done (.error error)
  | .ok canonical => resolveCanonicalProgram candidates now (orderedSet canonical)

theorem run_resolveAllProgram (candidates : Nat → String) (now : String) (tags : List String)
    (store : Store) :
    (resolveAllProgram candidates now tags).run store = store.resolveAll candidates now tags := by
  unfold resolveAllProgram resolveAll
  cases tags.mapM canonicalOrInvalid with
  | error error => rfl
  | ok canonical => exact run_resolveCanonicalProgram candidates now (orderedSet canonical) store

/-! ## Usage -/

def hashtagUsageProgram (candidates : Nat → String) (now : String) (options : UsageOptions) :
    Program Store (Except LedgerError UsageReport) :=
  (Program.read scanUsage).bind fun
    | .error error => .done (.error error)
    | .ok scan =>
        (resolveAllProgram candidates now scan.counts.keys).map fun
          | .error error => .error error
          | .ok slugs => .ok (scan.report slugs options)

theorem run_hashtagUsageProgram (candidates : Nat → String) (now : String)
    (options : UsageOptions) (store : Store) :
    (hashtagUsageProgram candidates now options).run store =
      store.hashtagUsage candidates now options := by
  simp only [hashtagUsageProgram, hashtagUsage, Program.run_bind, Program.run_read]
  cases store.scanUsage with
  | error error => rfl
  | ok scan =>
      simp only [Program.run_map, run_resolveAllProgram]
      cases store.resolveAll candidates now scan.counts.keys with
      | mk result after => cases result <;> rfl

/-! ## Assets -/

def putAsset (now key : String) (kind : AssetKind) (title : String) (content : Option String)
    (store : Store) : Except StoreFault Unit × Store :=
  match (require .assets store.assets).bind fun table =>
      store.attempt (writeAsset now key kind title content table) with
  | .error fault => (.error fault, store)
  | .ok table => (.ok (), { store with assets := some table })

def upsertAssetProgram (now key : String) (kind : AssetKind) (title : String)
    (content : Option String) : Program Store (Except LedgerError ContentAsset) :=
  match requiredKey key with
  | .error error => .done (.error error)
  | .ok key =>
      (Program.atomic (putAsset now key kind title content)).bind fun
        | .error fault => .done (.error (.store fault))
        | .ok () => .read (getAsset key)

theorem run_upsertAssetProgram (now key : String) (kind : AssetKind) (title : String)
    (content : Option String) (store : Store) :
    (upsertAssetProgram now key kind title content).run store =
      store.upsertAsset now key kind title content := by
  unfold upsertAssetProgram upsertAsset
  cases requiredKey key with
  | error error => rfl
  | ok key =>
      simp only [Program.run_bind, Program.run_atomic, putAsset]
      cases (require .assets store.assets).bind fun table =>
          store.attempt (writeAsset now key kind title content table) <;> rfl

def removeAsset (key : String) (store : Store) : Except StoreFault Unit × Store :=
  match store.attempt (.ok (store.eraseAsset key)) with
  | .error fault => (.error fault, store)
  | .ok store => (.ok (), store)

def deleteAssetProgram (key : String) (force : Bool) :
    Program Store (Except LedgerError DeleteReport) :=
  (Program.read (getAsset key)).bind fun
    | .error error => .done (.error error)
    | .ok asset =>
        (Program.read (scanReferences asset.key)).bind fun
          | .error error => .done (.error error)
          | .ok scan =>
              if 0 < scan.usageCount ∧ force = false then
                .done (.error (.assetInUse asset.key scan.usageCount))
              else
                (Program.atomic (removeAsset asset.key)).map fun
                  | .error fault => .error (.store fault)
                  | .ok () => .ok ⟨asset.key, scan.hits⟩

theorem run_deleteAssetProgram (key : String) (force : Bool) (store : Store) :
    (deleteAssetProgram key force).run store = store.deleteAsset key force := by
  simp only [deleteAssetProgram, deleteAsset, Program.run_bind, Program.run_read]
  cases store.getAsset key with
  | error error => rfl
  | ok asset =>
      simp only [Program.run_bind, Program.run_read]
      cases store.scanReferences asset.key with
      | error error => rfl
      | ok scan =>
          dsimp only
          split
          · rfl
          · simp only [Program.run_map, Program.run_atomic, removeAsset]
            cases store.attempt (.ok (store.eraseAsset asset.key)) <;> rfl

/-! ## Migration -/

def upgradeTo (now : String) (version : Nat) (store : Store) : Except StoreFault Unit × Store :=
  match upgrade now store version with
  | .error fault => (.error fault, store)
  | .ok store => (.ok (), store)

/-- Each pending migration is a transaction.  Which ones are pending is decided by the version that
was read at the beginning and raised since, whatever others have done to the store. -/
def upgradeProgram (now : String) : List Nat → Nat → Program Store (Except StoreFault Nat)
  | [], current => .done (.ok current)
  | version :: rest, current =>
      if version ≤ current then upgradeProgram now rest current
      else
        (Program.atomic (upgradeTo now version)).bind fun
          | .error fault => .done (.error fault)
          | .ok () => upgradeProgram now rest version

def migrateProgram (now : String) : Program Store (Except StoreFault Nat) :=
  (Program.read schemaVersion).bind fun
    | .error fault => .done (.error fault)
    | .ok current => upgradeProgram now [1, latestVersion] current

theorem run_upgradeProgram (now : String) (versions : List Nat) {store : Store} {current : Nat}
    (hcurrent : store.version = current) :
    (upgradeProgram now versions current).run store = store.upgradeThrough now versions := by
  induction versions generalizing store current with
  | nil => simp [upgradeProgram, upgradeThrough, schemaVersion_eq_ok_iff.mpr hcurrent]
  | cons version rest ih =>
      simp only [upgradeProgram, upgradeThrough, hcurrent, Int.ofNat_le]
      split
      · exact ih hcurrent
      · simp only [Program.run_bind, Program.run_atomic, upgradeTo]
        cases hupgrade : upgrade now store version with
        | error fault => rfl
        | ok after => exact ih (version_of_upgrade hupgrade)

theorem run_migrateProgram (now : String) (store : Store) :
    (migrateProgram now).run store = store.migrate now := by
  simp only [migrateProgram, migrate, Program.run_bind, Program.run_read]
  cases hversion : store.schemaVersion with
  | error fault => rfl
  | ok current => exact run_upgradeProgram now _ (schemaVersion_eq_ok_iff.mp hversion)

/-! ## Reopening -/

def setUpLog (root : String) (logged : Bool) (store : Store) : Except LedgerError Unit :=
  if !logged && store.refusesLog then .error (.corruptStore (storePath root)) else .ok ()

def reopenProgram (root now : String) (logged : Bool) : Program Store (Except LedgerError Unit) :=
  (Program.read (setUpLog root logged)).bind fun
    | .error error => .done (.error error)
    | .ok () =>
        (migrateProgram now).bind fun
          | .error _ => .done (.error (.corruptStore (storePath root)))
          | .ok _ => .read fun store =>
              if store.hasMetadata then .ok () else .error (.corruptStore (storePath root))

end Store

def StoreFile.contentOr (store : Store) : StoreFile → Store
  | .store content _ => content
  | _ => store

namespace Store

def reopen (root now : String) (logged : Bool) (store : Store) : Outcome Unit :=
  let (result, file) := (StoreFile.store store logged).openProjectStore now root
  (result.map fun _ => (), file.contentOr store)

theorem run_reopenProgram (root now : String) (logged : Bool) (store : Store) :
    (reopenProgram root now logged).run store = store.reopen root now logged := by
  simp only [reopenProgram, reopen, StoreFile.openProjectStore, StoreFile.tryOpenStore,
    StoreFile.openStore, StoreFile.migrateContent, Program.run_bind, Program.run_read, setUpLog]
  by_cases hrefused : (!logged && store.refusesLog) = true
  · simp only [if_pos hrefused]
    rfl
  · simp only [if_neg hrefused, Program.run_bind, run_migrateProgram]
    cases store.migrate now with
    | mk result after =>
        cases result with
        | error fault => rfl
        | ok version =>
            simp only [Program.run_read]
            cases after.hasMetadata <;> rfl

end Store

/-! ## Operations -/

namespace Operation

def perform (store : Store) : Operation → Answer × Store
  | .resolve tag candidate now => (store.resolve candidate now tag).map .slug id
  | .resolveAll tags candidates now => (store.resolveAll candidates now tags).map .slugs id
  | .hashtagUsage options candidates now =>
      (store.hashtagUsage candidates now options).map .usage id
  | .lookupSlug slug => (.entry (store.lookupSlug slug), store)
  | .findTag tag => (.found (store.findTag tag), store)
  | .listEntries => (.entries store.listEntries, store)
  | .upsertDocuments collection documents candidates now =>
      (store.upsertDocuments candidates now collection documents).map .identifiers id
  | .setColor tag color now => (store.setColor now tag color).map .tag id
  | .upsertAsset key kind title content now =>
      (store.upsertAsset now key kind title content).map .asset id
  | .deleteAsset key force => (store.deleteAsset key force).map .deletion id
  | .migrate now => (store.migrate now).map .version id
  | .reopen root now logged => (store.reopen root now logged).map .opened id
  | .setRefusal refusal => (.nothing, { store with refusal := refusal })
  | .setVersion version => (.nothing, { store with version := version })

/-- An operation as it is carried out while others are going on. -/
def program : Operation → Program Store Answer
  | .resolve tag candidate now => (Store.resolveProgram candidate now tag).map .slug
  | .resolveAll tags candidates now => (Store.resolveAllProgram candidates now tags).map .slugs
  | .hashtagUsage options candidates now =>
      (Store.hashtagUsageProgram candidates now options).map .usage
  | .lookupSlug slug => (Program.read (Store.lookupSlug slug)).map .entry
  | .findTag tag => (Program.read (Store.findTag tag)).map .found
  | .listEntries => (Program.read Store.listEntries).map .entries
  | .upsertDocuments collection documents candidates now =>
      (Program.atomic (Store.upsertDocuments candidates now collection documents)).map .identifiers
  | .setColor tag color now => (Program.atomic (Store.setColor now tag color)).map .tag
  | .upsertAsset key kind title content now =>
      (Store.upsertAssetProgram now key kind title content).map .asset
  | .deleteAsset key force => (Store.deleteAssetProgram key force).map .deletion
  | .migrate now => (Store.migrateProgram now).map .version
  | .reopen root now logged => (Store.reopenProgram root now logged).map .opened
  | .setRefusal refusal => .atomic fun store => (.nothing, { store with refusal := refusal })
  | .setVersion version => .atomic fun store => (.nothing, { store with version := version })

/-- A program that nothing interrupts is its operation. -/
theorem run_program (operation : Operation) (store : Store) :
    operation.program.run store = operation.perform store := by
  cases operation <;>
    simp only [program, perform, Prod.map, id_eq, Program.run_map, Program.run_atomic,
      Program.run_read, Store.run_resolveProgram, Store.run_resolveAllProgram,
      Store.run_hashtagUsageProgram, Store.run_upsertAssetProgram, Store.run_deleteAssetProgram,
      Store.run_migrateProgram, Store.run_reopenProgram]

end Operation

def Workload.start (store : Store) (operations : List Operation) : Workload Store Answer :=
  ⟨store, operations.map Operation.program⟩

end TagLedger
