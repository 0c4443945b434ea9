import TagLedger.Store.Migration

/-!
# What a migration keeps

An upgrade is one transaction.  It creates the tables that are missing, leaves those that are there,
and records its version.  A migration therefore keeps every row that it finds, and comes to a version
from which no further migration does anything.  Only its first upgrade can fail, because that one
leaves behind what the next one needs; so a migration that fails has not changed the store.
-/

namespace TagLedger

namespace Store

/-! ## Tables that are kept -/

/-- A table that was there is there as it was; one that was missing may have been created. -/
def Kept {ρ : Type} (held later : Option (Table ρ)) : Prop :=
  later = held ∨ held = none ∧ later = some .empty

theorem Kept.refl {ρ : Type} (held : Option (Table ρ)) : Kept held held :=
  Or.inl rfl

theorem Kept.trans {ρ : Type} {held middle later : Option (Table ρ)} (hfirst : Kept held middle)
    (hsecond : Kept middle later) : Kept held later := by
  rcases hsecond with rfl | ⟨hnone, rfl⟩
  · exact hfirst
  · rcases hfirst with rfl | ⟨-, hsome⟩
    · exact Or.inr ⟨hnone, rfl⟩
    · cases hnone.symm.trans hsome

theorem Kept.eq_some {ρ : Type} {held later : Option (Table ρ)} (h : Kept held later)
    {table : Table ρ} (htable : held = some table) : later = some table := by
  rcases h with rfl | ⟨hnone, -⟩
  · exact htable
  · cases hnone.symm.trans htable

theorem Kept.getD_eq {ρ : Type} {held later : Option (Table ρ)} (h : Kept held later) :
    later.getD .empty = held.getD .empty := by
  rcases h with rfl | ⟨rfl, rfl⟩ <;> rfl

theorem kept_createIfAbsent {ρ : Type} (held : Option (Table ρ)) :
    Kept held (createIfAbsent held) := by
  cases held with
  | none => exact Or.inr ⟨rfl, rfl⟩
  | some table => exact Or.inl rfl

/-- The five tables of rows are kept, and so is what stands in the way of writing. -/
structure KeepsRows (store after : Store) : Prop where
  projects : Kept store.projects after.projects
  charts : Kept store.charts after.charts
  slugs : Kept store.slugs after.slugs
  colors : Kept store.colors after.colors
  assets : Kept store.assets after.assets
  refusal : after.refusal = store.refusal

theorem KeepsRows.refl (store : Store) : KeepsRows store store :=
  ⟨.refl _, .refl _, .refl _, .refl _, .refl _, rfl⟩

theorem KeepsRows.trans {store middle after : Store} (hfirst : KeepsRows store middle)
    (hsecond : KeepsRows middle after) : KeepsRows store after where
  projects := hfirst.projects.trans hsecond.projects
  charts := hfirst.charts.trans hsecond.charts
  slugs := hfirst.slugs.trans hsecond.slugs
  colors := hfirst.colors.trans hsecond.colors
  assets := hfirst.assets.trans hsecond.assets
  refusal := hsecond.refusal.trans hfirst.refusal

/-! ## One upgrade -/

theorem schemaVersion_eq_ok_iff {store : Store} {version : Nat} :
    store.schemaVersion = .ok version ↔ store.version = version := by
  unfold schemaVersion
  split <;> simp only [reduceCtorEq, Except.ok.injEq, false_iff] <;> omega

theorem upgrade_cases {now : String} {store after : Store} {version : Nat}
    (h : upgrade now store version = .ok after) :
    ∃ upgraded, (store.toVersionOne now = .ok upgraded ∨ store.toVersionTwo = .ok upgraded) ∧
      after = recordVersion version upgraded := by
  have hmap {write : Except StoreFault Store} {version : Nat}
      (h : (store.attempt write).map (recordVersion version) = .ok after) :
      ∃ upgraded, write = .ok upgraded ∧ after = recordVersion version upgraded := by
    unfold attempt at h
    split at h
    · cases h
    · cases write with
      | error fault => cases h
      | ok upgraded =>
          cases h
          exact ⟨upgraded, rfl, rfl⟩
  unfold upgrade at h
  split at h
  · obtain ⟨upgraded, hwrite, hafter⟩ := hmap h
    exact ⟨upgraded, Or.inl hwrite, hafter⟩
  · obtain ⟨upgraded, hwrite, hafter⟩ := hmap h
    exact ⟨upgraded, Or.inr hwrite, hafter⟩

theorem keepsRows_upgrade {now : String} {store after : Store} {version : Nat}
    (h : upgrade now store version = .ok after) : KeepsRows store after := by
  obtain ⟨upgraded, hone | htwo, rfl⟩ := upgrade_cases h
  · cases hone
    exact ⟨kept_createIfAbsent _, kept_createIfAbsent _, kept_createIfAbsent _, .refl _, .refl _, rfl⟩
  · unfold toVersionTwo at htwo
    split at htwo
    · cases htwo
    · cases htwo
      exact ⟨.refl _, .refl _, .refl _, kept_createIfAbsent _, kept_createIfAbsent _, rfl⟩

theorem version_of_upgrade {now : String} {store after : Store} {version : Nat}
    (h : upgrade now store version = .ok after) : after.version = version := by
  obtain ⟨upgraded, -, rfl⟩ := upgrade_cases h
  rfl

/-- The version that an upgrade records is also in the metadata, if there are any. -/
theorem schemaVersion_of_upgrade {now : String} {store after : Store} {version : Nat}
    (h : upgrade now store version = .ok after) {row : MetaRow}
    (hrow : after.metadata.join = some row) : row.schemaVersion = version := by
  obtain ⟨upgraded, -, rfl⟩ := upgrade_cases h
  rw [recordVersion] at hrow
  obtain ⟨held, hheld, rfl⟩ : ∃ held, upgraded.metadata.join = some held ∧
      ({ held with schemaVersion := version } : MetaRow) = row := by
    cases hmetadata : upgraded.metadata with
    | none => simp [hmetadata] at hrow
    | some held => simpa [hmetadata] using hrow
  rfl

theorem upgrade_of_refused {store : Store} {fault : StoreFault} (h : store.refusal = some fault)
    (now : String) (version : Nat) : upgrade now store version = .error fault := by
  unfold upgrade
  split <;> simp [attempt, h, Except.map]

/-- A store that can be written is given the tables of the first version. -/
theorem exists_upgrade_one {store : Store} (h : store.refusal = none) (now : String) :
    ∃ after, upgrade now store 1 = .ok after ∧ after.hasMetadata = true ∧
      ∀ name ∈ [TableName.projects, .charts, .slugs, .metadata], after.hasTable name = true := by
  obtain ⟨after, hafter⟩ : ∃ after, upgrade now store 1 = .ok after :=
    ⟨_, by rw [upgrade, attempt, h]; rfl⟩
  refine ⟨after, hafter, ?_⟩
  rw [upgrade, attempt, h] at hafter
  cases hafter
  simp [hasMetadata, hasTable, recordVersion, createIfAbsent]

theorem upgrade_two (now : String) (store : Store) : upgrade now store latestVersion =
    (store.attempt store.toVersionTwo).map (recordVersion latestVersion) :=
  rfl

theorem upgrade_two_of_missing {store : Store} (h : store.refusal = none)
    (hmetadata : store.metadata = none) (now : String) :
    upgrade now store latestVersion = .error (.noSuchTable .metadata) := by
  rw [upgrade_two, attempt, h, toVersionTwo, hmetadata]
  rfl

/-- With its metadata, a store that can be written is given the tables of the second version. -/
theorem exists_upgrade_two {store : Store} (h : store.refusal = none) {row : Option MetaRow}
    (hmetadata : store.metadata = some row) (now : String) :
    ∃ after, upgrade now store latestVersion = .ok after ∧
      after.hasMetadata = store.hasMetadata ∧
      ∀ name, store.hasTable name = true ∨ name ∈ [TableName.colors, .assets] →
        after.hasTable name = true := by
  obtain ⟨after, hafter⟩ : ∃ after, upgrade now store latestVersion = .ok after :=
    ⟨_, by rw [upgrade_two, attempt, h, toVersionTwo, hmetadata]; rfl⟩
  refine ⟨after, hafter, ?_⟩
  rw [upgrade_two, attempt, h, toVersionTwo, hmetadata] at hafter
  cases hafter
  refine ⟨?_, fun name hname => ?_⟩
  · cases row <;> simp [hasMetadata, recordVersion, hmetadata]
  · cases name <;> simp_all [hasTable, recordVersion, createIfAbsent]

/-! ## The migration -/

/-- What keeps a store from being migrated: a negative version, or, as long as it is behind, that it
cannot be written or that it is at the first version without its metadata. -/
def migrationFault? (store : Store) : Option StoreFault :=
  if store.version < 0 then some .negativeVersion
  else if latestVersion ≤ store.version then none
  else if store.version = 1 ∧ store.metadata = none then
    store.refusal.or (some (.noSuchTable .metadata))
  else store.refusal

/-- What a migration that succeeds has made of a store. -/
structure Migrated (store after : Store) : Prop extends KeepsRows store after where
  version_eq : after.version = max store.version latestVersion
  recorded : store.version < latestVersion →
    ∀ row, after.metadata.join = some row → row.schemaVersion = latestVersion
  complete : store.version = 0 →
    after.hasMetadata = true ∧ ∀ name, after.hasTable name = true

variable {store : Store}

theorem migrate_of_negative (h : store.version < 0) (now : String) :
    store.migrate now = (.error .negativeVersion, store) := by
  rw [migrate, schemaVersion, if_pos h]

theorem migrate_of_schemaVersion {version : Nat} (h : store.version = version) (now : String) :
    store.migrate now = upgradeThrough now store [1, latestVersion] := by
  rw [migrate, schemaVersion_eq_ok_iff.mpr h]

theorem upgradeThrough_cons_of_le {version : Nat} (h : (version : Int) ≤ store.version)
    (now : String) (rest : List Nat) :
    upgradeThrough now store (version :: rest) = upgradeThrough now store rest := by
  rw [upgradeThrough, if_pos h]

theorem upgradeThrough_nil {version : Nat} (h : store.version = version) (now : String) :
    upgradeThrough now store [] = (.ok version, store) := by
  rw [upgradeThrough, schemaVersion_eq_ok_iff.mpr h]

theorem upgradeThrough_cons_of_error {version : Nat} (h : store.version < version) {now : String}
    {fault : StoreFault} (hupgrade : upgrade now store version = .error fault) (rest : List Nat) :
    upgradeThrough now store (version :: rest) = (.error fault, store) := by
  rw [upgradeThrough, if_neg (Int.not_le.mpr h), hupgrade]

theorem upgradeThrough_cons_of_ok {version : Nat} (h : store.version < version) {now : String}
    {after : Store} (hupgrade : upgrade now store version = .ok after) (rest : List Nat) :
    upgradeThrough now store (version :: rest) = upgradeThrough now after rest := by
  rw [upgradeThrough, if_neg (Int.not_le.mpr h), hupgrade]

/-- A store that is not behind is left as it is. -/
theorem migrate_of_latest {version : Nat} (hversion : store.version = version)
    (h : latestVersion ≤ version) (now : String) : store.migrate now = (.ok version, store) := by
  have hlatest : (latestVersion : Int) ≤ store.version := by omega
  have hone : ((1 : Nat) : Int) ≤ store.version := by
    rw [latestVersion] at hlatest
    omega
  rw [migrate_of_schemaVersion hversion, upgradeThrough_cons_of_le hone,
    upgradeThrough_cons_of_le hlatest, upgradeThrough_nil hversion]

/-- A migration does what it is for, or is kept from it and does nothing. -/
def MigrationResult (now : String) (store : Store) : Prop :=
  (∃ fault, store.migrationFault? = some fault ∧ store.migrate now = (.error fault, store)) ∨
    store.migrationFault? = none ∧ ∃ version after, store.migrate now = (.ok version, after) ∧
      after.version = version ∧ Migrated store after

/-- The last upgrade, on a store that has the first version. -/
theorem upgradeThrough_latest (h : store.version = (1 : Nat)) (now : String) :
    (∃ fault, store.migrationFault? = some fault ∧
      upgradeThrough now store [latestVersion] = (.error fault, store)) ∨
    store.migrationFault? = none ∧ ∃ after,
      upgradeThrough now store [latestVersion] = (.ok latestVersion, after) ∧
      upgrade now store latestVersion = .ok after ∧ after.hasMetadata = store.hasMetadata ∧
      ∀ name, store.hasTable name = true ∨ name ∈ [TableName.colors, .assets] →
        after.hasTable name = true := by
  have hbehind : store.version < latestVersion := by
    rw [h, latestVersion]
    decide
  have hfault : store.migrationFault? = if store.metadata = none then
      store.refusal.or (some (.noSuchTable .metadata)) else store.refusal := by
    simp [migrationFault?, h, latestVersion]
  rw [hfault]
  cases hrefusal : store.refusal with
  | some fault =>
      refine Or.inl ⟨fault, by simp, ?_⟩
      exact upgradeThrough_cons_of_error hbehind (upgrade_of_refused hrefusal now _) []
  | none =>
      cases hmetadata : store.metadata with
      | none =>
          refine Or.inl ⟨.noSuchTable .metadata, by simp, ?_⟩
          exact upgradeThrough_cons_of_error hbehind (upgrade_two_of_missing hrefusal hmetadata now) []
      | some row =>
          obtain ⟨after, hafter, htables⟩ := exists_upgrade_two hrefusal hmetadata now
          refine Or.inr ⟨by simp, after, ?_, hafter, htables⟩
          rw [upgradeThrough_cons_of_ok hbehind hafter, upgradeThrough_nil (version_of_upgrade hafter)]

theorem migrationResult_of_one (h : store.version = (1 : Nat)) (now : String) :
    MigrationResult now store := by
  have hmigrate : store.migrate now = upgradeThrough now store [latestVersion] := by
    rw [migrate_of_schemaVersion h, upgradeThrough_cons_of_le (by omega)]
  rw [MigrationResult, hmigrate]
  refine (upgradeThrough_latest h now).imp_right fun ⟨hfault, after, hthrough, hafter, _⟩ => ?_
  have hversion := version_of_upgrade hafter
  refine ⟨hfault, latestVersion, after, hthrough, hversion, keepsRows_upgrade hafter, ?_,
    fun _ _ hrow => schemaVersion_of_upgrade hafter hrow, fun hzero => ?_⟩
  · rw [hversion, h]
    decide
  · omega

theorem migrationResult_of_zero (h : store.version = (0 : Nat)) (now : String) :
    MigrationResult now store := by
  have hfault : store.migrationFault? = store.refusal := by
    simp [migrationFault?, h, latestVersion]
  have hbehind : store.version < (1 : Nat) := by omega
  rw [MigrationResult, migrate_of_schemaVersion h, hfault]
  cases hrefusal : store.refusal with
  | some fault =>
      refine Or.inl ⟨fault, rfl, ?_⟩
      exact upgradeThrough_cons_of_error hbehind (upgrade_of_refused hrefusal now 1) _
  | none =>
      obtain ⟨middle, hmiddle, hmetadata, htables⟩ := exists_upgrade_one hrefusal now
      have hfirst := keepsRows_upgrade hmiddle
      have hone := version_of_upgrade hmiddle
      -- The first upgrade has left the metadata, so that nothing stands in the way of the second.
      have hready : middle.migrationFault? = none := by
        have hsome : middle.metadata ≠ none := fun hnone => by
          simp [hasMetadata, hnone] at hmetadata
        simp [migrationFault?, hone, latestVersion, hfirst.refusal, hrefusal, hsome]
      rw [upgradeThrough_cons_of_ok hbehind hmiddle]
      rcases upgradeThrough_latest hone now with
        ⟨fault, hsome, -⟩ | ⟨-, after, hthrough, hafter, hmetadataAfter, htablesAfter⟩
      · cases hready.symm.trans hsome
      · have hversion := version_of_upgrade hafter
        refine Or.inr ⟨rfl, latestVersion, after, hthrough, hversion,
          hfirst.trans (keepsRows_upgrade hafter), ?_,
          fun _ _ hrow => schemaVersion_of_upgrade hafter hrow,
          fun _ => ⟨hmetadataAfter.trans hmetadata, fun name => htablesAfter name ?_⟩⟩
        · rw [hversion, h]
          decide
        · cases name <;> simp [htables]

theorem migrationResult (now : String) (store : Store) : MigrationResult now store := by
  by_cases hnegative : store.version < 0
  · refine Or.inl ⟨.negativeVersion, ?_, migrate_of_negative hnegative now⟩
    rw [migrationFault?, if_pos hnegative]
  · obtain ⟨version, hversion⟩ := Int.eq_ofNat_of_zero_le (Int.not_lt.mp hnegative)
    by_cases hlatest : latestVersion ≤ version
    · refine Or.inr ⟨?_, version, store, migrate_of_latest hversion hlatest now, hversion,
        .refl store, ?_, fun hbehind => ?_, fun hzero => ?_⟩
      · rw [migrationFault?, if_neg (by omega), if_pos (by omega)]
      · omega
      · omega
      · rw [latestVersion] at hlatest
        omega
    · rw [latestVersion] at hlatest
      rcases Nat.le_one_iff_eq_zero_or_eq_one.mp (Nat.le_of_lt_succ (Nat.lt_of_not_le hlatest)) with
        rfl | rfl
      · exact migrationResult_of_zero hversion now
      · exact migrationResult_of_one hversion now

theorem keepsRows_migrate (now : String) (store : Store) :
    KeepsRows store (store.migrate now).2 := by
  rcases migrationResult now store with
    ⟨fault, -, hmigrate⟩ | ⟨-, version, after, hmigrate, -, hmigrated⟩
  · rw [hmigrate]
    exact .refl store
  · rw [hmigrate]
    exact hmigrated.toKeepsRows

end Store

/-- Whatever a store holds and whichever version it says it has.  A migration that succeeds returns the
greater of that version and the latest, which the store has from then on.  It keeps the rows of the five
tables that hold any; a store that was behind has the latest version in its metadata as well, and one
that had none has all of its tables.  From there no migration does anything.  A migration that fails has
done nothing either, and it fails exactly where something stands in its way. -/
theorem migration_safe (now : String) (store : Store) :
    (∀ version after, store.migrate now = (.ok version, after) →
      (version : Int) = max store.version latestVersion ∧ after.version = version ∧
      store.Migrated after ∧ ∀ later, after.migrate later = (.ok version, after)) ∧
    (∀ fault after, store.migrate now = (.error fault, after) → after = store) ∧
    ∀ fault, (store.migrate now).1 = .error fault ↔ store.migrationFault? = some fault := by
  rcases Store.migrationResult now store with
    ⟨fault, hfault, hmigrate⟩ | ⟨hnone, version, after, hmigrate, hversion, hmigrated⟩
  · rw [hmigrate, hfault]
    refine ⟨fun version after hother => ?_, fun other after hother => ?_, fun other => by simp⟩
    · cases hother
    · cases hother
      rfl
  · have hmax : (version : Int) = max store.version latestVersion :=
      hversion.symm.trans hmigrated.version_eq
    have hlatest : latestVersion ≤ version := Int.ofNat_le.mp (hmax ▸ Int.le_max_right _ _)
    rw [hmigrate, hnone]
    refine ⟨fun other later hother => ?_, fun fault later hlater => ?_, fun fault => by simp⟩
    · cases hother
      exact ⟨hmax, hversion, hmigrated, Store.migrate_of_latest hversion hlatest⟩
    · cases hlater

/-- A store that was set back to the first version after it had lost its colors, and whose metadata
says that it comes from the future. -/
def setBack : Store :=
  { Store.blank with
    slugs := some (.ofList [("vip", ⟨"s-1", "t0", "t0"⟩)])
    assets := some (.ofList
      [("logo", ⟨.text "media", .text "Logo", none, .text "t0", .text "t0"⟩)])
    metadata := some (some ⟨7, "t0"⟩)
    version := 1 }

theorem setBack_migrated : ∃ after, setBack.migrate "t1" = (.ok 2, after) ∧
    after.slugs = setBack.slugs ∧ after.colors = some .empty ∧ after.assets = setBack.assets ∧
    after.projects = none ∧ after.metadata = some (some ⟨2, "t0"⟩) ∧
    after.migrate "t2" = (.ok 2, after) := by
  obtain ⟨after, hmigrate⟩ : ∃ after, setBack.migrate "t1" = (.ok 2, after) := ⟨_, rfl⟩
  obtain ⟨-, -, hmigrated, hagain⟩ := (migration_safe "t1" setBack).1 2 after hmigrate
  refine ⟨after, hmigrate, hmigrated.slugs.eq_some rfl, ?_, hmigrated.assets.eq_some rfl, ?_, ?_,
    hagain "t2"⟩
  · cases hmigrate
    rfl
  · cases hmigrate
    rfl
  · cases hmigrate
    rfl

end TagLedger
