import TagLedger.Proofs.Store.Operation

/-!
# Operations within a relation

Most steps of an operation only read.  So an operation is within a reflexive relation as soon as
the few steps that write are: the registration of tags, the batch of documents, the color, the
writing and removal of an asset, and the upgrade to a version.  Each of them writes to one table or a
few and leaves the other parts of the store alone.
-/

namespace TagLedger

namespace Store

/-! ## What the writing steps leave alone -/

section LeftAlone

variable {β : Type} (part : Store → β)

theorem part_upsertDocuments
    (h : ∀ store collection table, part (store.withDocuments collection table) = part store)
    (candidates : Nat → String) (now : String) (collection : Collection) (documents : List Json)
    (store : Store) :
    part (store.upsertDocuments candidates now collection documents).2 = part store := by
  unfold upsertDocuments
  repeat' split
  all_goals first | rfl | exact h ..

theorem part_setColor
    (h : ∀ (store : Store) table, part { store with colors := table } = part store)
    (now tag color : String) (store : Store) :
    part (store.setColor now tag color).2 = part store := by
  unfold setColor
  dsimp only
  repeat' split
  all_goals first | rfl | exact h ..

variable (hassets : ∀ (store : Store) table, part { store with assets := table } = part store)

include hassets

theorem part_putAsset (now key : String) (kind : AssetKind) (title : String)
    (content : Option String) (store : Store) :
    part (putAsset now key kind title content store).2 = part store := by
  unfold putAsset
  split
  · rfl
  · exact hassets ..

theorem part_removeAsset (key : String) (store : Store) :
    part (removeAsset key store).2 = part store := by
  unfold removeAsset attempt
  cases store.refusal with
  | none => exact hassets ..
  | some fault => rfl

end LeftAlone

/-! ## Programs -/

variable {guarantee : Store → Store → Prop} (refl : ∀ store, guarantee store store)

include refl

theorem within_resolveProgram {candidate now tag : String}
    (hregister : ∀ canonical, Tag.canonicalize tag = some canonical →
      ∀ store, guarantee store (registerTag candidate now canonical store).2) :
    (resolveProgram candidate now tag).Within guarantee := by
  unfold resolveProgram canonicalOrInvalid
  cases hcanonical : Tag.canonicalize tag with
  | none => exact .done
  | some canonical =>
      refine Program.within_bind (Program.within_atomic (hregister canonical hcanonical))
        fun result => ?_
      cases result with
      | error fault => exact .done
      | ok _ => exact Program.within_read refl

theorem within_lookupProgram (pieces : List (List String)) (found : Table String) :
    (lookupProgram pieces found).Within guarantee := by
  induction pieces generalizing found with
  | nil => exact .done
  | cons piece rest ih =>
      refine Program.within_bind (Program.within_read refl) fun result => ?_
      cases result with
      | error fault => exact .done
      | ok table => exact ih (lookupTags table found piece)

/-- The tags that a batch registers are canonical forms of those it was asked for. -/
theorem within_resolveAllProgram {candidates : Nat → String} {now : String} {tags : List String}
    (hregister : ∀ misses found, (∀ miss ∈ misses, ∃ tag, Tag.canonicalize tag = some miss) →
      ∀ store, guarantee store (registerMisses candidates now misses found store).2) :
    (resolveAllProgram candidates now tags).Within guarantee := by
  unfold resolveAllProgram
  split
  · exact .done
  · next canonical hcanonical =>
      have hforms : ∀ form ∈ orderedSet canonical, ∃ tag, Tag.canonicalize tag = some form := by
        intro form hform
        have hmem : some form ∈ tags.map Tag.canonicalize := by
          rw [map_canonicalize_of_mapM hcanonical]
          exact List.mem_map_of_mem (mem_orderedSet.mp hform)
        obtain ⟨tag, -, htag⟩ := List.mem_map.mp hmem
        exact ⟨tag, htag⟩
      refine Program.within_bind (within_lookupProgram refl _ .empty) fun result => ?_
      cases result with
      | error fault => exact .done
      | ok found =>
          unfold resolveMisses
          dsimp only
          split
          · exact .done
          · exact Program.within_atomic (hregister _ found
              fun miss hmiss => hforms miss (List.mem_of_mem_filter hmiss))

theorem within_hashtagUsageProgram {candidates : Nat → String} {now : String}
    {options : UsageOptions}
    (hregister : ∀ misses found, (∀ miss ∈ misses, ∃ tag, Tag.canonicalize tag = some miss) →
      ∀ store, guarantee store (registerMisses candidates now misses found store).2) :
    (hashtagUsageProgram candidates now options).Within guarantee := by
  refine Program.within_bind (Program.within_read refl) fun result => ?_
  cases result with
  | error error => exact .done
  | ok scan => exact Program.within_bind (within_resolveAllProgram refl hregister) fun _ => .done

theorem within_upsertAssetProgram {now : String} {kind : AssetKind} {title : String}
    {content : Option String}
    (hput : ∀ key store, guarantee store (putAsset now key kind title content store).2)
    (key : String) : (upsertAssetProgram now key kind title content).Within guarantee := by
  unfold upsertAssetProgram
  split
  · exact .done
  · next key _ =>
      refine Program.within_bind (Program.within_atomic (hput key)) fun result => ?_
      cases result with
      | error fault => exact .done
      | ok _ => exact Program.within_read refl

theorem within_deleteAssetProgram
    (hremove : ∀ key store, guarantee store (removeAsset key store).2) (key : String)
    (force : Bool) : (deleteAssetProgram key force).Within guarantee := by
  refine Program.within_bind (Program.within_read refl) fun result => ?_
  cases result with
  | error error => exact .done
  | ok asset =>
      refine Program.within_bind (Program.within_read refl) fun result => ?_
      cases result with
      | error error => exact .done
      | ok scan =>
          dsimp only
          split
          · exact .done
          · exact Program.within_bind (Program.within_atomic (hremove asset.key)) fun _ => .done

omit refl in
theorem within_upgradeProgram {now : String}
    (hupgrade : ∀ version store, guarantee store (upgradeTo now version store).2)
    (versions : List Nat) (current : Nat) :
    (upgradeProgram now versions current).Within guarantee := by
  induction versions generalizing current with
  | nil => exact .done
  | cons version rest ih =>
      unfold upgradeProgram
      split
      · exact ih current
      · refine Program.within_bind (Program.within_atomic (hupgrade version)) fun result => ?_
        cases result with
        | error fault => exact .done
        | ok _ => exact ih version

theorem within_migrateProgram {now : String}
    (hupgrade : ∀ version store, guarantee store (upgradeTo now version store).2) :
    (migrateProgram now).Within guarantee := by
  refine Program.within_bind (Program.within_read refl) fun result => ?_
  cases result with
  | error fault => exact .done
  | ok current => exact within_upgradeProgram hupgrade _ current

theorem within_reopenProgram {now : String}
    (hupgrade : ∀ version store, guarantee store (upgradeTo now version store).2)
    (root : String) (logged : Bool) : (reopenProgram root now logged).Within guarantee := by
  refine Program.within_bind (Program.within_read refl) fun result => ?_
  cases result with
  | error error => exact .done
  | ok _ =>
      refine Program.within_bind (within_migrateProgram refl hupgrade) fun result => ?_
      cases result with
      | error fault => exact .done
      | ok version => exact Program.within_read refl

end Store

namespace Operation

/-- The steps of the operation that write are within the relation. -/
def WritesWithin (guarantee : Store → Store → Prop) : Operation → Prop
  | .resolve tag candidate now => ∀ canonical, Tag.canonicalize tag = some canonical →
      ∀ store, guarantee store (Store.registerTag candidate now canonical store).2
  | .resolveAll _ candidates now | .hashtagUsage _ candidates now =>
      ∀ misses found, (∀ miss ∈ misses, ∃ tag, Tag.canonicalize tag = some miss) →
        ∀ store, guarantee store (Store.registerMisses candidates now misses found store).2
  | .lookupSlug _ | .findTag _ | .listEntries => True
  | .upsertDocuments collection documents candidates now =>
      ∀ store : Store, guarantee store (store.upsertDocuments candidates now collection documents).2
  | .setColor tag color now => ∀ store : Store, guarantee store (store.setColor now tag color).2
  | .upsertAsset _ kind title content now =>
      ∀ key store, guarantee store (Store.putAsset now key kind title content store).2
  | .deleteAsset _ _ => ∀ key store, guarantee store (Store.removeAsset key store).2
  | .migrate now | .reopen _ now _ =>
      ∀ version store, guarantee store (Store.upgradeTo now version store).2
  | .setRefusal refusal => ∀ store, guarantee store { store with refusal }
  | .setVersion version => ∀ store, guarantee store { store with version }

theorem WritesWithin.program {guarantee : Store → Store → Prop}
    (refl : ∀ store, guarantee store store) {operation : Operation}
    (h : operation.WritesWithin guarantee) : operation.program.Within guarantee := by
  have hread {β : Type} (value : Store → β) : (Program.read value).Within guarantee :=
    Program.within_read refl
  cases operation with
  | resolve tag candidate now =>
      exact Program.within_bind (Store.within_resolveProgram refl h) fun _ => .done
  | resolveAll tags candidates now =>
      exact Program.within_bind (Store.within_resolveAllProgram refl h) fun _ => .done
  | hashtagUsage options candidates now =>
      exact Program.within_bind (Store.within_hashtagUsageProgram refl h) fun _ => .done
  | lookupSlug slug => exact Program.within_bind (hread _) fun _ => .done
  | findTag tag => exact Program.within_bind (hread _) fun _ => .done
  | listEntries => exact Program.within_bind (hread _) fun _ => .done
  | upsertDocuments collection documents candidates now =>
      exact Program.within_bind (Program.within_atomic h) fun _ => .done
  | setColor tag color now => exact Program.within_bind (Program.within_atomic h) fun _ => .done
  | upsertAsset key kind title content now =>
      exact Program.within_bind (Store.within_upsertAssetProgram refl h key) fun _ => .done
  | deleteAsset key force =>
      exact Program.within_bind (Store.within_deleteAssetProgram refl h key force) fun _ => .done
  | migrate now => exact Program.within_bind (Store.within_migrateProgram refl h) fun _ => .done
  | reopen root now logged =>
      exact Program.within_bind (Store.within_reopenProgram refl h root logged) fun _ => .done
  | setRefusal refusal => exact Program.within_atomic h
  | setVersion version => exact Program.within_atomic h

end Operation

end TagLedger
