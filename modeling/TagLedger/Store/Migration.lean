import TagLedger.Store.Basic

/-!
# Migrations

A migration brings a store to its version in one transaction, and runs only on a store of a lower
version.  It creates what is missing and leaves what is there, so that it may run again on a store
whose version was set back.
-/

namespace TagLedger

def latestVersion : Nat := 2

namespace Store

def schemaVersion (store : Store) : Except StoreFault Nat :=
  if store.version < 0 then .error .negativeVersion else .ok store.version.toNat

def createIfAbsent {ρ : Type} (table : Option (Table ρ)) : Option (Table ρ) :=
  some (table.getD .empty)

def toVersionOne (now : String) (store : Store) : Except StoreFault Store :=
  .ok
    { store with
      projects := createIfAbsent store.projects
      charts := createIfAbsent store.charts
      slugs := createIfAbsent store.slugs
      metadata := some (some ((store.metadata.join).getD ⟨1, now⟩)) }

def toVersionTwo (store : Store) : Except StoreFault Store :=
  match store.metadata with
  | none => .error (.noSuchTable .metadata)
  | some _ =>
      .ok { store with colors := createIfAbsent store.colors, assets := createIfAbsent store.assets }

def recordVersion (version : Nat) (store : Store) : Store :=
  { store with
    version := version
    metadata := store.metadata.map fun row => row.map ({ · with schemaVersion := version }) }

def upgrade (now : String) (store : Store) : Nat → Except StoreFault Store
  | 1 => (store.attempt (store.toVersionOne now)).map (recordVersion 1)
  | version => (store.attempt store.toVersionTwo).map (recordVersion version)

/-- Runs the given migrations as far as they are pending, up to the first that fails. -/
def upgradeThrough (now : String) (store : Store) : List Nat → Except StoreFault Nat × Store
  | [] => (store.schemaVersion, store)
  | version :: rest =>
      if (version : Int) ≤ store.version then upgradeThrough now store rest
      else
        match upgrade now store version with
        | .error fault => (.error fault, store)
        | .ok store => upgradeThrough now store rest

def migrate (now : String) (store : Store) : Except StoreFault Nat × Store :=
  match store.schemaVersion with
  | .error fault => (.error fault, store)
  | .ok _ => upgradeThrough now store [1, latestVersion]

end Store

end TagLedger
