import TagLedger.Store.Basic
import TagLedger.Tag.Canonical

/-!
# The slug registry

The registry gives each canonical tag an opaque identifier, its slug, when the tag is first asked
for, and keeps it forever.  An entry is inserted only where there is none and then read back, so
that whoever comes second is given the first one's slug.
-/

namespace TagLedger

structure SlugEntry where
  tag : String
  slug : String
  createdAt : String
  updatedAt : String
  deriving DecidableEq, Repr

def SlugEntry.ofRow (row : String × SlugRow) : SlugEntry :=
  ⟨row.1, row.2.slug, row.2.createdAt, row.2.updatedAt⟩

/-- Cuts a list into pieces of `size` items, the last of which may be shorter. -/
def chunks {α : Type} (size : Nat) (list : List α) : List (List α) :=
  if _h : size = 0 ∨ list = [] then (if list = [] then [] else [list])
  else list.take size :: chunks size (list.drop size)
termination_by list.length
decreasing_by
  simp only [not_or] at _h
  have := List.length_pos_iff.mpr _h.2
  simp only [List.length_drop]
  omega

def lookupChunk : Nat := 500

def canonicalOrInvalid (tag : String) : Except LedgerError String :=
  match Tag.canonicalize tag with
  | some canonical => .ok canonical
  | none => .error (.invalidTag tag)

namespace Store

def registry (store : Store) : Except StoreFault (Table SlugRow) :=
  require .slugs store.slugs

def withRegistry (store : Store) (table : Table SlugRow) : Store :=
  { store with slugs := some table }

def insertSlug (now tag candidate : String) (table : Table SlugRow) :
    Except StoreFault (Table SlugRow) :=
  match requireNotEmpty "tag" tag with
  | .error fault => .error fault
  | .ok () =>
      if table.contains tag then .ok table
      else if table.rows.any (·.2.slug == candidate) then .error (.notUnique .slugs "slug")
      else .ok (table.insert tag ⟨candidate, now, now⟩)

def resolve (candidate now tag : String) (store : Store) : Outcome String :=
  match canonicalOrInvalid tag with
  | .error error => (.error error, store)
  | .ok canonical =>
      match store.registry.bind fun table => store.attempt (insertSlug now canonical candidate table) with
      | .error fault => (.error (.store fault), store)
      | .ok table =>
          match table.find? canonical with
          | some row => (.ok row.slug, store.withRegistry table)
          | none => (.error (.store .noRows), store.withRegistry table)

def lookupTags (table : Table SlugRow) (found : Table String) (tags : List String) : Table String :=
  tags.foldl
    (fun found tag =>
      match table.find? tag with
      | some row => found.insert tag row.slug
      | none => found)
    found

def lookupChunked (chunk : Nat) (table : Table SlugRow) (tags : List String)
    (found : Table String) : Table String :=
  (chunks chunk tags).foldl (lookupTags table) found

def insertSlugs (candidates : Nat → String) (now : String) (tags : List String)
    (table : Table SlugRow) : Except StoreFault (Table SlugRow) :=
  tags.zipIdx.foldlM (fun table tag => insertSlug now tag.1 (candidates tag.2) table) table

/-- The slugs of a set of canonical tags.  Tags that the first look-up misses are inserted and read
back in one transaction. -/
def resolveCanonical (candidates : Nat → String) (now : String) (tags : List String)
    (store : Store) : Outcome (Table String) :=
  if tags.isEmpty then (.ok .empty, store)
  else
    match store.registry with
    | .error fault => (.error (.store fault), store)
    | .ok table =>
        let found := lookupChunked lookupChunk table tags .empty
        let misses := tags.filter fun tag => !found.contains tag
        if misses.isEmpty then (.ok found, store)
        else
          match store.attempt (insertSlugs candidates now misses table) with
          | .error fault => (.error (.store fault), store)
          | .ok table => (.ok (lookupChunked lookupChunk table misses found), store.withRegistry table)

def resolveAll (candidates : Nat → String) (now : String) (tags : List String) (store : Store) :
    Outcome (Table String) :=
  match tags.mapM canonicalOrInvalid with
  | .error error => (.error error, store)
  | .ok canonical => resolveCanonical candidates now (orderedSet canonical) store

def lookupSlug (slug : String) (store : Store) : Except LedgerError SlugEntry :=
  let slug := Text.trim slug
  if slug.isEmpty then .error (.missingParameter "slug")
  else
    match store.registry with
    | .error fault => .error (.store fault)
    | .ok table =>
        match table.rows.find? (·.2.slug == slug) with
        | some row => .ok (.ofRow row)
        | none => .error (.slugNotFound slug)

def findTag (tag : String) (store : Store) : Except LedgerError (Option SlugEntry) :=
  match Tag.canonicalize tag with
  | none => .ok none
  | some canonical =>
      match store.registry with
      | .error fault => .error (.store fault)
      | .ok table => .ok ((table.find? canonical).map fun row => .ofRow (canonical, row))

def listEntries (store : Store) : Except LedgerError (List SlugEntry) :=
  match store.registry with
  | .error fault => .error (.store fault)
  | .ok table => .ok (table.rows.map .ofRow)

end Store

end TagLedger
