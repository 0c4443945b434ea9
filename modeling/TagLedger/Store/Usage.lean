import TagLedger.Json.Reader
import TagLedger.Store.Document
import TagLedger.Store.Registry
import TagLedger.Tag.Usage

/-!
# Hashtag usage

The usage report counts the representations of all project documents and gives each its slug.  A
document whose text is not JSON is skipped and counted as skipped.
-/

namespace TagLedger

structure UsageOptions where
  includeDebug : Bool
  limit : Option Nat
  deriving DecidableEq, Repr

structure HashtagCount where
  hashtag : String
  slug : String
  count : Nat
  deriving DecidableEq, Repr

structure UsageDebug where
  projectsScanned : Nat
  projectsSkipped : Nat
  distinctHashtags : Nat
  totalOccurrences : Nat
  deriving DecidableEq, Repr

structure UsageReport where
  hashtags : List HashtagCount
  debug : Option UsageDebug
  deriving DecidableEq, Repr

namespace Tag.UsageScan

def addStored (scan : UsageScan) (stored : StoredDocument) : UsageScan :=
  match Json.read stored.body with
  | some document => { scan.addDocument document with scanned := scan.scanned + 1 }
  | none => { scan with scanned := scan.scanned + 1, skipped := scan.skipped + 1 }

def debugFigures (scan : UsageScan) : UsageDebug :=
  { projectsScanned := scan.scanned
    projectsSkipped := scan.skipped
    distinctHashtags := scan.counts.size
    totalOccurrences := scan.totalOccurrences }

def rows (scan : UsageScan) (slugs : Table String) : List HashtagCount :=
  scan.ranked.filterMap fun (tag, count) =>
    (slugs.find? tag).map fun slug => ⟨tag, slug, count⟩

def report (scan : UsageScan) (slugs : Table String) (options : UsageOptions) : UsageReport :=
  let rows := scan.rows slugs
  { hashtags :=
      match options.limit with
      | some limit => rows.take limit
      | none => rows
    debug := if options.includeDebug then some scan.debugFigures else none }

end Tag.UsageScan

namespace Store

def scanUsage (store : Store) : Except LedgerError Tag.UsageScan :=
  match store.scanDocuments .projects with
  | .error fault => .error (.store fault)
  | .ok documents => .ok (documents.foldl Tag.UsageScan.addStored .empty)

def hashtagUsage (candidates : Nat → String) (now : String) (options : UsageOptions)
    (store : Store) : Outcome UsageReport :=
  match store.scanUsage with
  | .error error => (.error error, store)
  | .ok scan =>
      match store.resolveAll candidates now scan.counts.keys with
      | (.error error, store) => (.error error, store)
      | (.ok slugs, store) => (.ok (scan.report slugs options), store)

end Store

end TagLedger
