import TagLedger.Json.Reader
import TagLedger.Reference.Definition
import TagLedger.Store.Document

/-!
# Uses of a content asset

All chart elements that refer to a key, over every stored chart definition.  Definitions that are
not JSON or have no list of elements are skipped; an element that was reported is not reported
again.
-/

namespace TagLedger

structure ReferenceScan where
  hits : List Reference.Hit
  scanned : Nat
  skipped : Nat

namespace ReferenceScan

def usageCount (scan : ReferenceScan) : Nat :=
  scan.hits.length

def storedHits (key : String) (stored : StoredDocument) : Option (List Reference.Hit) :=
  (Json.read stored.body).bind fun definition =>
    Reference.scanDefinition definition stored.id key

def ofDocuments (key : String) (documents : List StoredDocument) : ReferenceScan :=
  let found := documents.map (storedHits key)
  { hits := Reference.distinctHits [] (found.flatMap (·.getD []))
    scanned := documents.length
    skipped := (found.filter (·.isNone)).length }

end ReferenceScan

structure ChartReference where
  chartId : String
  title : String
  kind : String
  elementIndex : Nat
  deriving DecidableEq, Repr

def ChartReference.ofHit (hit : Reference.Hit) : ChartReference :=
  ⟨hit.chartId, hit.title, hit.kind, hit.elementIndex⟩

structure ReferenceReport where
  key : String
  usageCount : Nat
  charts : List ChartReference
  deriving DecidableEq, Repr

namespace Store

def scanReferences (key : String) (store : Store) : Except LedgerError ReferenceScan :=
  match store.scanDocuments .charts with
  | .error fault => .error (.store fault)
  | .ok documents => .ok (.ofDocuments key documents)

def referenceUsage (key : Option String) (store : Store) : Except LedgerError ReferenceReport :=
  let key := Text.trim (key.getD "")
  if key.isEmpty then .error (.missingParameter "slug")
  else
    match store.scanReferences key with
    | .error error => .error error
    | .ok scan => .ok ⟨key, scan.usageCount, scan.hits.map .ofHit⟩

end Store

end TagLedger
