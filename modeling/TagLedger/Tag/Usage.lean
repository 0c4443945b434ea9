import TagLedger.Tag.Representation

/-!
# Usage counts

A representation counts once for each document in which it occurs.  Ranking puts greater counts
first and orders equal counts by the tag.
-/

namespace TagLedger.Tag

structure UsageScan where
  counts : Table Nat
  scanned : Nat
  skipped : Nat
  deriving Inhabited

namespace UsageScan

def empty : UsageScan :=
  ⟨.empty, 0, 0⟩

def count (scan : UsageScan) (tag : String) : Nat :=
  (scan.counts.find? tag).getD 0

def addRepresentation (counts : Table Nat) (representation : String) : Table Nat :=
  counts.insert representation ((counts.find? representation).getD 0 + 1)

def addDocument (scan : UsageScan) (document : Json) : UsageScan :=
  { scan with counts := (projectRepresentations document).foldl addRepresentation scan.counts }

def ranksBefore (left right : String × Nat) : Bool :=
  right.2 < left.2 || (left.2 == right.2 && left.1 ≤ right.1)

def ranked (scan : UsageScan) : List (String × Nat) :=
  scan.counts.rows.mergeSort ranksBefore

def totalOccurrences (scan : UsageScan) : Nat :=
  scan.counts.rows.foldr (fun row total => row.2 + total) 0

end UsageScan

end TagLedger.Tag
