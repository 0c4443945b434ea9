import TagLedger.Text.CaseTable

/-!
# Lower case

Full lower-casing of a text.  Every character maps on its own, one of them to two characters; only
the capital sigma looks at its neighbours and takes its final form at the end of a word.
-/

namespace TagLedger.Text

def inRanges (ranges : List (Nat × Nat)) (code : Nat) : Bool :=
  ranges.any fun range => range.1 ≤ code && code ≤ range.2

def isCased (character : Char) : Bool :=
  inRanges casedRanges character.toNat

def isCaseIgnorable (character : Char) : Bool :=
  inRanges caseIgnorableRanges character.toNat

def CaseRun.covers (run : CaseRun) (code : Nat) : Bool :=
  run.first ≤ code && code ≤ run.last && (code - run.first) % run.step == 0

def lowerSimple (character : Char) : Char :=
  match lowercaseRuns.find? (·.covers character.toNat) with
  | some run => Char.ofNat (run.target + (character.toNat - run.first))
  | none => character

/-- The lower-case form of a character that does not depend on its neighbours. -/
def lowerChar (character : Char) : List Char :=
  if character.toNat < 0x80 then [character.toLower]
  else if character = 'İ' then ['i', '\u0307']
  else [lowerSimple character]

def meetsCased (text : List Char) : Bool :=
  match text.dropWhile isCaseIgnorable with
  | character :: _ => isCased character
  | [] => false

/-- The sigma between `before`, read backwards, and `after`. -/
def lowerSigma (before after : List Char) : Char :=
  if meetsCased before && !meetsCased after then 'ς' else 'σ'

/-- Lower-cases `text` as it stands behind `before`, which is read backwards. -/
def lowerAfter (before : List Char) : List Char → List Char
  | [] => []
  | character :: rest =>
      (if character = 'Σ' then [lowerSigma before rest] else lowerChar character) ++
        lowerAfter (character :: before) rest

def lowerList (text : List Char) : List Char :=
  lowerAfter [] text

def lower (text : String) : String :=
  String.ofList (lowerList text.toList)

def asciiLower (text : String) : String :=
  String.ofList (text.toList.map Char.toLower)

end TagLedger.Text
