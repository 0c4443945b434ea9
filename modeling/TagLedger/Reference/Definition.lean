import TagLedger.Json.Value
import TagLedger.Reference.Token

/-!
# References in a chart definition

A chart definition is loose JSON with a list of elements.  An element refers to a key when its
formula is a string that holds a token with exactly that key; elements of any other shape refer to
nothing.  A definition without a list of elements is not a definition.
-/

namespace TagLedger.Reference

structure Hit where
  referencedKey : String
  elementId : String
  chartId : String
  title : String
  kind : String
  elementIndex : Nat
  locationHint : String
  deriving DecidableEq, Repr

def unknownKind : String := "unknown"

def elementId (chartId : String) (index : Nat) : String :=
  chartId ++ "#" ++ toString index

def locationHint (index : Nat) (label : Option String) : String :=
  let place := "elements[" ++ toString index ++ "]"
  match label with
  | some label => place ++ " (" ++ label ++ ")"
  | none => place

/-- Drops every hit on an element that was hit before, in this list or among `seen`. -/
def distinctHits (seen : List String) : List Hit → List Hit
  | [] => []
  | hit :: rest =>
      if seen.contains hit.elementId then distinctHits seen rest
      else hit :: distinctHits (hit.elementId :: seen) rest

structure Chart where
  chartId : String
  title : String
  kind : String

def Chart.ofDefinition (definition : Json) (storedId : String) : Chart :=
  { chartId := (definition.stringField? "chartId").getD storedId
    title := (definition.stringField? "title").getD ""
    kind := (definition.stringField? "type").getD unknownKind }

def Chart.hit? (chart : Chart) (key : String) (element : Json) (index : Nat) : Option Hit :=
  match element.stringField? "formula" with
  | some formula =>
      if referencesKey formula key then
        some
          { referencedKey := key
            elementId := elementId chart.chartId index
            chartId := chart.chartId
            title := chart.title
            kind := chart.kind
            elementIndex := index
            locationHint := locationHint index (element.stringField? "label") }
      else none
  | none => none

def scanDefinition (definition : Json) (storedId key : String) : Option (List Hit) :=
  match definition.field? "elements" with
  | some (.array elements) =>
      let chart := Chart.ofDefinition definition storedId
      some (distinctHits [] (elements.zipIdx.filterMap fun (element, index) =>
        chart.hit? key element index))
  | _ => none

end TagLedger.Reference
