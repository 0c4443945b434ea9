import TagLedger.Json.Value
import TagLedger.Tag.Canonical

/-!
# Representations of a project's tags

A project lists tags flat and by category.  A flat tag is counted under its canonical form; a
categorized tag under its canonical form and, unless its category is blank, under the composite of
the two.  Whatever is not a string where a tag is expected, and not an array or object where a list
or a map of them is expected, counts for nothing.
-/

namespace TagLedger.Tag

def flatField : String := "hashtags"

def categorizedField : String := "categorizedHashtags"

def stringEntries : Option Json → List String
  | some (.array items) => items.filterMap Json.string?
  | _ => []

def canonicalEntries (list : Option Json) : List String :=
  (stringEntries list).filterMap canonicalize

def categoryForms (category : String) (tags : Json) : List String :=
  (canonicalEntries (some tags)).flatMap fun bare => bare :: (composite category bare).toList

def categorizedForms : Option Json → List String
  | some (.object fields) => fields.flatMap fun field => categoryForms field.1 field.2
  | _ => []

def representations (flat categorized : Option Json) : List String :=
  orderedSet (canonicalEntries flat ++ categorizedForms categorized)

def projectRepresentations (document : Json) : List String :=
  representations (document.field? flatField) (document.field? categorizedField)

end TagLedger.Tag
