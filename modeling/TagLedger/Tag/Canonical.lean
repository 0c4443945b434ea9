import TagLedger.Text.Blank
import TagLedger.Text.Lowercase

/-!
# Canonical tags

Two spellings name the same tag when they agree once trimmed and lower-cased.  A composite joins a
category and a tag with a colon.
-/

namespace TagLedger.Tag

def canonicalize (raw : String) : Option String :=
  let trimmed := Text.trim raw
  if trimmed.isEmpty then none else some (Text.lower trimmed)

def separator : Char := ':'

def join (category tag : String) : String :=
  String.ofList (category.toList ++ separator :: tag.toList)

def composite (category tag : String) : Option String :=
  match canonicalize category, canonicalize tag with
  | some category, some tag => some (join category tag)
  | _, _ => none

def splitAtSeparator : List Char → Option (List Char × List Char)
  | [] => none
  | character :: rest =>
      if character = separator then some ([], rest)
      else (splitAtSeparator rest).map fun parts => (character :: parts.1, parts.2)

def splitComposite (representation : String) : Option (String × String) :=
  match splitAtSeparator representation.toList with
  | some (category, tag) =>
      if category.isEmpty || tag.isEmpty then none
      else some (String.ofList category, String.ofList tag)
  | none => none

end TagLedger.Tag
