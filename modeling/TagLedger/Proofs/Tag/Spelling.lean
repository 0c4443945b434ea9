import TagLedger.Proofs.Tag.Canonical

/-!
# Spellings of a tag

Blanks around a tag and the case of the ASCII letters in it make no difference to its canonical
form.  The blanks are trimmed.  A letter is lower-cased to the same character from either case, and
in either case it is a letter to a capital sigma beside it, so the sigma becomes the same small one.
-/

namespace TagLedger

namespace Text

/-! ## Letters of either case -/

/-- Neither trimming nor lower-casing can tell the two characters apart, and a capital sigma beside
them cannot either. -/
structure Alike (character other : Char) : Prop where
  blank : isBlank character = isBlank other
  cased : isCased character = isCased other
  ignorable : isCaseIgnorable character = isCaseIgnorable other
  sigma : character = 'Σ' ↔ other = 'Σ'
  lowered : lowerChar character = lowerChar other

theorem alike_iff {character other : Char} : Alike character other ↔
    isBlank character = isBlank other ∧ isCased character = isCased other ∧
      isCaseIgnorable character = isCaseIgnorable other ∧
      (character = 'Σ' ↔ other = 'Σ') ∧ lowerChar character = lowerChar other :=
  ⟨fun h => ⟨h.blank, h.cased, h.ignorable, h.sigma, h.lowered⟩,
    fun ⟨hblank, hcased, hignorable, hsigma, hlowered⟩ =>
      ⟨hblank, hcased, hignorable, hsigma, hlowered⟩⟩

instance (character other : Char) : Decidable (Alike character other) :=
  decidable_of_iff _ alike_iff.symm

def IsCapital (character : Char) : Prop :=
  0x41 ≤ character.toNat ∧ character.toNat ≤ 0x5A

theorem toLower_eq_self {character : Char} (h : ¬ IsCapital character) :
    character.toLower = character := by
  unfold Char.toLower
  split
  · next hcapital =>
      exact absurd ⟨UInt32.le_iff_toNat_le.mp hcapital.1, UInt32.le_iff_toNat_le.mp hcapital.2⟩ h
  · rfl

theorem alike_toLower (character : Char) : Alike character.toLower character := by
  by_cases hcapital : IsCapital character
  · have hall : ∀ code ≤ 0x5A, 0x41 ≤ code → Alike (Char.ofNat code).toLower (Char.ofNat code) := by
      decide +kernel
    simpa only [Char.ofNat_toNat] using hall character.toNat hcapital.2 hcapital.1
  · rw [toLower_eq_self hcapital]
    exact ⟨rfl, rfl, rfl, Iff.rfl, rfl⟩

/-! ## Texts with letters of either case -/

theorem meetsCased_map_toLower (text : List Char) :
    meetsCased (text.map Char.toLower) = meetsCased text := by
  induction text with
  | nil => rfl
  | cons character rest ih =>
      have halike := alike_toLower character
      by_cases hignorable : isCaseIgnorable character = true
      · simpa [meetsCased, halike.ignorable, hignorable] using ih
      · simp [meetsCased, halike.ignorable, hignorable, halike.cased]

/-- What stands in front of the text keeps its place in the neighbourhood of a sigma. -/
theorem lowerAfter_map_toLower (before text : List Char) :
    lowerAfter (before.map Char.toLower) (text.map Char.toLower) = lowerAfter before text := by
  induction text generalizing before with
  | nil => rfl
  | cons character rest ih =>
      have halike := alike_toLower character
      have hrest := ih (character :: before)
      rw [List.map_cons] at hrest
      rw [List.map_cons, lowerAfter_cons, lowerAfter_cons, hrest, lowerAt, lowerAt]
      simp only [halike.sigma, halike.lowered, lowerSigma, meetsCased_map_toLower]

theorem lower_asciiLower (text : String) : lower (asciiLower text) = lower text := by
  rw [lower, asciiLower, String.toList_ofList, lowerList, ← List.map_nil (f := Char.toLower),
    lowerAfter_map_toLower]
  rfl

theorem trimList_map_toLower (text : List Char) :
    trimList (text.map Char.toLower) = (trimList text).map Char.toLower := by
  have hblank : isBlank ∘ Char.toLower = isBlank :=
    funext fun character => (alike_toLower character).blank
  simp only [trimList, trimLeft, trimRight, List.dropWhile_map, hblank, ← List.map_reverse]

theorem trim_asciiLower (text : String) : trim (asciiLower text) = asciiLower (trim text) := by
  rw [trim, asciiLower, String.toList_ofList, trimList_map_toLower, asciiLower, trim,
    String.toList_ofList]

theorem isEmpty_asciiLower (text : String) : (asciiLower text).isEmpty = text.isEmpty := by
  have hempty : asciiLower text = "" ↔ text = "" := by simp [asciiLower]
  rw [Bool.eq_iff_iff, String.isEmpty_iff, String.isEmpty_iff, hempty]

/-- The text is the other one with blanks around it and with its ASCII letters in any case. -/
def Respells (text other : String) : Prop :=
  ∃ left middle right, text = left ++ middle ++ right ∧ isAllBlank left = true ∧
    isAllBlank right = true ∧ asciiLower middle = asciiLower other

end Text

namespace Tag

theorem canonicalize_asciiLower (text : String) :
    canonicalize (Text.asciiLower text) = canonicalize text := by
  unfold canonicalize
  dsimp only
  rw [Text.trim_asciiLower, Text.lower_asciiLower, Text.isEmpty_asciiLower]

theorem canonicalize_padded {left right : String} (hleft : Text.isAllBlank left = true)
    (hright : Text.isAllBlank right = true) (text : String) :
    canonicalize (left ++ text ++ right) = canonicalize text := by
  unfold canonicalize
  rw [Text.trim_padded hleft hright]

theorem canonicalize_of_respells {text other : String} (h : Text.Respells text other) :
    canonicalize text = canonicalize other := by
  obtain ⟨left, middle, right, rfl, hleft, hright, hmiddle⟩ := h
  calc canonicalize (left ++ middle ++ right)
    _ = canonicalize middle := canonicalize_padded hleft hright middle
    _ = canonicalize (Text.asciiLower middle) := (canonicalize_asciiLower middle).symm
    _ = canonicalize (Text.asciiLower other) := by rw [hmiddle]
    _ = canonicalize other := canonicalize_asciiLower other

/-- Only a blank text has no canonical form.  The canonical form of any other text is not empty, has
no blank at either end and is its own canonical form, and all spellings of the text share it. -/
theorem canonicalize_normalForm (text : String) :
    (canonicalize text = none ↔ Text.isAllBlank text = true) ∧
      (∀ form, canonicalize text = some form →
        form ≠ "" ∧ Text.Trimmed form.toList ∧ canonicalize form = some form) ∧
      ∀ spelling, Text.Respells spelling text → canonicalize spelling = canonicalize text := by
  refine ⟨canonicalize_eq_none_iff.trans Text.trim_eq_empty_iff, fun form hform => ?_,
    fun spelling hspelling => canonicalize_of_respells hspelling⟩
  have hnormal := normal_of_canonicalize hform
  exact ⟨hnormal.nonempty, hnormal.trimmed, hnormal.canonicalize⟩

/-- The letters before the sigma make it a final one in either case, and the blanks behind it do not
matter. -/
theorem team_normalForm :
    Text.Respells "\tTEAMΣ\u2003" "TeamΣ" ∧ canonicalize "\tTEAMΣ\u2003" = some "teamς" ∧
      canonicalize "teamς" = some "teamς" := by
  have hspelling : Text.Respells "\tTEAMΣ\u2003" "TeamΣ" :=
    ⟨"\t", "TEAMΣ", "\u2003", by decide +kernel, by decide +kernel, by decide +kernel,
      by decide +kernel⟩
  have hform : canonicalize "TeamΣ" = some "teamς" := by decide +kernel
  obtain ⟨-, hsettled, hspelled⟩ := canonicalize_normalForm "TeamΣ"
  obtain ⟨-, -, hcanonical⟩ := hsettled "teamς" hform
  exact ⟨hspelling, (hspelled _ hspelling).trans hform, hcanonical⟩

end Tag

end TagLedger
