import TagLedger.Proofs.Table
import TagLedger.Proofs.Text.Lowercase
import TagLedger.Store.Basic
import TagLedger.Tag.Representation
import Mathlib.Data.List.TakeWhile

/-!
# Canonical tags

The canonical tags are those that canonicalization leaves as they are, in any script.  Joining two
of them gives another one, so every representation of a project is canonical.  A canonical tag
starts with something that is not blank, so that the schema's condition on keys holds for it unless
that is a NUL.
-/

namespace TagLedger

namespace Text

/-- No blank stands at either end. -/
structure Trimmed (text : List Char) : Prop where
  first : ∀ character ∈ text.head?, isBlank character = false
  last : ∀ character ∈ text.getLast?, isBlank character = false

theorem trimmed_iff {text : List Char} : Trimmed text ↔
    text.head?.all (!isBlank ·) = true ∧ text.getLast?.all (!isBlank ·) = true := by
  simp only [Option.all_eq_true, Bool.not_eq_eq_eq_not, Bool.not_true]
  exact ⟨fun h => ⟨h.first, h.last⟩, fun h => ⟨h.1, h.2⟩⟩

instance (text : List Char) : Decidable (Trimmed text) :=
  decidable_of_iff _ trimmed_iff.symm

private theorem dropWhile_eq_self {text : List Char}
    (h : ∀ character ∈ text.head?, isBlank character = false) : text.dropWhile isBlank = text := by
  cases text with
  | nil => rfl
  | cons character rest => exact List.dropWhile_cons_of_neg (by simp [h character rfl])

theorem trimList_eq_self {text : List Char} (h : Trimmed text) : trimList text = text := by
  have hreverse : ∀ character ∈ text.reverse.head?, isBlank character = false := by
    simpa using h.last
  rw [trimList, trimLeft, dropWhile_eq_self h.first, trimRight, dropWhile_eq_self hreverse,
    List.reverse_reverse]

theorem trimList_append_left {left : List Char} (h : left.all isBlank = true) (text : List Char) :
    trimList (left ++ text) = trimList text := by
  rw [trimList, trimLeft, List.dropWhile_append_of_pos (List.all_eq_true.mp h), trimList, trimLeft]

theorem trimList_append_right {right : List Char} (h : right.all isBlank = true)
    (text : List Char) : trimList (text ++ right) = trimList text := by
  have hreverse : ∀ character ∈ right.reverse, isBlank character = true := by simpa using h
  rw [trimList, trimList, trimLeft, trimLeft, List.dropWhile_append]
  split
  · next hempty =>
      rw [List.isEmpty_iff.mp hempty, List.dropWhile_eq_nil_iff.mpr (List.all_eq_true.mp h)]
  · rw [trimRight, trimRight, List.reverse_append, List.dropWhile_append_of_pos hreverse]

private theorem trimRight_prefix (text : List Char) : trimRight text <+: text := by
  have hsuffix := (List.dropWhile_suffix isBlank (l := text.reverse))
  simpa [trimRight] using List.reverse_prefix.mpr hsuffix

theorem trimmed_trimList (text : List Char) : Trimmed (trimList text) where
  first := by
    intro character hfirst
    obtain ⟨rest, hrest⟩ := List.head?_eq_some_iff.mp hfirst
    have hprefix : character :: rest <+: trimLeft text := hrest ▸ trimRight_prefix (trimLeft text)
    obtain ⟨after, hafter⟩ := hprefix
    have hhead := List.head?_dropWhile_not isBlank text
    rw [← trimLeft, ← hafter] at hhead
    simpa using hhead
  last := by
    intro character hlast
    have hhead := List.head?_dropWhile_not isBlank (trimLeft text).reverse
    rw [trimList, trimRight, List.getLast?_reverse] at hlast
    rw [hlast] at hhead
    simpa using hhead

/-- Blanks around a text are all that sets it apart from the text without them. -/
theorem trim_padded {left right : String} (hleft : isAllBlank left = true)
    (hright : isAllBlank right = true) (text : String) :
    trim (left ++ text ++ right) = trim text := by
  rw [trim, String.toList_append, String.toList_append, trimList_append_right hright,
    trimList_append_left hleft, trim]

theorem trim_eq_empty_iff {text : String} : trim text = "" ↔ isAllBlank text = true := by
  constructor
  · intro h
    have hnil : trimList text.toList = [] := by simpa [trim] using h
    have hrest : ∀ character ∈ trimLeft text.toList, isBlank character = true := by
      simpa [trimList, trimRight, List.dropWhile_eq_nil_iff] using hnil
    have hparts := List.takeWhile_append_dropWhile (p := isBlank) (l := text.toList)
    rw [isAllBlank, ← hparts, List.all_append, List.all_takeWhile, Bool.true_and,
      List.all_eq_true]
    exact hrest
  · intro h
    have hnil := trimList_append_right h []
    rw [List.nil_append] at hnil
    rw [trim, hnil]
    rfl

theorem trim_eq_self {text : String} (h : Trimmed text.toList) : trim text = text := by
  rw [trim, trimList_eq_self h, String.ofList_toList]

theorem trimmed_trim (text : String) : Trimmed (trim text).toList := by
  rw [trim, String.toList_ofList]
  exact trimmed_trimList text.toList

theorem trim_trim (text : String) : trim (trim text) = trim text :=
  trim_eq_self (trimmed_trim text)

theorem Trimmed.join {left right : List Char} (hleft : Trimmed left) (hright : Trimmed right)
    (hleftNil : left ≠ []) (hrightNil : right ≠ []) (joint : Char) :
    Trimmed (left ++ joint :: right) where
  first := by
    rw [List.head?_append_of_ne_nil _ hleftNil]
    exact hleft.first
  last := by
    rw [List.getLast?_append_of_ne_nil _ (List.cons_ne_nil _ _),
      List.getLast?_cons_of_ne_nil hrightNil]
    exact hright.last

end Text

namespace Tag

structure Normal (text : String) : Prop where
  nonempty : text ≠ ""
  trimmed : Text.Trimmed text.toList
  settled : ∀ character ∈ text.toList, Text.Settled character

theorem canonicalize_of_trimmed {text : String} (hempty : text ≠ "")
    (htrimmed : Text.Trimmed text.toList) : canonicalize text = some (Text.lower text) := by
  simp [canonicalize, Text.trim_eq_self htrimmed, hempty]

theorem Normal.canonicalize {text : String} (h : Normal text) : canonicalize text = some text := by
  rw [canonicalize_of_trimmed h.nonempty h.trimmed, Text.lower, Text.lowerList,
    Text.lowerAfter_of_settled h.settled, String.ofList_toList]

theorem canonicalize_eq_none_iff {text : String} : canonicalize text = none ↔ Text.trim text = "" := by
  unfold canonicalize
  dsimp only
  split <;> simp_all

theorem normal_of_canonicalize {raw canonical : String} (h : canonicalize raw = some canonical) :
    Normal canonical := by
  unfold canonicalize at h
  dsimp only at h
  split at h
  · cases h
  · next hempty =>
      obtain rfl := Option.some.inj h
      have htrimmed := Text.trimmed_trimList raw.toList
      have hnil : Text.trimList raw.toList ≠ [] := by
        simpa [Text.trim] using hempty
      have hlist : (Text.lower (Text.trim raw)).toList =
          Text.lowerList (Text.trimList raw.toList) := by
        simp [Text.lower, Text.trim]
      refine ⟨?_, ?_, ?_⟩
      · rw [ne_eq, ← String.toList_eq_nil_iff, hlist]
        exact Text.lowerAfter_eq_nil_iff.not.mpr hnil
      · rw [hlist]
        exact ⟨Text.isBlank_head?_lowerAfter htrimmed.first [],
          Text.isBlank_getLast?_lowerAfter htrimmed.last []⟩
      · rw [hlist]
        exact fun character hmem => Text.settled_of_mem_lowerAfter hmem

theorem toList_join (category tag : String) :
    (join category tag).toList = category.toList ++ separator :: tag.toList := by
  rw [join, String.toList_ofList]

theorem join_eq_append (category tag : String) : join category tag = category ++ ":" ++ tag := by
  have hseparator : ":".toList = [separator] := rfl
  rw [← String.toList_inj, toList_join, String.toList_append, String.toList_append, hseparator,
    List.append_assoc, List.singleton_append]

theorem settled_separator : Text.Settled separator := by
  decide +kernel

theorem join_ne_empty (category tag : String) : join category tag ≠ "" := by
  rw [ne_eq, ← String.toList_eq_nil_iff, toList_join]
  exact List.append_ne_nil_of_right_ne_nil _ (List.cons_ne_nil _ _)

theorem trimmed_join {category tag : String} (hcategory : category ≠ "") (htag : tag ≠ "")
    (hcategoryTrimmed : Text.Trimmed category.toList) (htagTrimmed : Text.Trimmed tag.toList) :
    Text.Trimmed (join category tag).toList := by
  rw [toList_join]
  exact hcategoryTrimmed.join htagTrimmed (by simpa using hcategory) (by simpa using htag) _

theorem Normal.join {category tag : String} (hcategory : Normal category) (htag : Normal tag) :
    Normal (join category tag) := by
  refine ⟨join_ne_empty category tag, trimmed_join hcategory.nonempty htag.nonempty
    hcategory.trimmed htag.trimmed, ?_⟩
  intro character hmem
  rw [toList_join, List.mem_append, List.mem_cons] at hmem
  rcases hmem with hmem | rfl | hmem
  · exact hcategory.settled character hmem
  · exact settled_separator
  · exact htag.settled character hmem

theorem composite_eq_some_iff {category tag form : String} : composite category tag = some form ↔
    ∃ left right, canonicalize category = some left ∧ canonicalize tag = some right ∧
      join left right = form := by
  unfold composite
  split
  · next left right hleft hright => simp [hleft, hright]
  · next hnone =>
      simp only [reduceCtorEq, false_iff]
      rintro ⟨left, right, hleft, hright, -⟩
      exact hnone left right hleft hright

theorem composite_of_canonicalize {category tag bare : String} (h : canonicalize tag = some bare) :
    composite category bare = composite category tag := by
  rw [composite, composite, h, (normal_of_canonicalize h).canonicalize]

theorem normal_of_mem_canonicalEntries {list : Option Json} {tag : String}
    (h : tag ∈ canonicalEntries list) : Normal tag := by
  obtain ⟨raw, -, hraw⟩ := List.mem_filterMap.mp h
  exact normal_of_canonicalize hraw

theorem normal_of_mem_categoryForms {category tag : String} {tags : Json}
    (h : tag ∈ categoryForms category tags) : Normal tag := by
  obtain ⟨bare, hbare, htag⟩ := List.mem_flatMap.mp h
  rcases List.mem_cons.mp htag with rfl | hcomposite
  · exact normal_of_mem_canonicalEntries hbare
  · obtain ⟨left, right, hleft, hright, rfl⟩ :=
      composite_eq_some_iff.mp (Option.mem_toList.mp hcomposite)
    exact (normal_of_canonicalize hleft).join (normal_of_canonicalize hright)

/-- Every representation of a project is canonical, the composites included. -/
theorem normal_of_mem_projectRepresentations {document : Json} {tag : String}
    (h : tag ∈ projectRepresentations document) : Normal tag := by
  rw [projectRepresentations, representations, mem_orderedSet, List.mem_append] at h
  rcases h with hflat | hcategorized
  · exact normal_of_mem_canonicalEntries hflat
  · unfold categorizedForms at hcategorized
    split at hcategorized
    · obtain ⟨field, -, hfield⟩ := List.mem_flatMap.mp hcategorized
      exact normal_of_mem_categoryForms hfield
    · cases hcategorized

end Tag

/-- The schema takes a trimmed text as a key exactly if it does not start with a NUL. -/
theorem notEmpty_iff_of_trimmed {text : String} (hempty : text ≠ "")
    (htrimmed : Text.Trimmed text.toList) :
    notEmpty text = true ↔ text.toList.head? ≠ some '\x00' := by
  obtain ⟨first, rest, hlist⟩ : ∃ first rest, text.toList = first :: rest :=
    List.exists_cons_of_ne_nil (by simpa using hempty)
  have hblank : Text.isBlank first = false := htrimmed.first first (by simp [hlist])
  have hspace : first ≠ ' ' := by
    rintro rfl
    exact absurd hblank (by decide)
  simp [notEmpty, hlist, hspace]

theorem Tag.Normal.notEmpty_iff {tag : String} (h : Tag.Normal tag) :
    notEmpty tag = true ↔ tag.toList.head? ≠ some '\x00' :=
  notEmpty_iff_of_trimmed h.nonempty h.trimmed

theorem notEmpty_of_canonicalize {tag canonical : String}
    (h : Tag.canonicalize tag = some canonical) (hstart : canonical.toList.head? ≠ some '\x00') :
    notEmpty canonical = true :=
  (Tag.normal_of_canonicalize h).notEmpty_iff.mpr hstart

end TagLedger
