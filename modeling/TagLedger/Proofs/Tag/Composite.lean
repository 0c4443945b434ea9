import TagLedger.Proofs.Tag.Canonical
import TagLedger.Proofs.Tag.Usage

/-!
# The count of a composite

Bare tags and composites share one table of counts, and nothing keeps a colon out of a tag or a
category.  So a composite is counted for each document that lists the tag under the category, and
beside them for each that lists a tag spelled like the composite, or a pair that is joined to the
same text with its colon in another place.
-/

namespace TagLedger.Tag

/-! ## What a document lists -/

/-- The categories and tags as they are written, a pair for each tag in a category. -/
def categorizedPairs : Option Json → List (String × String)
  | some (.object fields) =>
      fields.flatMap fun field => (stringEntries (some field.2)).map fun tag => (field.1, tag)
  | _ => []

def listedPairs (document : Json) : List (String × String) :=
  categorizedPairs (document.field? categorizedField)

/-- The tags as they are written, the flat ones and those in some category. -/
def listedTags (document : Json) : List String :=
  stringEntries (document.field? flatField) ++ (listedPairs document).map Prod.snd

theorem mem_listedPairs {document tags : Json} {fields : List (String × Json)}
    {category tag : String} (hfields : document.field? categorizedField = some (.object fields))
    (hcategory : (category, tags) ∈ fields) (htag : tag ∈ stringEntries (some tags)) :
    (category, tag) ∈ listedPairs document := by
  rw [listedPairs, hfields, categorizedPairs, List.mem_flatMap]
  exact ⟨(category, tags), hcategory, List.mem_map_of_mem htag⟩

theorem mem_categoryForms_iff {category form : String} {tags : Json} :
    form ∈ categoryForms category tags ↔ ∃ tag ∈ stringEntries (some tags),
      canonicalize tag = some form ∨ composite category tag = some form := by
  rw [categoryForms, List.mem_flatMap]
  constructor
  · rintro ⟨bare, hbare, hform⟩
    obtain ⟨tag, htag, hcanonical⟩ := List.mem_filterMap.mp hbare
    refine ⟨tag, htag, ?_⟩
    rw [← composite_of_canonicalize hcanonical, hcanonical, Option.some_inj]
    simpa [eq_comm] using hform
  · rintro ⟨tag, htag, hform⟩
    obtain ⟨bare, hcanonical⟩ : ∃ bare, canonicalize tag = some bare := by
      rcases hform with hform | hform
      · exact ⟨form, hform⟩
      · obtain ⟨-, bare, -, hbare, -⟩ := composite_eq_some_iff.mp hform
        exact ⟨bare, hbare⟩
    refine ⟨bare, List.mem_filterMap.mpr ⟨tag, htag, hcanonical⟩, ?_⟩
    rw [← composite_of_canonicalize hcanonical, hcanonical, Option.some_inj] at hform
    simpa [eq_comm] using hform

theorem mem_categorizedForms_iff {categorized : Option Json} {form : String} :
    form ∈ categorizedForms categorized ↔ ∃ pair ∈ categorizedPairs categorized,
      canonicalize pair.2 = some form ∨ composite pair.1 pair.2 = some form := by
  unfold categorizedForms categorizedPairs
  split
  · simp only [List.mem_flatMap, mem_categoryForms_iff, List.mem_map]
    constructor
    · rintro ⟨field, hfield, tag, htag, hform⟩
      exact ⟨(field.1, tag), ⟨field, hfield, tag, htag, rfl⟩, hform⟩
    · rintro ⟨_, ⟨field, hfield, tag, htag, rfl⟩, hform⟩
      exact ⟨field, hfield, tag, htag, hform⟩
  · simp

/-- The forms that a document is counted under are those of its tags and of its pairs. -/
theorem mem_projectRepresentations_iff {document : Json} {form : String} :
    form ∈ projectRepresentations document ↔
      (∃ tag ∈ listedTags document, canonicalize tag = some form) ∨
        ∃ pair ∈ listedPairs document, composite pair.1 pair.2 = some form := by
  rw [projectRepresentations, representations, mem_orderedSet, List.mem_append, canonicalEntries,
    List.mem_filterMap, mem_categorizedForms_iff, ← listedPairs, listedTags]
  simp only [List.mem_append, or_and_right, exists_or, and_or_left, or_assoc, List.mem_map,
    exists_exists_and_eq_and]

/-! ## Where the colon stands -/

theorem join_eq_join_iff {category tag otherCategory otherTag : String} :
    join category tag = join otherCategory otherTag ↔
      (category = otherCategory ∧ tag = otherTag) ∨
        (∃ middle, category = join otherCategory middle ∧ otherTag = join middle tag) ∨
        ∃ middle, otherCategory = join category middle ∧ tag = join middle otherTag := by
  simp only [← String.toList_inj, toList_join]
  constructor
  · intro h
    rcases List.append_eq_append_iff.mp h with ⟨middle, hleft, hright⟩ | ⟨middle, hleft, hright⟩
    · rcases List.cons_eq_append_iff.mp hright with ⟨rfl, htag⟩ | ⟨rest, rfl, htag⟩
      · exact Or.inl ⟨by simpa using hleft.symm, (List.cons.inj htag).2.symm⟩
      · exact Or.inr (Or.inr ⟨String.ofList rest, by simpa using hleft, by simpa using htag⟩)
    · rcases List.cons_eq_append_iff.mp hright with ⟨rfl, htag⟩ | ⟨rest, rfl, htag⟩
      · exact Or.inl ⟨by simpa using hleft, (List.cons.inj htag).2⟩
      · exact Or.inr (Or.inl ⟨String.ofList rest, by simpa using hleft, by simpa using htag⟩)
  · rintro (⟨hcategory, htag⟩ | ⟨middle, hcategory, htag⟩ | ⟨middle, hcategory, htag⟩)
    · rw [hcategory, htag]
    · rw [hcategory, htag, List.append_assoc, List.cons_append]
    · rw [hcategory, htag, List.append_assoc, List.cons_append]

/-- The canonical forms agree, those of the categories and those of the tags. -/
def SamePair (pair other : String × String) : Prop :=
  canonicalize pair.1 = canonicalize other.1 ∧ canonicalize pair.2 = canonicalize other.2

/-- What stands between two colons belongs to the category of the first pair and to the tag of the
second. -/
def Shifted (pair other : String × String) : Prop :=
  ∃ left middle right, canonicalize pair.1 = some (join left middle) ∧
    canonicalize pair.2 = some right ∧ canonicalize other.1 = some left ∧
    canonicalize other.2 = some (join middle right)

theorem composite_eq_iff {pair : String × String} {category tag form : String}
    (h : composite category tag = some form) : composite pair.1 pair.2 = some form ↔
      SamePair pair (category, tag) ∨ Shifted pair (category, tag) ∨
        Shifted (category, tag) pair := by
  obtain ⟨left, right, hleft, hright, rfl⟩ := composite_eq_some_iff.mp h
  rw [composite_eq_some_iff]
  constructor
  · rintro ⟨otherLeft, otherRight, hcategory, htag, hjoin⟩
    rcases join_eq_join_iff.mp hjoin with ⟨rfl, rfl⟩ | ⟨middle, rfl, rfl⟩ | ⟨middle, rfl, rfl⟩
    · exact Or.inl ⟨hcategory.trans hleft.symm, htag.trans hright.symm⟩
    · exact Or.inr (Or.inl ⟨left, middle, otherRight, hcategory, htag, hleft, hright⟩)
    · exact Or.inr (Or.inr ⟨otherLeft, middle, right, hleft, hright, hcategory, htag⟩)
  · rintro (⟨hcategory, htag⟩ | ⟨before, middle, after, hcategory, htag, hother, hjoined⟩ |
      ⟨before, middle, after, hother, hjoined, hcategory, htag⟩)
    · exact ⟨left, right, hcategory.trans hleft, htag.trans hright, rfl⟩
    · cases hleft.symm.trans hother
      cases hright.symm.trans hjoined
      exact ⟨_, _, hcategory, htag, join_eq_join_iff.mpr (Or.inr (Or.inl ⟨middle, rfl, rfl⟩))⟩
    · cases hleft.symm.trans hother
      cases hright.symm.trans hjoined
      exact ⟨_, _, hcategory, htag, join_eq_join_iff.mpr (Or.inr (Or.inr ⟨middle, rfl, rfl⟩))⟩

/-! ## Counting a composite -/

/-- A category of this canonical form lists a tag of this one. -/
def ListsUnder (document : Json) (category tag : String) : Prop :=
  ∃ pair ∈ listedPairs document, SamePair pair (category, tag)

/-- Something else in the document is counted under the form: a tag, or another pair. -/
def ListsLike (document : Json) (category tag form : String) : Prop :=
  (∃ listed ∈ listedTags document, canonicalize listed = some form) ∨
    ∃ pair ∈ listedPairs document, composite pair.1 pair.2 = some form ∧
      ¬ SamePair pair (category, tag)

/-- The canonical form has no colon. -/
def ColonFree (tag : String) : Prop :=
  ∀ form ∈ canonicalize tag, separator ∉ form.toList

instance (pair other : String × String) : Decidable (SamePair pair other) :=
  inferInstanceAs (Decidable (_ ∧ _))

instance (document : Json) (category tag : String) : Decidable (ListsUnder document category tag) :=
  inferInstanceAs (Decidable (∃ pair ∈ _, _))

instance (document : Json) (category tag form : String) :
    Decidable (ListsLike document category tag form) :=
  inferInstanceAs (Decidable ((∃ listed ∈ _, _) ∨ ∃ pair ∈ _, _))

instance (tag : String) : Decidable (ColonFree tag) :=
  inferInstanceAs (Decidable (∀ form ∈ canonicalize tag, _))

theorem separator_mem_join (category tag : String) : separator ∈ (join category tag).toList := by
  rw [toList_join]
  exact List.mem_append_right _ List.mem_cons_self

theorem mem_projectRepresentations_composite_iff {document : Json} {category tag form : String}
    (h : composite category tag = some form) : form ∈ projectRepresentations document ↔
      ListsUnder document category tag ∨ ListsLike document category tag form := by
  rw [mem_projectRepresentations_iff, ListsUnder, ListsLike]
  constructor
  · rintro (htag | ⟨pair, hpair, hform⟩)
    · exact Or.inr (Or.inl htag)
    · by_cases hsame : SamePair pair (category, tag)
      · exact Or.inl ⟨pair, hpair, hsame⟩
      · exact Or.inr (Or.inr ⟨pair, hpair, hform, hsame⟩)
  · rintro (⟨pair, hpair, hsame⟩ | htag | ⟨pair, hpair, hform, -⟩)
    · exact Or.inr ⟨pair, hpair, (composite_eq_iff h).mpr (Or.inl hsame)⟩
    · exact Or.inl htag
    · exact Or.inr ⟨pair, hpair, hform⟩

/-- Without a colon in the tags the last colon of a composite is the one that joins it. -/
theorem not_listsLike_of_colonFree {document : Json} {category tag form : String}
    (h : composite category tag = some form) (htag : ColonFree tag)
    (htags : ∀ listed ∈ listedTags document, ColonFree listed) :
    ¬ ListsLike document category tag form := by
  rintro (⟨listed, hlisted, hform⟩ | ⟨pair, hpair, hform, hdiffers⟩)
  · obtain ⟨left, right, -, -, rfl⟩ := composite_eq_some_iff.mp h
    exact htags listed hlisted _ hform (separator_mem_join left right)
  · have hlisted : pair.2 ∈ listedTags document :=
      List.mem_append_right _ (List.mem_map_of_mem hpair)
    rcases (composite_eq_iff h).mp hform with
      hsame | ⟨-, middle, right, -, -, -, hjoined⟩ | ⟨-, middle, right, -, -, -, hjoined⟩
    · exact hdiffers hsame
    · exact htag _ hjoined (separator_mem_join middle right)
    · exact htags _ hlisted _ hjoined (separator_mem_join middle right)

/-- A composite is counted for the documents that list its tag under its category, and beside them
for those that list it as a tag or by a pair with the colon elsewhere.  Of tags without a colon
nothing but its own pair is counted for it. -/
theorem count_composite (documents : List Json) {category tag form : String}
    (h : composite category tag = some form) :
    (UsageScan.ofDocuments documents).count form =
        documents.countP (ListsUnder · category tag) +
          documents.countP (fun document => ListsLike document category tag form ∧
            ¬ ListsUnder document category tag) ∧
      ((UsageScan.ofDocuments documents).count form =
          documents.countP (ListsUnder · category tag) ↔
        ∀ document ∈ documents, ListsLike document category tag form →
          ListsUnder document category tag) ∧
      (∀ pair : String × String, composite pair.1 pair.2 = some form ↔
        SamePair pair (category, tag) ∨ Shifted pair (category, tag) ∨
          Shifted (category, tag) pair) ∧
      (ColonFree tag →
        (∀ document ∈ documents, ∀ listed ∈ listedTags document, ColonFree listed) →
        (UsageScan.ofDocuments documents).count form =
          documents.countP (ListsUnder · category tag)) := by
  have hcount : (UsageScan.ofDocuments documents).count form =
      documents.countP (ListsUnder · category tag) +
        documents.countP (fun document => ListsLike document category tag form ∧
          ¬ ListsUnder document category tag) := by
    rw [(UsageScan.tallies_ofDocuments documents).count,
      List.countP_eq_countP_filter_add documents _ (ListsUnder · category tag),
      List.countP_filter, List.countP_filter]
    refine congrArg₂ (· + ·) (List.countP_congr fun document _ => ?_)
      (List.countP_congr fun document _ => ?_)
    · simp only [mem_projectRepresentations_composite_iff h, Bool.and_eq_true, decide_eq_true_eq]
      exact and_iff_right_of_imp Or.inl
    · simp only [mem_projectRepresentations_composite_iff h, Bool.and_eq_true, decide_eq_true_eq,
        Bool.not_eq_true', decide_eq_false_iff_not]
      exact and_congr_left fun hnot => or_iff_right hnot
  have hexact : (UsageScan.ofDocuments documents).count form =
      documents.countP (ListsUnder · category tag) ↔
        ∀ document ∈ documents, ListsLike document category tag form →
          ListsUnder document category tag := by
    rw [hcount, Nat.add_eq_left, List.countP_eq_zero]
    simp
  refine ⟨hcount, hexact, fun pair => composite_eq_iff h, ?_⟩
  intro htag htags
  refine hexact.mpr fun document hdocument hlike => ?_
  exact absurd hlike (not_listsLike_of_colonFree h htag (htags document hdocument))

/-- A flat tag with a colon is counted for the composite that it is spelled like. -/
theorem flat_tag_counted_for_composite : ¬ ∀ (documents : List Json) (category tag form : String),
    composite category tag = some form → (UsageScan.ofDocuments documents).count form =
      documents.countP (ListsUnder · category tag) := by
  intro h
  have hequal := h [.object [(flatField, .array [.string "sponsor:acme"])],
    .object [(categorizedField, .object [("sponsor", .array [.string "acme"])])]] "sponsor" "acme"
    "sponsor:acme" (by decide +kernel)
  exact absurd hequal (by decide +kernel)

/-- In each half one document lists the pair, and another one what is counted like it. -/
def colons : List Json :=
  [.object [(categorizedField, .object [("Sponsor", .array [.string " ACME"])])],
    .object [(flatField, .array [.string "sponsor:acme"])],
    .object [(categorizedField, .object [("a:b", .array [.string "c"])])],
    .object [(categorizedField, .object [("a", .array [.string "b:c"])])]]

/-- Where the tags have no colon the category may. -/
theorem count_colons :
    (UsageScan.ofDocuments colons).count "sponsor:acme" = 1 + 1 ∧
      (UsageScan.ofDocuments colons).count "a:b:c" = 1 + 1 ∧
      Shifted ("a:b", "c") ("a", "b:c") ∧
      (UsageScan.ofDocuments [colons[0], colons[2]]).count "a:b:c" = 1 := by
  have hsponsor : composite "sponsor" "Acme" = some "sponsor:acme" := by decide +kernel
  have hpair : composite "a:b" "c" = some "a:b:c" := by decide +kernel
  obtain ⟨hacme, -, -, -⟩ := count_composite colons hsponsor
  obtain ⟨hmoved, -, -, -⟩ := count_composite colons hpair
  obtain ⟨-, -, -, hfree⟩ := count_composite [colons[0], colons[2]] hpair
  refine ⟨hacme.trans (by decide +kernel), hmoved.trans (by decide +kernel), ?_, ?_⟩
  · exact ⟨"a", "b", "c", by decide +kernel, by decide +kernel, by decide +kernel,
      by decide +kernel⟩
  · exact (hfree (by decide +kernel) (by decide +kernel)).trans (by decide +kernel)

end TagLedger.Tag
