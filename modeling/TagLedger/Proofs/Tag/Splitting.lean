import TagLedger.Proofs.Tag.Canonical

/-!
# Splitting a composite

A representation is split at its first colon, whatever it was composed of.  So splitting gives the
two parts of a composite back exactly if the category has no colon; a colon in the tag does no harm.
-/

namespace TagLedger.Tag

/-! ## The first colon -/

theorem splitAtSeparator_append {left : List Char} (h : separator ∉ left) (right : List Char) :
    splitAtSeparator (left ++ separator :: right) = some (left, right) := by
  induction left with
  | nil => simp [splitAtSeparator]
  | cons first left ih =>
      obtain ⟨hfirst, hleft⟩ := not_or.mp (List.mem_cons.not.mp h)
      rw [List.cons_append, splitAtSeparator, if_neg (Ne.symm hfirst), ih hleft]
      rfl

theorem splitAtSeparator_eq_none {text : List Char} (h : separator ∉ text) :
    splitAtSeparator text = none := by
  induction text with
  | nil => rfl
  | cons first rest ih =>
      obtain ⟨hfirst, hrest⟩ := not_or.mp (List.mem_cons.not.mp h)
      rw [splitAtSeparator, if_neg (Ne.symm hfirst), ih hrest]
      rfl

theorem exists_join_of_mem {text : String} (h : separator ∈ text.toList) :
    ∃ category tag, separator ∉ category.toList ∧ text = join category tag := by
  obtain ⟨left, right, htext, hleft⟩ := List.eq_append_cons_of_mem h
  refine ⟨String.ofList left, String.ofList right, by simpa using hleft, ?_⟩
  rw [← String.toList_inj, toList_join, String.toList_ofList, String.toList_ofList, htext]

theorem join_inj_of_not_mem {category tag otherCategory otherTag : String}
    (h : separator ∉ category.toList) (hother : separator ∉ otherCategory.toList)
    (hjoin : join category tag = join otherCategory otherTag) :
    category = otherCategory ∧ tag = otherTag := by
  have hsplit := splitAtSeparator_append h tag.toList
  rw [← toList_join, hjoin, toList_join, splitAtSeparator_append hother, Option.some_inj,
    Prod.mk.injEq, String.toList_inj, String.toList_inj] at hsplit
  exact ⟨hsplit.1.symm, hsplit.2.symm⟩

/-! ## The parts of a representation -/

theorem splitComposite_of_not_mem {text : String} (h : separator ∉ text.toList) :
    splitComposite text = none := by
  rw [splitComposite, splitAtSeparator_eq_none h]

theorem splitComposite_join {category : String} (h : separator ∉ category.toList) (tag : String) :
    splitComposite (join category tag) =
      if category = "" ∨ tag = "" then none else some (category, tag) := by
  rw [splitComposite, toList_join, splitAtSeparator_append h]
  simp

theorem splitComposite_eq_some_iff {text category tag : String} :
    splitComposite text = some (category, tag) ↔
      category ≠ "" ∧ tag ≠ "" ∧ separator ∉ category.toList ∧ join category tag = text := by
  constructor
  · intro h
    have hmem : separator ∈ text.toList := by
      by_contra hnot
      rw [splitComposite_of_not_mem hnot] at h
      cases h
    obtain ⟨left, right, hleft, rfl⟩ := exists_join_of_mem hmem
    rw [splitComposite_join hleft] at h
    split at h
    · cases h
    · next hparts =>
        cases h
        obtain ⟨hcategory, htag⟩ := not_or.mp hparts
        exact ⟨hcategory, htag, hleft, rfl⟩
  · rintro ⟨hcategory, htag, hnot, rfl⟩
    rw [splitComposite_join hnot, if_neg (not_or.mpr ⟨hcategory, htag⟩)]

theorem splitComposite_eq_none_iff {text : String} : splitComposite text = none ↔
    separator ∉ text.toList ∨ (∃ rest, text = ":" ++ rest) ∨
      ∃ front, separator ∉ front.toList ∧ text = front ++ ":" := by
  have hstart (rest : String) : ":" ++ rest = join "" rest := by
    rw [join_eq_append, String.empty_append]
  have hend (front : String) : front ++ ":" = join front "" := by
    rw [join_eq_append, String.append_empty]
  by_cases hmem : separator ∈ text.toList
  · obtain ⟨left, right, hleft, rfl⟩ := exists_join_of_mem hmem
    simp only [splitComposite_join hleft, hmem, not_true_eq_false, false_or, hstart, hend,
      ite_eq_left_iff, reduceCtorEq, imp_false, not_not]
    constructor
    · rintro (rfl | rfl)
      · exact Or.inl ⟨right, rfl⟩
      · exact Or.inr ⟨left, hleft, rfl⟩
    · rintro (⟨rest, hjoin⟩ | ⟨front, hfront, hjoin⟩)
      · exact Or.inl (join_inj_of_not_mem hleft (by simp) hjoin).1
      · exact Or.inr (join_inj_of_not_mem hleft hfront hjoin).2
  · simp [splitComposite_of_not_mem hmem, hmem]

/-- Splitting undoes composing for the categories without a colon and for no others.  Whatever is
split has its parts around its first colon, and nothing is split where one of them would be empty. -/
theorem splitComposite_exact :
    (∀ category tag form, composite category tag = some form → ∃ left right,
      canonicalize category = some left ∧ canonicalize tag = some right ∧
        (splitComposite form = some (left, right) ↔ separator ∉ left.toList)) ∧
      (∀ text category tag, splitComposite text = some (category, tag) ↔
        category ≠ "" ∧ tag ≠ "" ∧ separator ∉ category.toList ∧
          category ++ ":" ++ tag = text) ∧
      ∀ text, splitComposite text = none ↔
        separator ∉ text.toList ∨ (∃ rest, text = ":" ++ rest) ∨
          ∃ front, separator ∉ front.toList ∧ text = front ++ ":" := by
  refine ⟨fun category tag form hform => ?_, fun text category tag => ?_,
    fun text => splitComposite_eq_none_iff⟩
  · obtain ⟨left, right, hleft, hright, rfl⟩ := composite_eq_some_iff.mp hform
    refine ⟨left, right, hleft, hright, ?_⟩
    rw [splitComposite_eq_some_iff]
    constructor
    · rintro ⟨-, -, hcolon, -⟩
      exact hcolon
    · intro hcolon
      exact ⟨(normal_of_canonicalize hleft).nonempty, (normal_of_canonicalize hright).nonempty,
        hcolon, rfl⟩
  · rw [splitComposite_eq_some_iff, join_eq_append]

/-- A colon in a category takes the rest of it to the tag, and one in a tag stays there. -/
theorem splitComposite_roles : composite "Role:Lead" "VIP" = some "role:lead:vip" ∧
    composite "Role" "Lead:VIP" = some "role:lead:vip" ∧
    splitComposite "role:lead:vip" ≠ some ("role:lead", "vip") ∧
    splitComposite "role:lead:vip" = some ("role", "lead:vip") ∧
      "role" ++ ":" ++ "lead:vip" = "role:lead:vip" := by
  have hoverCategory : composite "Role:Lead" "VIP" = some "role:lead:vip" := by decide +kernel
  have hoverTag : composite "Role" "Lead:VIP" = some "role:lead:vip" := by decide +kernel
  have hlead : canonicalize "Role:Lead" = some "role:lead" := by decide +kernel
  have hvip : canonicalize "VIP" = some "vip" := by decide +kernel
  have hrole : canonicalize "Role" = some "role" := by decide +kernel
  have hleadVip : canonicalize "Lead:VIP" = some "lead:vip" := by decide +kernel
  obtain ⟨hcomposed, hparts, -⟩ := splitComposite_exact
  obtain ⟨left, right, hleft, hright, hcolon⟩ :=
    hcomposed "Role:Lead" "VIP" "role:lead:vip" hoverCategory
  cases hlead.symm.trans hleft
  cases hvip.symm.trans hright
  obtain ⟨left, right, hleft, hright, hfree⟩ :=
    hcomposed "Role" "Lead:VIP" "role:lead:vip" hoverTag
  cases hrole.symm.trans hleft
  cases hleadVip.symm.trans hright
  have hsplit := hfree.mpr (by decide)
  exact ⟨hoverCategory, hoverTag, hcolon.not.mpr (by decide), hsplit,
    ((hparts _ _ _).mp hsplit).2.2.2⟩

end TagLedger.Tag
