import TagLedger.Proofs.Tag.Composite
import TagLedger.Proofs.Tag.Spelling
import Mathlib.Logic.Relation

/-!
# The representations of a project

A project is counted under the canonical form of every tag that it lists and, where a category lists
the tag, under the composite with the canonical form of the category.  Nothing else is a
representation, whatever stands where lists and tags are expected.  So it does not matter how the
lists are ordered, how often they repeat a tag, how they spell it, and what they hold beside tags.
-/

namespace TagLedger.Tag

/-! ## What is listed -/

/-- The value is a list, and one of the texts in it has this canonical form. -/
def Names (value : Json) (form : String) : Prop :=
  ∃ entries tag, value = .array entries ∧ .string tag ∈ entries ∧ canonicalize tag = some form

/-- The value is a map, and what it has under the category names the form. -/
def NamesUnder (value : Json) (category form : String) : Prop :=
  ∃ fields list, value = .object fields ∧ (category, list) ∈ fields ∧ Names list form

theorem mem_stringEntries_iff {value : Json} {tag : String} :
    tag ∈ stringEntries (some value) ↔ ∃ entries, value = .array entries ∧ .string tag ∈ entries := by
  cases value with
  | array entries =>
      simp only [stringEntries, List.mem_filterMap, Json.array.injEq, exists_eq_left']
      constructor
      · rintro ⟨entry, hentry, htag⟩
        cases entry with
        | string text =>
            cases htag
            exact hentry
        | _ => cases htag
      · exact fun hentry => ⟨_, hentry, rfl⟩
  | _ => simp [stringEntries]

theorem names_iff {value : Json} {form : String} :
    Names value form ↔ ∃ tag ∈ stringEntries (some value), canonicalize tag = some form := by
  simp only [Names, mem_stringEntries_iff]
  constructor
  · rintro ⟨entries, tag, hvalue, htag, hform⟩
    exact ⟨tag, ⟨entries, hvalue, htag⟩, hform⟩
  · rintro ⟨tag, ⟨entries, hvalue, htag⟩, hform⟩
    exact ⟨entries, tag, hvalue, htag, hform⟩

theorem mem_canonicalEntries_iff {list : Option Json} {form : String} :
    form ∈ canonicalEntries list ↔ ∃ value ∈ list, Names value form := by
  cases list with
  | none => simp [canonicalEntries, stringEntries]
  | some value => simp [canonicalEntries, List.mem_filterMap, names_iff]

theorem exists_categorizedPairs_iff {categorized : Option Json} {category form : String} :
    (∃ tag, (category, tag) ∈ categorizedPairs categorized ∧ canonicalize tag = some form) ↔
      ∃ value ∈ categorized, NamesUnder value category form := by
  unfold categorizedPairs
  split
  · next fields =>
      simp only [List.mem_flatMap, List.mem_map, Prod.mk.injEq, NamesUnder, Option.mem_some,
        exists_eq_left', Json.object.injEq, exists_and_left]
      constructor
      · rintro ⟨tag, ⟨⟨_, list⟩, hfield, _, htag, rfl, rfl⟩, hform⟩
        exact ⟨list, hfield, (names_iff.mpr ⟨_, htag, hform⟩)⟩
      · rintro ⟨list, hfield, hnames⟩
        obtain ⟨tag, htag, hform⟩ := names_iff.mp hnames
        exact ⟨tag, ⟨(category, list), hfield, tag, htag, rfl, rfl⟩, hform⟩
  · next hother =>
      simp only [List.not_mem_nil, false_and, exists_false, false_iff]
      rintro ⟨value, rfl, fields, list, rfl, -⟩
      exact hother fields rfl

/-- What a tag in a category is counted under: its own canonical form, and the composite unless the
category is blank. -/
def CountsAs (category bare form : String) : Prop :=
  form = bare ∨ ∃ scope, canonicalize category = some scope ∧ form = scope ++ ":" ++ bare

theorem countsAs_iff {category tag form : String} :
    (canonicalize tag = some form ∨ composite category tag = some form) ↔
      ∃ bare, canonicalize tag = some bare ∧ CountsAs category bare form := by
  constructor
  · rintro (hform | hform)
    · exact ⟨form, hform, Or.inl rfl⟩
    · obtain ⟨scope, bare, hscope, hbare, rfl⟩ := composite_eq_some_iff.mp hform
      exact ⟨bare, hbare, Or.inr ⟨scope, hscope, join_eq_append scope bare⟩⟩
  · rintro ⟨bare, hbare, rfl | ⟨scope, hscope, rfl⟩⟩
    · exact Or.inl hbare
    · exact Or.inr (composite_eq_some_iff.mpr
        ⟨scope, bare, hscope, hbare, join_eq_append scope bare⟩)

theorem mem_categorizedForms_iff_names {categorized : Option Json} {form : String} :
    form ∈ categorizedForms categorized ↔ ∃ value ∈ categorized, ∃ category bare,
      NamesUnder value category bare ∧ CountsAs category bare form := by
  rw [mem_categorizedForms_iff]
  constructor
  · rintro ⟨⟨category, tag⟩, hpair, hform⟩
    obtain ⟨bare, hbare, hcounts⟩ := countsAs_iff.mp hform
    obtain ⟨value, hvalue, hnames⟩ := exists_categorizedPairs_iff.mp ⟨tag, hpair, hbare⟩
    exact ⟨value, hvalue, category, bare, hnames, hcounts⟩
  · rintro ⟨value, hvalue, category, bare, hnames, hcounts⟩
    obtain ⟨tag, hpair, hbare⟩ := exists_categorizedPairs_iff.mpr ⟨value, hvalue, hnames⟩
    exact ⟨(category, tag), hpair, countsAs_iff.mpr ⟨bare, hbare, hcounts⟩⟩

/-- A project is counted under a form exactly if it lists a tag that counts as the form. -/
theorem mem_projectRepresentations_iff_names {document : Json} {form : String} :
    form ∈ projectRepresentations document ↔
      (∃ value ∈ document.field? flatField, Names value form) ∨
        ∃ value ∈ document.field? categorizedField, ∃ category bare,
          NamesUnder value category bare ∧ CountsAs category bare form := by
  rw [projectRepresentations, representations, mem_orderedSet, List.mem_append,
    mem_canonicalEntries_iff, mem_categorizedForms_iff_names]

/-! ## Lists of the same tags -/

/-- One change to a list that leaves the tags in it: the entries change their order, one of them is
repeated, a tag is spelled in another way, or what is no tag is added. -/
inductive Relists : Json → Json → Prop where
  | permuted {entries others : List Json} (h : entries.Perm others) :
      Relists (.array entries) (.array others)
  | repeated {entries : List Json} {entry : Json} (h : entry ∈ entries) :
      Relists (.array entries) (.array (entry :: entries))
  | respelled {entries : List Json} {tag spelling : String} (h : Text.Respells spelling tag) :
      Relists (.array (.string tag :: entries)) (.array (.string spelling :: entries))
  | blank {entries : List Json} {text : String} (h : Text.isAllBlank text = true) :
      Relists (.array entries) (.array (.string text :: entries))
  | noText {entries : List Json} {entry : Json} (h : entry.string? = none) :
      Relists (.array entries) (.array (entry :: entries))

/-- One such change to the list under one category. -/
inductive RelistsUnder : Json → Json → Prop where
  | list {before after : List (String × Json)} {category : String} {list other : Json}
      (h : Relists list other) : RelistsUnder (.object (before ++ (category, list) :: after))
        (.object (before ++ (category, other) :: after))

/-- Any number of such changes, made or taken back, lead from the lists of the one project to those
of the other; fields that are no lists are left. -/
structure SameTags (document other : Json) : Prop where
  flat : Option.Rel (Relation.EqvGen Relists) (document.field? flatField) (other.field? flatField)
  categorized : Option.Rel (Relation.EqvGen RelistsUnder) (document.field? categorizedField)
    (other.field? categorizedField)

theorem names_array_iff {entries : List Json} {form : String} : Names (.array entries) form ↔
    ∃ tag, .string tag ∈ entries ∧ canonicalize tag = some form := by
  simp [Names]

theorem Relists.names_iff {value other : Json} (h : Relists value other) (form : String) :
    Names value form ↔ Names other form := by
  cases h with
  | permuted h => simp only [names_array_iff, h.mem_iff]
  | @repeated entries entry h =>
      simp only [names_array_iff, List.mem_cons]
      refine exists_congr fun tag => and_congr_left' ⟨Or.inr, ?_⟩
      rintro (rfl | htag)
      · exact h
      · exact htag
  | respelled h =>
      simp [names_array_iff, or_and_right, exists_or, canonicalize_of_respells h]
  | blank h =>
      have hnone := canonicalize_eq_none_iff.mpr (Text.trim_eq_empty_iff.mpr h)
      simp [names_array_iff, or_and_right, exists_or, hnone]
  | @noText entries entry h =>
      have hne (tag : String) : Json.string tag ≠ entry := by
        rintro rfl
        cases h
      simp [names_array_iff, hne]

theorem RelistsUnder.namesUnder_iff {value other : Json} (h : RelistsUnder value other)
    (category form : String) : NamesUnder value category form ↔ NamesUnder other category form := by
  cases h with
  | list h =>
      simp [NamesUnder, or_and_right, exists_or, and_assoc, h.names_iff]

/-- What no single change touches is the same in two fields that changes lead between. -/
theorem exists_mem_iff_of_changes {change : Json → Json → Prop} {holds : Json → Prop}
    (hchange : ∀ {value other}, change value other → (holds value ↔ holds other))
    {field other : Option Json} (h : Option.Rel (Relation.EqvGen change) field other) :
    (∃ value ∈ field, holds value) ↔ ∃ value ∈ other, holds value := by
  have hequivalence : Equivalence fun value other => (holds value ↔ holds other) :=
    ⟨fun _ => Iff.rfl, Iff.symm, Iff.trans⟩
  cases h with
  | some h => simpa using hequivalence.eqvGen_iff.mp (h.mono fun _ _ => hchange)
  | none => rfl

theorem SameTags.projectRepresentations_eq {document other : Json} (h : SameTags document other) :
    projectRepresentations other = projectRepresentations document := by
  have hmem (form : String) :
      form ∈ projectRepresentations other ↔ form ∈ projectRepresentations document := by
    rw [mem_projectRepresentations_iff_names, mem_projectRepresentations_iff_names]
    refine (or_congr (exists_mem_iff_of_changes (fun h => h.names_iff form) h.flat)
      (exists_mem_iff_of_changes (fun h => ?_) h.categorized)).symm
    exact exists_congr fun category => exists_congr fun bare =>
      and_congr_left' (h.namesUnder_iff category bare)
  exact orderedSet_congr fun form => mem_orderedSet.symm.trans ((hmem form).trans mem_orderedSet)

/-- The representations of a project are the forms of the tags that it lists, the composites with
their categories among them.  Each is its own canonical form, and lists of the same tags give the
same representations. -/
theorem projectRepresentations_exact (document : Json) :
    (∀ form, form ∈ projectRepresentations document ↔
      (∃ value ∈ document.field? flatField, Names value form) ∨
        ∃ value ∈ document.field? categorizedField, ∃ category bare,
          NamesUnder value category bare ∧ CountsAs category bare form) ∧
      (∀ form ∈ projectRepresentations document,
        form ≠ "" ∧ canonicalize form = some form) ∧
      ∀ other, SameTags document other →
        projectRepresentations other = projectRepresentations document := by
  refine ⟨fun _ => mem_projectRepresentations_iff_names, fun form hform => ?_,
    fun _ => SameTags.projectRepresentations_eq⟩
  have hnormal := normal_of_mem_projectRepresentations hform
  exact ⟨hnormal.nonempty, hnormal.canonicalize⟩

def galaCategories : Json :=
  .object [(" ", .array [.string "Extra"]), ("Sponsor", .array [.string "Acme", .ofNat 7])]

def gala : Json :=
  .object [(categorizedField, galaCategories),
    (flatField, .array [.string "VIP", .string "Gala"])]

/-- The lists of the gala once more, one of them backwards and with further entries. -/
def relistedGala : Json :=
  .object [(categorizedField, .object [(" ", .array [.string "Extra"]),
      ("Sponsor", .array [.string "\tACME", .ofNat 7])]),
    (flatField, .array
      [.string "Gala", .string "VIP", .string " GALA ", .null, .string "\n"])]

theorem sameTags_relistedGala : SameTags gala relistedGala where
  flat := by
    have hrepeated : Relists (.array [.string "VIP", .string "Gala"])
        (.array [.string "Gala", .string "VIP", .string "Gala"]) :=
      .repeated (by simp)
    have hrespelled : Relists (.array [.string "Gala", .string "VIP", .string "Gala"])
        (.array [.string " GALA ", .string "VIP", .string "Gala"]) :=
      .respelled ⟨" ", "GALA", " ", by decide +kernel, by decide +kernel, by decide +kernel,
        by decide +kernel⟩
    have hnull : Relists (.array [.string " GALA ", .string "VIP", .string "Gala"])
        (.array [.null, .string " GALA ", .string "VIP", .string "Gala"]) :=
      .noText rfl
    have hblank : Relists (.array [.null, .string " GALA ", .string "VIP", .string "Gala"])
        (.array [.string "\n", .null, .string " GALA ", .string "VIP", .string "Gala"]) :=
      .blank (by decide +kernel)
    refine Option.Rel.some (.trans _ _ _ (.rel _ _ hrepeated) (.trans _ _ _ (.rel _ _ hrespelled)
      (.trans _ _ _ (.rel _ _ hnull) (.trans _ _ _ (.rel _ _ hblank) (.rel _ _ ?_)))))
    exact .permuted (List.reverse_perm _).symm
  categorized := by
    have hrespelled : Relists (.array [.string "Acme", .ofNat 7])
        (.array [.string "\tACME", .ofNat 7]) :=
      .respelled ⟨"\t", "ACME", "", by decide +kernel, by decide +kernel, by decide +kernel,
        by decide +kernel⟩
    exact Option.Rel.some (.rel _ _
      (@RelistsUnder.list [(" ", .array [.string "Extra"])] [] "Sponsor" _ _ hrespelled))

/-- The tag under a blank category counts without it, and the composite is found in the other lists
too. -/
theorem gala_representations : "extra" ∈ projectRepresentations gala ∧
    "sponsor:acme" ∈ projectRepresentations relistedGala ∧
      canonicalize "sponsor:acme" = some "sponsor:acme" := by
  obtain ⟨hforms, hcanonical, hsame⟩ := projectRepresentations_exact gala
  have hextra : NamesUnder galaCategories " " "extra" :=
    ⟨_, _, rfl, List.mem_cons_self, _, "Extra", rfl, List.mem_cons_self, by decide +kernel⟩
  have hacme : NamesUnder galaCategories "Sponsor" "acme" :=
    ⟨_, _, rfl, List.mem_cons_of_mem _ List.mem_cons_self, _, "Acme", rfl, List.mem_cons_self,
      by decide +kernel⟩
  have hsponsor : canonicalize "Sponsor" = some "sponsor" := by decide +kernel
  have hfield : gala.field? categorizedField = some galaCategories := by simp [gala, Json.field?]
  have hbare : "extra" ∈ projectRepresentations gala :=
    (hforms "extra").mpr (Or.inr ⟨_, hfield, " ", "extra", hextra, Or.inl rfl⟩)
  have hcomposite : "sponsor:acme" ∈ projectRepresentations gala :=
    (hforms "sponsor:acme").mpr (Or.inr
      ⟨_, hfield, "Sponsor", "acme", hacme, Or.inr ⟨"sponsor", hsponsor, by decide +kernel⟩⟩)
  refine ⟨hbare, ?_, (hcanonical _ hcomposite).2⟩
  rw [hsame relistedGala sameTags_relistedGala]
  exact hcomposite

end TagLedger.Tag
