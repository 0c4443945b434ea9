import TagLedger.Proofs.Store.Usage
import TagLedger.Proofs.Tag.Composite
import TagLedger.Proofs.Text.Joint
import TagLedger.Store.Color

/-!
# Names of a composite

The usage report counts a categorized tag under the composite of the two canonical forms.  Whoever
asks for the tag writes category and tag in one text, which is lower-cased as a whole.  Both ways
lead to the same entries unless a capital sigma stands at the colon: there the colon, which is
case-ignorable, does not end the word for the one way and does for the other.
-/

namespace TagLedger

namespace Tag

theorem isCaseIgnorable_separator : Text.isCaseIgnorable separator = true := by
  decide +kernel

theorem lower_join_eq_iff {category tag : String} :
    Text.lower (join category tag) = join (Text.lower category) (Text.lower tag) ↔
      Text.sigmaAtJoint category.toList tag.toList = false := by
  rw [← Text.lowerList_joint_eq_iff isCaseIgnorable_separator settled_separator,
    ← String.toList_inj, Text.lower, String.toList_ofList, toList_join, toList_join, Text.lower,
    Text.lower, String.toList_ofList, String.toList_ofList]

/-- The texts lead to the same entries of the registry and of the colors, in every store. -/
structure SameName (text other : String) : Prop where
  resolve : ∀ candidate now store,
    Store.resolve candidate now text store = Store.resolve candidate now other store
  findTag : ∀ store, Store.findTag text store = Store.findTag other store
  setColor : ∀ now color store,
    Store.setColor now text color store = Store.setColor now other color store
  colorFor : ∀ (colors : ColorTable) fallback,
    colors.colorFor text fallback = colors.colorFor other fallback

theorem colorFor_of_canonicalize {text form : String} (h : canonicalize text = some form)
    (colors : ColorTable) (fallback : String) :
    colors.colorFor text fallback = (colors.find? form).getD fallback := by
  rw [ColorTable.colorFor, h]

/-- A text leads to the entries under a canonical tag exactly if that is its canonical form. -/
theorem sameName_iff {text other form : String} (htext : canonicalize text = some other)
    (hform : Normal form) : SameName text form ↔ other = form := by
  constructor
  · intro h
    have hcolor := h.colorFor (Table.empty.insert form "found") "missing"
    rw [colorFor_of_canonicalize htext, colorFor_of_canonicalize hform.canonicalize,
      Table.find?_insert_self, Table.find?_insert, Option.getD_some] at hcolor
    by_contra hne
    rw [if_neg hne, Table.find?_empty, Option.getD_none] at hcolor
    exact absurd hcolor (by decide)
  · rintro rfl
    refine ⟨fun candidate now store => ?_, fun store => ?_, fun now color store => ?_,
      fun colors fallback => ?_⟩
    · rw [Store.resolve, Store.resolve, canonicalOrInvalid, canonicalOrInvalid, htext,
        hform.canonicalize]
    · rw [Store.findTag, Store.findTag, htext, hform.canonicalize]
    · rw [Store.setColor, Store.setColor, htext, hform.canonicalize]
    · rw [colorFor_of_canonicalize htext, colorFor_of_canonicalize hform.canonicalize]

end Tag

/-- The stored document lists the tag under the category. -/
def Cell.Lists (body : Cell) (category tag : String) : Prop :=
  ∃ document fields tags, body.document? = some document ∧
    document.field? Tag.categorizedField = some (.object fields) ∧ (category, tags) ∈ fields ∧
    tag ∈ Tag.stringEntries (some tags)

theorem Cell.Lists.uses {body : Cell} {category tag form : String} (h : body.Lists category tag)
    (hform : Tag.composite category tag = some form) : body.Uses form := by
  obtain ⟨document, fields, tags, hdocument, hfields, hcategory, htag⟩ := h
  refine ⟨document, hdocument, Tag.mem_projectRepresentations_iff.mpr (Or.inr ?_)⟩
  exact ⟨(category, tag), Tag.mem_listedPairs hfields hcategory htag, hform⟩

namespace Store

theorem findTag_of_mem_entries {store : Store} {entry : SlugEntry} (h : entry ∈ store.entries)
    (hnormal : Tag.Normal entry.tag) : store.findTag entry.tag = .ok (some entry) := by
  rw [mem_entries_iff] at h
  cases hslugs : store.slugs with
  | none => simp [slugTable, hslugs] at h
  | some table =>
      have htable : store.registry = .ok table := by rw [registry, hslugs, require]
      rw [slugTable_of_registry htable] at h
      rw [findTag, hnormal.canonicalize, htable]
      simp only [h, Option.map_some, SlugEntry.ofRow]

/-- What a document uses is a row of the report, and its slug is found under it afterwards. -/
theorem exists_row_of_uses {candidates : Nat → String} {now tag : String} {options : UsageOptions}
    {store after : Store} {report : UsageReport} {body : Cell}
    (h : store.hashtagUsage candidates now options = (.ok report, after))
    (hbody : body ∈ store.projectBodies) (huses : body.Uses tag) :
    ∃ rows, UsageRows store after rows ∧ report = store.usageReport rows options ∧
      ∃ row ∈ rows, row.hashtag = tag ∧
        ∃ entry, after.findTag tag = .ok (some entry) ∧ entry.slug = row.slug := by
  obtain ⟨scan, slugs, hscan, hslugs, rfl⟩ := hashtagUsage_cases h
  have hcovers := covers_of_scanUsage hscan
  obtain ⟨hholds, hcontains⟩ := resolves_resolveAll hcovers.normal_of_mem_keys hslugs
  have hrows := usageRows_of_covers hcovers hholds hcontains
  refine ⟨scan.rows slugs, hrows, report_eq_usageReport hcovers hcontains options, ?_⟩
  have hnormal : Tag.Normal tag :=
    hcovers.normal_of_mem_keys tag (hcovers.mem_keys_iff.mpr ⟨body, hbody, huses⟩)
  obtain ⟨row, hrow, rfl⟩ := List.mem_map.mp ((hrows.complete tag).mpr ⟨body, hbody, huses⟩)
  obtain ⟨entry, hentry, htag, hslug⟩ := hrows.registered row hrow
  rw [← htag] at hnormal ⊢
  exact ⟨row, hrow, htag.symm, entry, findTag_of_mem_entries hentry hnormal, hslug⟩

end Store

/-- The text that joins a category and a tag leads to the entries under which the tag is counted in
that category if and only if no capital sigma stands at the joint. -/
theorem joined_name_iff {category tag : String} (hcategory : category ≠ "") (htag : tag ≠ "")
    (hcategoryTrimmed : Text.Trimmed category.toList) (htagTrimmed : Text.Trimmed tag.toList) :
    ∃ form, Tag.composite category tag = some form ∧
      (Tag.canonicalize (Tag.join category tag) = Tag.composite category tag ↔
        Text.sigmaAtJoint category.toList tag.toList = false) ∧
      (Tag.SameName (Tag.join category tag) form ↔
        Text.sigmaAtJoint category.toList tag.toList = false) ∧
      ∀ candidates now options (store after : Store) report,
        store.hashtagUsage candidates now options = (.ok report, after) →
        ∀ body ∈ store.projectBodies, body.Lists category tag →
          ∃ rows, Store.UsageRows store after rows ∧ report = store.usageReport rows options ∧
            ∃ row ∈ rows, row.hashtag = form ∧
              ∃ entry, after.findTag form = .ok (some entry) ∧ entry.slug = row.slug := by
  have hjoined := Tag.canonicalize_of_trimmed (Tag.join_ne_empty category tag)
    (Tag.trimmed_join hcategory htag hcategoryTrimmed htagTrimmed)
  have hleft := Tag.canonicalize_of_trimmed hcategory hcategoryTrimmed
  have hright := Tag.canonicalize_of_trimmed htag htagTrimmed
  have hform : Tag.composite category tag =
      some (Tag.join (Text.lower category) (Text.lower tag)) := by
    rw [Tag.composite, hleft, hright]
  have hnormal := (Tag.normal_of_canonicalize hleft).join (Tag.normal_of_canonicalize hright)
  refine ⟨_, hform, ?_, ?_, ?_⟩
  · rw [hjoined, hform, Option.some_inj, Tag.lower_join_eq_iff]
  · rw [Tag.sameName_iff hjoined hnormal, Tag.lower_join_eq_iff]
  · intro candidates now options store after report husage body hbody hlists
    exact Store.exists_row_of_uses husage hbody (hlists.uses hform)

/-- The sigma that closes the category is final there, and in front of a colon it is not. -/
theorem joined_name_differs : ¬ ∀ category tag : String, category ≠ "" → tag ≠ "" →
    Text.Trimmed category.toList → Text.Trimmed tag.toList →
      Tag.canonicalize (Tag.join category tag) = Tag.composite category tag := by
  intro h
  have hequal := h "ΟΔΟΣ" "acme" (by decide +kernel) (by decide +kernel) (by decide +kernel)
    (by decide +kernel)
  exact absurd hequal (by decide +kernel)

/-- A sigma that opens a word is no obstacle, and neither is one that ends the tag. -/
theorem tier_name : Tag.SameName (Tag.join "Tier" "ΣΟΦΟΣ") "tier:σοφος" := by
  obtain ⟨form, hform, -, hname, -⟩ := @joined_name_iff "Tier" "ΣΟΦΟΣ" (by decide +kernel)
    (by decide +kernel) (by decide +kernel) (by decide +kernel)
  obtain rfl : form = "tier:σοφος" := by
    have hvalue : Tag.composite "Tier" "ΣΟΦΟΣ" = some "tier:σοφος" := by decide +kernel
    exact Option.some.inj (hform.symm.trans hvalue)
  exact hname.mpr (by decide +kernel)

end TagLedger
