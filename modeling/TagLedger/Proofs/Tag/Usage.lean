import TagLedger.Proofs.Table
import TagLedger.Tag.Usage
import Mathlib.Algebra.BigOperators.Group.List.Basic
import Mathlib.Algebra.Ring.Nat
import Mathlib.Data.List.Induction

/-!
# Counting and ranking

The counts of a scan are tallied document by document; each adds one to the counts of its
representations, which are distinct.  Ranking sorts the counts, and since no tag has two of them the
order is strict.
-/

namespace TagLedger.Tag.UsageScan

/-! ## Counting -/

/-- Every tag is counted as often as it is used, and no other tag is counted. -/
def Tallies (counts : Table Nat) (uses : String → Nat) : Prop :=
  ∀ tag, counts.find? tag = if uses tag = 0 then none else some (uses tag)

theorem tallies_empty : Tallies .empty fun _ => 0 := by
  intro tag
  rfl

theorem find?_addRepresentation (counts : Table Nat) (representation tag : String) :
    (addRepresentation counts representation).find? tag =
      if tag = representation then some ((counts.find? tag).getD 0 + 1) else counts.find? tag := by
  rw [addRepresentation, Table.find?_insert]
  by_cases h : tag = representation
  · simp [h]
  · simp [h]

theorem find?_foldl_addRepresentation {representations : List String}
    (h : representations.Nodup) (counts : Table Nat) (tag : String) :
    (representations.foldl addRepresentation counts).find? tag =
      if tag ∈ representations then some ((counts.find? tag).getD 0 + 1)
      else counts.find? tag := by
  induction representations generalizing counts with
  | nil => simp
  | cons representation rest ih =>
      obtain ⟨hnew, hrest⟩ := List.nodup_cons.mp h
      rw [List.foldl_cons, ih hrest, find?_addRepresentation]
      by_cases htag : tag = representation
      · subst htag
        simp [hnew]
      · simp [htag]

theorem Tallies.addDocument {scan : UsageScan} {uses : String → Nat}
    (h : Tallies scan.counts uses) (document : Json) :
    Tallies (scan.addDocument document).counts fun tag =>
      uses tag + if tag ∈ projectRepresentations document then 1 else 0 := by
  intro tag
  have hnodup : (projectRepresentations document).Nodup := nodup_orderedSet _
  rw [UsageScan.addDocument, find?_foldl_addRepresentation hnodup, h tag]
  by_cases hmem : tag ∈ projectRepresentations document
  · by_cases hzero : uses tag = 0 <;> simp [hmem, hzero]
  · simp [hmem]

/-- The scan of these documents, added one after the other. -/
def ofDocuments (documents : List Json) : UsageScan :=
  documents.foldl addDocument empty

theorem tallies_ofDocuments (documents : List Json) : Tallies (ofDocuments documents).counts
    fun tag => documents.countP (tag ∈ projectRepresentations ·) := by
  induction documents using List.reverseRecOn with
  | nil => exact tallies_empty
  | append_singleton documents document ih =>
      rw [ofDocuments, List.foldl_append, ← ofDocuments]
      simpa [List.countP_append, List.countP_singleton] using ih.addDocument document

theorem Tallies.count {scan : UsageScan} {uses : String → Nat} (h : Tallies scan.counts uses)
    (tag : String) : scan.count tag = uses tag := by
  rw [UsageScan.count, h tag]
  split
  · next hzero => rw [hzero, Option.getD_none]
  · rw [Option.getD_some]

theorem Tallies.mem_rows_iff {counts : Table Nat} {uses : String → Nat} (h : Tallies counts uses)
    {tag : String} {count : Nat} : (tag, count) ∈ counts.rows ↔ uses tag = count ∧ 0 < count := by
  rw [Table.mem_rows_iff, h tag]
  by_cases hzero : uses tag = 0
  · simp only [hzero, ↓reduceIte, reduceCtorEq, false_iff]
    omega
  · simp only [hzero, ↓reduceIte, Option.some.injEq]
    omega

theorem Tallies.mem_keys_iff {counts : Table Nat} {uses : String → Nat} (h : Tallies counts uses)
    {tag : String} : tag ∈ counts.keys ↔ 0 < uses tag := by
  simp [Table.mem_keys_iff, ← Table.mem_rows_iff, h.mem_rows_iff]

/-! ## Ranking -/

/-- The greater count comes first, of equal counts the smaller tag. -/
def Outranks (left right : String × Nat) : Prop :=
  right.2 < left.2 ∨ left.2 = right.2 ∧ left.1 < right.1

theorem ranksBefore_eq_true_iff {left right : String × Nat} :
    ranksBefore left right = true ↔ right.2 < left.2 ∨ left.2 = right.2 ∧ left.1 ≤ right.1 := by
  simp [ranksBefore]

theorem perm_ranked (scan : UsageScan) : scan.ranked.Perm scan.counts.rows :=
  List.mergeSort_perm _ _

theorem pairwise_ranked (scan : UsageScan) : scan.ranked.Pairwise Outranks := by
  have hsorted : scan.ranked.Pairwise fun left right => ranksBefore left right = true := by
    refine List.pairwise_mergeSort ?_ ?_ _
    · intro first second third
      simp only [ranksBefore_eq_true_iff]
      rintro (hfirst | ⟨hfirst, htag⟩) (hsecond | ⟨hsecond, hother⟩)
      · exact Or.inl (Nat.lt_trans hsecond hfirst)
      · exact Or.inl (hsecond ▸ hfirst)
      · exact Or.inl (hfirst ▸ hsecond)
      · exact Or.inr ⟨hfirst.trans hsecond, String.le_trans htag hother⟩
    · intro left right
      rw [Bool.or_eq_true, ranksBefore_eq_true_iff, ranksBefore_eq_true_iff]
      rcases Nat.lt_trichotomy left.2 right.2 with hlt | heq | hgt
      · exact Or.inr (Or.inl hlt)
      · exact (String.le_total left.1 right.1).imp (fun h => Or.inr ⟨heq, h⟩)
          fun h => Or.inr ⟨heq.symm, h⟩
      · exact Or.inl (Or.inl hgt)
  have hdistinct : scan.ranked.Pairwise fun left right => left.1 ≠ right.1 := by
    rw [← List.pairwise_map, ← List.nodup_iff_pairwise_ne]
    exact ((perm_ranked scan).map Prod.fst).nodup_iff.mpr scan.counts.nodup_keys
  refine hsorted.imp₂ (fun left right hranks hne => ?_) hdistinct
  refine (ranksBefore_eq_true_iff.mp hranks).imp_right fun hequal => ⟨hequal.1, ?_⟩
  exact Std.lt_of_le_of_ne hequal.2 hne

theorem totalOccurrences_eq_sum (scan : UsageScan) :
    scan.totalOccurrences = (scan.ranked.map Prod.snd).sum := by
  rw [((perm_ranked scan).map Prod.snd).sum_eq, List.sum_eq_foldr, List.foldr_map]
  rfl

end TagLedger.Tag.UsageScan
