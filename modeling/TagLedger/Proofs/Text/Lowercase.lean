import TagLedger.Text.Blank
import TagLedger.Text.Lowercase
import Mathlib.Data.List.Basic

/-!
# Texts in lower case

Lower-casing settles a text: no character of the result is changed by another pass, not even where
the first pass looked at the neighbours, because no capital sigma is left.  The table of case runs
is inspected once, run against run: what one run leads to is never covered by another.  Neither
does lower-casing make a character blank, so a trimmed text stays trimmed.
-/

namespace TagLedger.Text

/-! ## Runs -/

/-- The codes that the run leads to are outside of the range. -/
def CaseRun.avoids (run : CaseRun) (first last : Nat) : Bool :=
  Nat.blt last run.target || Nat.blt (run.target + (run.last - run.first)) first

/-- The codes that the run leads to are not covered by the other one: they lie elsewhere, or between
the codes that the other one covers. -/
def CaseRun.isApart (run other : CaseRun) : Bool :=
  run.avoids other.first other.last ||
    (Nat.beq run.step 2 || Nat.beq run.first run.last) && Nat.beq other.step 2 &&
      Nat.beq ((run.target + other.first) % 2) 1

-- All pairs of runs are compared, so the tests are the ones that compare numerals at once.
theorem isApart_of_mem {run other : CaseRun} (hrun : run ∈ lowercaseRuns)
    (hother : other ∈ lowercaseRuns) : run.isApart other = true := by
  have hall : (lowercaseRuns.all fun run => lowercaseRuns.all run.isApart) = true := by
    decide +kernel
  exact List.all_eq_true.mp (List.all_eq_true.mp hall run hrun) other hother

/-- ASCII up to the capital letters, the other blanks, the two capitals that the table does not
decide, and the surrogates. -/
def reservedRanges : List (Nat × Nat) :=
  [(0x00, 0x60), (0x85, 0xA0), (0x130, 0x130), (0x3A3, 0x3A3), (0x1680, 0x1680), (0x2000, 0x205F),
    (0x3000, 0x3000), (0xD800, 0xDFFF)]

theorem avoids_of_mem {run : CaseRun} (hrun : run ∈ lowercaseRuns) :
    ∀ range ∈ reservedRanges, run.avoids range.1 range.2 = true := by
  have hall : (lowercaseRuns.all fun run => reservedRanges.all fun range =>
      run.avoids range.1 range.2) = true := by
    decide +kernel
  exact List.all_eq_true.mp (List.all_eq_true.mp hall run hrun)

theorem target_lt_of_mem :
    ∀ run ∈ lowercaseRuns, run.target + (run.last - run.first) < 0x110000 := by
  decide +kernel

theorem avoids_eq_true_iff {run : CaseRun} {first last : Nat} : run.avoids first last = true ↔
    last < run.target ∨ run.target + (run.last - run.first) < first := by
  simp [CaseRun.avoids, Nat.blt_eq]

theorem isApart_eq_true_iff {run other : CaseRun} : run.isApart other = true ↔
    run.avoids other.first other.last = true ∨
      (run.step = 2 ∨ run.first = run.last) ∧ other.step = 2 ∧
        (run.target + other.first) % 2 = 1 := by
  simp [CaseRun.isApart, and_assoc]

theorem covers_eq_true_iff {run : CaseRun} {code : Nat} : run.covers code = true ↔
    run.first ≤ code ∧ code ≤ run.last ∧ (code - run.first) % run.step = 0 := by
  simp [CaseRun.covers, and_assoc]

theorem not_covers_of_isApart {run other : CaseRun} (h : run.isApart other = true) {code : Nat}
    (hcovers : run.covers code = true) :
    other.covers (run.target + (code - run.first)) = false := by
  rw [Bool.eq_false_iff, ne_eq, covers_eq_true_iff]
  rw [covers_eq_true_iff] at hcovers
  rintro ⟨hfirst, hlast, hstep⟩
  rcases isApart_eq_true_iff.mp h with havoids | ⟨heven, hother, hodd⟩
  · rcases avoids_eq_true_iff.mp havoids with hbelow | habove
    · omega
    · omega
  · rw [hother] at hstep
    have hdistance : (code - run.first) % 2 = 0 := by
      rcases heven with htwo | hsingle
      · rw [← htwo]
        exact hcovers.2.2
      · omega
    omega

/-! ## Characters -/

/-- A character that lower-casing leaves as it is, wherever it stands. -/
def Settled (character : Char) : Prop :=
  character ≠ 'Σ' ∧ lowerChar character = [character]

instance (character : Char) : Decidable (Settled character) :=
  inferInstanceAs (Decidable (_ ∧ _))

theorem settled_of_find?_eq_none {character : Char} (hascii : ¬ character.toNat < 0x80)
    (hdotted : character ≠ 'İ') (hsigma : character ≠ 'Σ')
    (hnone : lowercaseRuns.find? (·.covers character.toNat) = none) : Settled character := by
  have hsimple : lowerSimple character = character := by rw [lowerSimple, hnone]
  exact ⟨hsigma, by rw [lowerChar, if_neg hascii, if_neg hdotted, hsimple]⟩

/-- The small sigmas and the dot that is left of a dotted capital are in lower case. -/
theorem settled_of_mem_special {character : Char} (h : character ∈ ['σ', 'ς', '\u0307']) :
    Settled character ∧ isBlank character = false := by
  have hspecial : (['σ', 'ς', '\u0307'].all fun other => decide (¬ other.toNat < 0x80 ∧
      other ≠ 'İ' ∧ other ≠ 'Σ' ∧ isBlank other = false)) = true := by
    decide +kernel
  have huncovered : (['σ', 'ς', '\u0307'].all fun other =>
      lowercaseRuns.all fun run => !run.covers other.toNat) = true := by
    decide +kernel
  obtain ⟨hascii, hdotted, hsigma, hblank⟩ :=
    of_decide_eq_true (List.all_eq_true.mp hspecial character h)
  have hnone : lowercaseRuns.find? (·.covers character.toNat) = none := by
    simpa [List.find?_eq_none] using List.all_eq_true.mp huncovered character h
  exact ⟨settled_of_find?_eq_none hascii hdotted hsigma hnone, hblank⟩

private theorem toNat_ofNat_of_isValidChar {code : Nat} (h : code.isValidChar) :
    (Char.ofNat code).toNat = code := by
  rw [Char.ofNat, dif_pos h]
  rfl

private theorem settled_toLower {character : Char} (h : character.toNat < 0x80) :
    Settled character.toLower ∧
      (isBlank character = false → isBlank character.toLower = false) := by
  have hascii : ∀ code < 0x80, Settled (Char.ofNat code).toLower ∧
      (isBlank (Char.ofNat code) = false → isBlank (Char.ofNat code).toLower = false) := by
    decide +kernel
  simpa only [Char.ofNat_toNat] using hascii character.toNat h

private theorem settled_ofNat_of_lt {code : Nat} (h : code < 0x80) (hcapital : 0x60 < code) :
    Settled (Char.ofNat code) := by
  have hsmall : ∀ code < 0x80, 0x60 < code → Settled (Char.ofNat code) := by
    decide +kernel
  exact hsmall code h hcapital

/-- What a run leads to is settled and not blank. -/
private theorem settled_target {run : CaseRun} (hrun : run ∈ lowercaseRuns) {code : Nat}
    (hcovers : run.covers code = true) :
    Settled (Char.ofNat (run.target + (code - run.first))) ∧
      isBlank (Char.ofNat (run.target + (code - run.first))) = false := by
  have hlimit := target_lt_of_mem run hrun
  have havoids := avoids_of_mem hrun
  simp only [reservedRanges, List.forall_mem_cons, avoids_eq_true_iff] at havoids
  obtain ⟨hcapital, hlatin, hdotted, hsigma, hogham, hgeneral, hwide, hsurrogate, -⟩ := havoids
  have hnone : lowercaseRuns.find? (·.covers (run.target + (code - run.first))) = none := by
    refine List.find?_eq_none.mpr fun other hother => ?_
    simp [not_covers_of_isApart (isApart_of_mem hrun hother) hcovers]
  rw [covers_eq_true_iff] at hcovers
  generalize htarget : run.target + (code - run.first) = target at hnone ⊢
  have hvalid : target.isValidChar := by
    unfold Nat.isValidChar
    omega
  have hcode := toNat_ofNat_of_isValidChar hvalid
  have hne (other : Char) (hother : target ≠ other.toNat) : Char.ofNat target ≠ other := by
    intro heq
    exact hother (by rw [← heq, hcode])
  have hblank : isBlank (Char.ofNat target) = false := by
    rw [Bool.eq_false_iff, isBlank, hcode]
    simp only [ne_eq, Bool.or_eq_true, Bool.and_eq_true, decide_eq_true_eq, beq_iff_eq]
    omega
  refine ⟨?_, hblank⟩
  by_cases hascii : target < 0x80
  · exact settled_ofNat_of_lt hascii (by omega)
  · refine settled_of_find?_eq_none (by rwa [hcode]) ?_ ?_ (by rwa [hcode])
    · exact hne 'İ' (show target ≠ 0x130 by omega)
    · exact hne 'Σ' (show target ≠ 0x3A3 by omega)

/-- Every character that takes the place of another is settled, and blank only if that one is. -/
theorem settled_of_mem_lowerChar {character lowered : Char} (hsigma : character ≠ 'Σ')
    (h : lowered ∈ lowerChar character) :
    Settled lowered ∧ (isBlank character = false → isBlank lowered = false) := by
  unfold lowerChar at h
  split at h
  · next hascii =>
      cases List.mem_singleton.mp h
      exact settled_toLower hascii
  · next hascii =>
      split at h
      · have hlowered : Settled lowered ∧ isBlank lowered = false := by
          rcases List.mem_pair.mp h with rfl | rfl
          · exact ⟨settled_ofNat_of_lt (show 0x69 < 0x80 by decide) (by decide), by decide⟩
          · exact settled_of_mem_special (by decide)
        exact ⟨hlowered.1, fun _ => hlowered.2⟩
      · next hdotted =>
          cases List.mem_singleton.mp h
          cases hrun : lowercaseRuns.find? (·.covers character.toNat) with
          | none =>
              rw [lowerSimple, hrun]
              exact ⟨settled_of_find?_eq_none hascii hdotted hsigma hrun, id⟩
          | some run =>
              have hcovers := List.find?_some hrun
              have htarget := settled_target (List.mem_of_find?_eq_some hrun) hcovers
              rw [lowerSimple, hrun]
              exact ⟨htarget.1, fun _ => htarget.2⟩

theorem lowerChar_ne_nil (character : Char) : lowerChar character ≠ [] := by
  unfold lowerChar
  split
  · exact List.cons_ne_nil _ _
  · split <;> exact List.cons_ne_nil _ _

/-! ## Texts -/

/-- What stands in the lower-case text in place of a character. -/
def lowerAt (before : List Char) (character : Char) (after : List Char) : List Char :=
  if character = 'Σ' then [lowerSigma before after] else lowerChar character

theorem lowerAfter_cons (before : List Char) (character : Char) (rest : List Char) :
    lowerAfter before (character :: rest) =
      lowerAt before character rest ++ lowerAfter (character :: before) rest := rfl

theorem lowerAt_ne_nil (before : List Char) (character : Char) (after : List Char) :
    lowerAt before character after ≠ [] := by
  unfold lowerAt
  split
  · exact List.cons_ne_nil _ _
  · exact lowerChar_ne_nil character

theorem settled_of_mem_lowerAt {before after : List Char} {character lowered : Char}
    (h : lowered ∈ lowerAt before character after) :
    Settled lowered ∧ (isBlank character = false → isBlank lowered = false) := by
  unfold lowerAt at h
  split at h
  · cases List.mem_singleton.mp h
    have hsigma : lowerSigma before after ∈ ['σ', 'ς', '\u0307'] := by
      unfold lowerSigma
      split <;> decide
    exact ⟨(settled_of_mem_special hsigma).1, fun _ => (settled_of_mem_special hsigma).2⟩
  · next hsigma => exact settled_of_mem_lowerChar hsigma h

theorem settled_of_mem_lowerAfter {before text : List Char} {lowered : Char}
    (h : lowered ∈ lowerAfter before text) : Settled lowered := by
  induction text generalizing before with
  | nil => cases h
  | cons character rest ih =>
      rw [lowerAfter_cons, List.mem_append] at h
      rcases h with hhere | hrest
      · exact (settled_of_mem_lowerAt hhere).1
      · exact ih hrest

theorem lowerAfter_of_settled {text : List Char} (h : ∀ character ∈ text, Settled character)
    (before : List Char) : lowerAfter before text = text := by
  induction text generalizing before with
  | nil => rfl
  | cons character rest ih =>
      obtain ⟨⟨hsigma, hlower⟩, hrest⟩ := List.forall_mem_cons.mp h
      rw [lowerAfter_cons, lowerAt, if_neg hsigma, hlower, ih hrest, List.singleton_append]

/-! ## Ends of a text -/

theorem lowerAfter_eq_nil_iff {before text : List Char} :
    lowerAfter before text = [] ↔ text = [] := by
  cases text with
  | nil => simp [lowerAfter]
  | cons character rest => simp [lowerAfter_cons, lowerAt_ne_nil]

theorem isBlank_head?_lowerAfter {text : List Char}
    (h : ∀ character ∈ text.head?, isBlank character = false) (before : List Char) :
    ∀ lowered ∈ (lowerAfter before text).head?, isBlank lowered = false := by
  intro lowered hlowered
  cases text with
  | nil => cases hlowered
  | cons character rest =>
      rw [lowerAfter_cons, List.head?_append_of_ne_nil _ (lowerAt_ne_nil before character rest)]
        at hlowered
      exact (settled_of_mem_lowerAt (List.mem_of_head? hlowered)).2 (h character rfl)

theorem isBlank_getLast?_lowerAfter {text : List Char}
    (h : ∀ character ∈ text.getLast?, isBlank character = false) (before : List Char) :
    ∀ lowered ∈ (lowerAfter before text).getLast?, isBlank lowered = false := by
  intro lowered hlowered
  induction text generalizing before with
  | nil => cases hlowered
  | cons character rest ih =>
      rw [lowerAfter_cons] at hlowered
      by_cases hrest : rest = []
      · subst hrest
        rw [lowerAfter, List.append_nil] at hlowered
        exact (settled_of_mem_lowerAt (List.mem_of_getLast? hlowered)).2 (h character rfl)
      · rw [List.getLast?_append_of_ne_nil _ (lowerAfter_eq_nil_iff.not.mpr hrest)] at hlowered
        refine ih (fun other hother => h other ?_) _ hlowered
        rwa [List.getLast?_cons_of_ne_nil hrest]

end TagLedger.Text
