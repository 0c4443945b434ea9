import TagLedger.Proofs.Text.Lowercase

/-!
# Lower case at a joint

A capital sigma takes its final form where a word ends, and a case-ignorable character does not end
one.  So when two texts are joined by such a character, lower-casing them before and after differs
in a sigma that stands next to the joint, and in nothing else.
-/

namespace TagLedger.Text

/-! ## The neighbours of a sigma -/

theorem meetsCased_append (text rest : List Char) : meetsCased (text ++ rest) =
    if text.all isCaseIgnorable then meetsCased rest else meetsCased text := by
  induction text with
  | nil => rfl
  | cons character text ih =>
      by_cases hignorable : isCaseIgnorable character = true
      · simpa [meetsCased, hignorable] using ih
      · simp [meetsCased, hignorable]

theorem meetsCased_of_all {text : List Char} (h : text.all isCaseIgnorable = true) :
    meetsCased text = false := by
  rw [← List.append_nil text, meetsCased_append, if_pos h]
  rfl

theorem meetsCased_cons {joint : Char} (hjoint : isCaseIgnorable joint = true)
    (rest : List Char) : meetsCased (joint :: rest) = meetsCased rest := by
  simp [meetsCased, hjoint]

theorem lowerSigma_eq_iff {before after otherBefore otherAfter : List Char} :
    lowerSigma before after = lowerSigma otherBefore otherAfter ↔
      (meetsCased before && !meetsCased after) =
        (meetsCased otherBefore && !meetsCased otherAfter) := by
  unfold lowerSigma
  cases meetsCased before && !meetsCased after <;>
    cases meetsCased otherBefore && !meetsCased otherAfter <;> simp

/-- What follows a sigma matters if nothing else than case-ignorable characters stand between. -/
theorem lowerSigma_append_right_iff {before after rest : List Char} :
    lowerSigma before (after ++ rest) = lowerSigma before after ↔
      ¬ (meetsCased before = true ∧ after.all isCaseIgnorable = true ∧
        meetsCased rest = true) := by
  rw [lowerSigma_eq_iff, meetsCased_append]
  by_cases hall : after.all isCaseIgnorable = true
  · rw [if_pos hall, meetsCased_of_all hall]
    cases meetsCased before <;> cases meetsCased rest <;> simp [hall]
  · simp [hall]

theorem lowerSigma_append_left_iff {before after rest : List Char} :
    lowerSigma (before ++ rest) after = lowerSigma before after ↔
      ¬ (before.all isCaseIgnorable = true ∧ meetsCased after = false ∧
        meetsCased rest = true) := by
  rw [lowerSigma_eq_iff, meetsCased_append]
  by_cases hall : before.all isCaseIgnorable = true
  · rw [if_pos hall, meetsCased_of_all hall]
    cases meetsCased after <;> cases meetsCased rest <;> simp [hall]
  · simp [hall]

/-! ## A part of a text -/

/-- Lower-cases `text` as it stands between `before`, read backwards, and `after`. -/
def lowerBetween (before : List Char) : List Char → List Char → List Char
  | [], _ => []
  | character :: rest, after =>
      lowerAt before character (rest ++ after) ++ lowerBetween (character :: before) rest after

theorem lowerAfter_append (before text after : List Char) : lowerAfter before (text ++ after) =
    lowerBetween before text after ++ lowerAfter (text.reverse ++ before) after := by
  induction text generalizing before with
  | nil => rfl
  | cons character rest ih =>
      rw [List.cons_append, lowerAfter_cons, ih, lowerBetween, List.append_assoc,
        List.reverse_cons, List.append_assoc, List.singleton_append]

theorem lowerBetween_nil (before text : List Char) :
    lowerBetween before text [] = lowerAfter before text := by
  simpa [lowerAfter] using (lowerAfter_append before text []).symm

theorem length_lowerAt (before otherBefore : List Char) (character : Char)
    (after otherAfter : List Char) : (lowerAt before character after).length =
      (lowerAt otherBefore character otherAfter).length := by
  unfold lowerAt
  split <;> rfl

theorem lowerAt_eq_iff {before after otherBefore otherAfter : List Char} {character : Char} :
    lowerAt before character after = lowerAt otherBefore character otherAfter ↔
      (character = 'Σ' → lowerSigma before after = lowerSigma otherBefore otherAfter) := by
  unfold lowerAt
  split <;> simp [*]

theorem length_lowerBetween (before otherBefore text after otherAfter : List Char) :
    (lowerBetween before text after).length =
      (lowerBetween otherBefore text otherAfter).length := by
  induction text generalizing before otherBefore with
  | nil => rfl
  | cons character rest ih =>
      rw [lowerBetween, lowerBetween, List.length_append, List.length_append,
        length_lowerAt before otherBefore, ih (character :: before) (character :: otherBefore)]

/-- A text looks the same between other neighbours exactly if every sigma in it does. -/
theorem lowerBetween_eq_iff {before after otherBefore otherAfter text : List Char} :
    lowerBetween before text after = lowerBetween otherBefore text otherAfter ↔
      ∀ left right, text = left ++ 'Σ' :: right →
        lowerSigma (left.reverse ++ before) (right ++ after) =
          lowerSigma (left.reverse ++ otherBefore) (right ++ otherAfter) := by
  induction text generalizing before otherBefore with
  | nil => simp [lowerBetween]
  | cons character rest ih =>
      have hlength := length_lowerAt before otherBefore character (rest ++ after)
        (rest ++ otherAfter)
      rw [lowerBetween, lowerBetween]
      constructor
      · intro h left right htext
        obtain ⟨hhere, hrest⟩ := List.append_inj h hlength
        rcases List.cons_eq_append_iff.mp htext with ⟨rfl, hsplit⟩ | ⟨kept, rfl, hsplit⟩
        · obtain ⟨rfl, rfl⟩ := List.cons.inj hsplit
          exact lowerAt_eq_iff.mp hhere rfl
        · simpa using ih.mp hrest kept right hsplit
      · intro h
        have hhere : lowerAt before character (rest ++ after) =
            lowerAt otherBefore character (rest ++ otherAfter) :=
          lowerAt_eq_iff.mpr fun hsigma => h [] rest (by rw [hsigma]; rfl)
        have hrest : lowerBetween (character :: before) rest after =
            lowerBetween (character :: otherBefore) rest otherAfter :=
          ih.mpr fun left right hsplit => by
            simpa using h (character :: left) right (by rw [hsplit]; rfl)
        rw [hhere, hrest]

/-! ## Joints -/

/-- A word ends in a capital sigma at the end of the text. -/
def closesWithSigma (text : List Char) : Bool :=
  match text.reverse.dropWhile isCaseIgnorable with
  | character :: before => character == 'Σ' && meetsCased before
  | [] => false

/-- A capital sigma at the start of the text is not followed by the rest of a word. -/
def opensWithSigma (text : List Char) : Bool :=
  match text.dropWhile isCaseIgnorable with
  | character :: after => character == 'Σ' && !meetsCased after
  | [] => false

/-- A sigma next to the joint stands at the end of a word in one of the two texts, and no longer
does in both, or the other way around. -/
def sigmaAtJoint (left right : List Char) : Bool :=
  closesWithSigma left && meetsCased right || opensWithSigma right && meetsCased left.reverse

theorem dropWhile_eq_sigma_iff {text after : List Char} :
    text.dropWhile isCaseIgnorable = 'Σ' :: after ↔
      ∃ before, text = before ++ 'Σ' :: after ∧ before.all isCaseIgnorable = true := by
  have hsigma : isCaseIgnorable 'Σ' = false := by decide +kernel
  constructor
  · intro h
    refine ⟨text.takeWhile isCaseIgnorable, ?_, List.all_takeWhile⟩
    rw [← h, List.takeWhile_append_dropWhile]
  · rintro ⟨before, rfl, hall⟩
    rw [List.dropWhile_append_of_pos (List.all_eq_true.mp hall),
      List.dropWhile_cons_of_neg (by simp [hsigma])]

theorem opensWithSigma_iff {text : List Char} : opensWithSigma text = true ↔
    ∃ before after, text = before ++ 'Σ' :: after ∧ before.all isCaseIgnorable = true ∧
      meetsCased after = false := by
  have hdrop : opensWithSigma text = true ↔
      ∃ after, text.dropWhile isCaseIgnorable = 'Σ' :: after ∧ meetsCased after = false := by
    unfold opensWithSigma
    cases text.dropWhile isCaseIgnorable <;> simp
  rw [hdrop]
  constructor
  · rintro ⟨after, hafter, hcased⟩
    obtain ⟨before, htext, hall⟩ := dropWhile_eq_sigma_iff.mp hafter
    exact ⟨before, after, htext, hall, hcased⟩
  · rintro ⟨before, after, htext, hall, hcased⟩
    exact ⟨after, dropWhile_eq_sigma_iff.mpr ⟨before, htext, hall⟩, hcased⟩

theorem closesWithSigma_iff {text : List Char} : closesWithSigma text = true ↔
    ∃ before after, text = before ++ 'Σ' :: after ∧ meetsCased before.reverse = true ∧
      after.all isCaseIgnorable = true := by
  have hdrop : closesWithSigma text = true ↔ ∃ before,
      text.reverse.dropWhile isCaseIgnorable = 'Σ' :: before ∧ meetsCased before = true := by
    unfold closesWithSigma
    cases text.reverse.dropWhile isCaseIgnorable <;> simp
  rw [hdrop]
  constructor
  · rintro ⟨before, hbefore, hcased⟩
    obtain ⟨after, htext, hall⟩ := dropWhile_eq_sigma_iff.mp hbefore
    refine ⟨before.reverse, after.reverse, ?_, by rwa [List.reverse_reverse], by simpa using hall⟩
    simpa using congrArg List.reverse htext
  · rintro ⟨before, after, htext, hcased, hall⟩
    refine ⟨before.reverse, dropWhile_eq_sigma_iff.mpr ⟨after.reverse, ?_, by simpa using hall⟩,
      hcased⟩
    simp [htext]

theorem lowerBetween_joint_eq_iff {left right : List Char} {joint : Char}
    (hjoint : isCaseIgnorable joint = true) :
    lowerBetween [] left (joint :: right) = lowerBetween [] left [] ↔
      ¬ (closesWithSigma left = true ∧ meetsCased right = true) := by
  simp only [lowerBetween_eq_iff, List.append_nil, lowerSigma_append_right_iff,
    meetsCased_cons hjoint, closesWithSigma_iff]
  constructor
  · rintro h ⟨⟨before, after, htext, hbefore, hafter⟩, hright⟩
    exact h before after htext ⟨hbefore, hafter, hright⟩
  · rintro h before after htext ⟨hbefore, hafter, hright⟩
    exact h ⟨⟨before, after, htext, hbefore, hafter⟩, hright⟩

theorem lowerBetween_behind_joint_eq_iff {left right : List Char} {joint : Char}
    (hjoint : isCaseIgnorable joint = true) :
    lowerBetween (joint :: left) right [] = lowerBetween [] right [] ↔
      ¬ (opensWithSigma right = true ∧ meetsCased left = true) := by
  simp only [lowerBetween_eq_iff, List.append_nil, lowerSigma_append_left_iff,
    meetsCased_cons hjoint, opensWithSigma_iff, List.all_reverse]
  constructor
  · rintro h ⟨⟨before, after, htext, hbefore, hafter⟩, hleft⟩
    exact h before after htext ⟨hbefore, hafter, hleft⟩
  · rintro h before after htext ⟨hbefore, hafter, hleft⟩
    exact h ⟨⟨before, after, htext, hbefore, hafter⟩, hleft⟩

/-- Joining in lower case is lower-casing what is joined unless there is a sigma at the joint. -/
theorem lowerList_joint_eq_iff {left right : List Char} {joint : Char}
    (hignorable : isCaseIgnorable joint = true) (hsettled : Settled joint) :
    lowerList (left ++ joint :: right) = lowerList left ++ joint :: lowerList right ↔
      sigmaAtJoint left right = false := by
  have hjoined : lowerList (left ++ joint :: right) =
      lowerBetween [] left (joint :: right) ++
        joint :: lowerBetween (joint :: left.reverse) right [] := by
    rw [lowerList, lowerAfter_append, lowerAfter_cons, lowerAt, if_neg hsettled.1, hsettled.2,
      List.append_nil, List.singleton_append, lowerBetween_nil]
  have hapart : lowerList left ++ joint :: lowerList right =
      lowerBetween [] left [] ++ joint :: lowerBetween [] right [] := by
    rw [lowerBetween_nil, lowerBetween_nil, lowerList, lowerList]
  have hsplit : lowerList (left ++ joint :: right) = lowerList left ++ joint :: lowerList right ↔
      lowerBetween [] left (joint :: right) = lowerBetween [] left [] ∧
        lowerBetween (joint :: left.reverse) right [] = lowerBetween [] right [] := by
    rw [hjoined, hapart]
    constructor
    · intro h
      obtain ⟨hleft, hright⟩ := List.append_inj h (length_lowerBetween _ _ _ _ _)
      exact ⟨hleft, (List.cons.inj hright).2⟩
    · rintro ⟨hleft, hright⟩
      rw [hleft, hright]
  rw [hsplit, lowerBetween_joint_eq_iff hignorable, lowerBetween_behind_joint_eq_iff hignorable,
    sigmaAtJoint, Bool.or_eq_false_iff, Bool.and_eq_false_iff, Bool.and_eq_false_iff]
  simp only [not_and_or, Bool.not_eq_true]

end TagLedger.Text
