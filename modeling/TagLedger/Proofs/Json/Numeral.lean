import TagLedger.Json.Printer
import TagLedger.Proofs.Identifier

/-!
# Numbers as texts

A number is written with digits, signs, a point and the letter of the exponent, in any of the
layouts.  So its text is a key that the schema takes, and whatever follows it can be told from it.
-/

namespace TagLedger.Json

/-- The characters that numbers are written and read with. -/
def isNumeral (character : Char) : Bool :=
  character.isDigit || character == '-' || character == '+' || character == '.' ||
    character == 'e' || character == 'E'

theorem isNumeral_of_isDigit {character : Char} (h : character.isDigit = true) :
    isNumeral character = true := by
  simp [isNumeral, h]

theorem numeral_cases {character : Char} (h : isNumeral character = true) :
    character.isDigit = true ∨ character ∈ ['-', '+', '.', 'e', 'E'] := by
  simpa [isNumeral, or_assoc] using h

theorem visible_of_isNumeral {character : Char} (h : isNumeral character = true) :
    Text.isBlank character = false ∧ character ≠ '\x00' := by
  rcases numeral_cases h with hdigit | hsign
  · have hcode : 48 ≤ character.toNat ∧ character.toNat ≤ 57 := by
      simpa [Char.isDigit, UInt32.le_iff_toNat_le] using hdigit
    refine ⟨?_, ?_⟩
    · simp only [Text.isBlank, Bool.or_eq_false_iff, Bool.and_eq_false_iff, decide_eq_false_iff_not,
        beq_eq_false_iff_ne]
      omega
    · rintro rfl
      exact absurd hcode (by decide)
  · simp only [List.mem_cons, List.not_mem_nil, or_false] at hsign
    rcases hsign with rfl | rfl | rfl | rfl | rfl <;> decide

/-- A text of such characters, and of one at least. -/
structure Numeral (text : List Char) : Prop where
  nonempty : text ≠ []
  numerals : ∀ character ∈ text, isNumeral character = true

theorem Numeral.append {left right : List Char} (hleft : Numeral left)
    (hright : ∀ character ∈ right, isNumeral character = true) : Numeral (left ++ right) where
  nonempty := List.append_ne_nil_of_left_ne_nil hleft.nonempty right
  numerals character h :=
    (List.mem_append.mp h).elim (hleft.numerals character) (hright character)

theorem Numeral.cons {text : List Char} (h : Numeral text) {character : Char}
    (hcharacter : isNumeral character = true) : Numeral (character :: text) :=
  ⟨List.cons_ne_nil _ _, List.forall_mem_cons.mpr ⟨hcharacter, h.numerals⟩⟩

theorem numeral_toDigits (value : Nat) : Numeral (Nat.toDigits 10 value) where
  nonempty := Nat.toDigits_ne_nil
  numerals _ h := isNumeral_of_isDigit (Nat.isDigit_of_mem_toDigits (by decide) (by decide) h)

theorem numeral_zeros (count : Nat) :
    ∀ character ∈ List.replicate count '0', isNumeral character = true := by
  intro character h
  rw [(List.mem_replicate.mp h).2]
  decide

theorem Numeral.minus {text : String} (h : Numeral text.toList) :
    Numeral ("-" ++ text).toList := by
  rw [String.toList_append]
  exact h.cons (by decide : isNumeral '-' = true)

theorem numeral_toString (value : Nat) : Numeral (toString value).toList := by
  rw [Nat.toString_eq_ofList_toDigits, String.toList_ofList]
  exact numeral_toDigits value

private theorem numeral_mantissa (digits : List Char) : Numeral digits →
    Numeral (match digits with
      | [] => []
      | [digit] => [digit]
      | digit :: rest => digit :: '.' :: rest) := by
  intro h
  match digits with
  | [] => exact h
  | [_] => exact h
  | digit :: next :: rest =>
      obtain ⟨hdigit, hrest⟩ := List.forall_mem_cons.mp h.numerals
      have hpoint : Numeral ('.' :: next :: rest) :=
        ⟨List.cons_ne_nil _ _, List.forall_mem_cons.mpr ⟨by decide, hrest⟩⟩
      exact hpoint.cons hdigit

theorem numeral_text (decimal : Decimal) : Numeral decimal.text.toList := by
  have hdigits := numeral_toDigits decimal.digits
  unfold Decimal.text
  generalize Nat.toDigits 10 decimal.digits = digits at hdigits
  have hpoint : ∀ character ∈ ".".toList, isNumeral character = true :=
    List.all_eq_true.mp (by decide)
  dsimp only
  split
  · have hletter : ∀ character ∈ "e".toList, isNumeral character = true :=
      List.all_eq_true.mp (by decide)
    have hsign : ∀ sign ∈ (if decimal.exponent + digits.length - 1 < 0 then "-" else "+").toList,
        isNumeral sign = true := by
      split <;> exact List.all_eq_true.mp (by decide)
    simp only [String.toList_append, String.toList_ofList]
    exact (((numeral_mantissa digits hdigits).append hletter).append hsign).append
      (numeral_toString _).numerals
  · split
    · have hstart : Numeral "0.".toList := ⟨by decide, List.all_eq_true.mp (by decide)⟩
      simp only [String.toList_append, String.toList_ofList]
      refine hstart.append fun character h => ?_
      exact (List.mem_append.mp h).elim (numeral_zeros _ character) (hdigits.numerals character)
    · split
      · have hend : ∀ character ∈ ".0".toList, isNumeral character = true :=
          List.all_eq_true.mp (by decide)
        simp only [String.toList_append, String.toList_ofList]
        exact (hdigits.append (numeral_zeros _)).append hend
      · simp only [String.toList_append, String.toList_ofList]
        refine ⟨by simp, fun character h => ?_⟩
        simp only [List.mem_append] at h
        rcases h with (hwhole | hdot) | hfraction
        · exact hdigits.numerals character (List.mem_of_mem_take hwhole)
        · exact hpoint character hdot
        · exact hdigits.numerals character (List.mem_of_mem_drop hfraction)

theorem numeral_toText (value : Number) : Numeral value.toText.toList := by
  cases value with
  | integer value =>
      rw [Number.toText, Int.toString_eq_repr]
      cases value with
      | ofNat value => exact numeral_toString value
      | negSucc value => exact (numeral_toString (value + 1)).minus
  | real value =>
      rw [Number.toText, Binary64.text]
      split
      · exact (numeral_text value.shortest).minus
      · simpa using numeral_text value.shortest

theorem solid_toText (value : Number) : Text.Solid value.toText where
  nonempty := by simpa using (numeral_toText value).nonempty
  visible character h := visible_of_isNumeral ((numeral_toText value).numerals character h)

end TagLedger.Json
