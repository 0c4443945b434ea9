import TagLedger.Proofs.Text.Utf8
import TagLedger.Reference.Token
import Mathlib.Data.List.Basic

/-!
# The tokens of a formula

What is found in a formula is exactly what the grammar of tokens allows, wherever it stands.  A list
of all occurrences, which tries every position of the text, is compared with the scan, which goes on
behind a token that it has found: no token is missed on the way, because there is no bracket inside
of one.
-/

namespace TagLedger.Reference

/-! ## Grammar -/

def IsLetter (character : Char) : Prop :=
  'a' ≤ character ∧ character ≤ 'z' ∨ 'A' ≤ character ∧ character ≤ 'Z'

def IsDigit (character : Char) : Prop :=
  '0' ≤ character ∧ character ≤ '9'

def IsKind (kind : String) : Prop :=
  ∃ first rest, kind.toList = first :: rest ∧ IsLetter first ∧
    ∀ character ∈ rest, IsLetter character ∨ IsDigit character ∨ character = '_'

def IsKey (key : String) : Prop :=
  key ≠ "" ∧ ∀ character ∈ key.toList, IsLetter character ∨ IsDigit character ∨
    character = '-' ∨ character = '_' ∨ character = '.'

def Token.text (token : Token) : String :=
  "[" ++ token.kind ++ ":" ++ token.key ++ "]"

def Token.WellFormed (token : Token) : Prop :=
  IsKind token.kind ∧ IsKey token.key

/-- The bytes of the formula go on with a token at the position. -/
def Occurs (formula : String) (position : Nat) (token : Token) : Prop :=
  token.WellFormed ∧ Text.utf8 token.text <+: (Text.utf8 formula).drop position

/-- A token with the key stands somewhere in the formula. -/
def Mentions (formula key : String) : Prop :=
  ∃ before kind after, IsKind kind ∧ IsKey key ∧
    formula = before ++ "[" ++ kind ++ ":" ++ key ++ "]" ++ after

theorem isKindStart_iff {character : Char} : isKindStart character = true ↔ IsLetter character := by
  have hupper : character.isUpper = true ↔ 'A' ≤ character ∧ character ≤ 'Z' :=
    decide_eq_true_iff
  have hlower : character.isLower = true ↔ 'a' ≤ character ∧ character ≤ 'z' :=
    (Bool.and_eq_true_iff).trans (and_congr decide_eq_true_iff decide_eq_true_iff)
  change (character.isUpper || character.isLower) = true ↔ IsLetter character
  rw [Bool.or_eq_true, hupper, hlower]
  exact Or.comm

theorem isKindChar_iff {character : Char} : isKindChar character = true ↔
    IsLetter character ∨ IsDigit character ∨ character = '_' := by
  rw [isKindChar, Char.isAlphanum, ← isKindStart, Bool.or_eq_true, Bool.or_eq_true,
    isKindStart_iff, beq_iff_eq, or_assoc]
  simp [Char.isDigit, IsDigit, Char.le_def]

theorem isKeyChar_iff {character : Char} : isKeyChar character = true ↔
    IsLetter character ∨ IsDigit character ∨ character = '-' ∨ character = '_' ∨
      character = '.' := by
  rw [isKeyChar, Char.isAlphanum, ← isKindStart]
  simp only [Bool.or_eq_true, isKindStart_iff, beq_iff_eq, or_assoc]
  simp [Char.isDigit, IsDigit, Char.le_def]

theorem toList_text (token : Token) :
    token.text.toList = '[' :: (token.kind.toList ++ ':' :: (token.key.toList ++ [']'])) := by
  simp [Token.text]

/-! ## A token behind its bracket -/

theorem wellFormed_of_tokenAfterBracket {text rest : List Char} {token : Token}
    (h : tokenAfterBracket text = some (token, rest)) : token.WellFormed ∧
      text = token.kind.toList ++ ':' :: (token.key.toList ++ ']' :: rest) := by
  cases text with
  | nil => simp [tokenAfterBracket] at h
  | cons start text =>
      simp only [tokenAfterBracket] at h
      split at h
      · next hstart =>
          split at h
          · next afterColon hcolon =>
              split at h
              · next first key rest hkey hrest =>
                  cases h
                  refine ⟨⟨⟨start, text.takeWhile isKindChar, ?_, ?_, ?_⟩, ?_, ?_⟩, ?_⟩
                  · simp
                  · exact isKindStart_iff.mp hstart
                  · intro character hmem
                    exact isKindChar_iff.mp (List.all_eq_true.mp List.all_takeWhile _ hmem)
                  · simp
                  · intro character hmem
                    rw [String.toList_ofList, ← hkey] at hmem
                    exact isKeyChar_iff.mp (List.all_eq_true.mp List.all_takeWhile _ hmem)
                  · rw [String.toList_ofList, String.toList_ofList, ← hkey, ← hrest,
                      List.takeWhile_append_dropWhile, List.cons_append, ← hcolon,
                      List.takeWhile_append_dropWhile]
              · cases h
          · cases h
      · cases h

theorem tokenAfterBracket_of_wellFormed {token : Token} (h : token.WellFormed)
    (rest : List Char) :
    tokenAfterBracket (token.kind.toList ++ ':' :: (token.key.toList ++ ']' :: rest)) =
      some (token, rest) := by
  obtain ⟨⟨start, kind, hkind, hstart, hkindChars⟩, hkey, hkeyChars⟩ := h
  obtain ⟨first, key, hcons⟩ : ∃ first key, token.key.toList = first :: key :=
    List.exists_cons_of_ne_nil (by simpa using hkey)
  have hkindTest : ∀ character ∈ kind, isKindChar character = true :=
    fun character hmem => isKindChar_iff.mpr (hkindChars character hmem)
  have hkeyTest : ∀ character ∈ token.key.toList, isKeyChar character = true :=
    fun character hmem => isKeyChar_iff.mpr (hkeyChars character hmem)
  have hcolon : isKindChar ':' = false := by decide
  have hclose : isKeyChar ']' = false := by decide
  have hkeyTaken : (token.key.toList ++ ']' :: rest).takeWhile isKeyChar = first :: key := by
    rw [List.takeWhile_append_of_pos hkeyTest, List.takeWhile_cons_of_neg (by simp [hclose]),
      List.append_nil, hcons]
  have hkeyLeft : (token.key.toList ++ ']' :: rest).dropWhile isKeyChar = ']' :: rest := by
    rw [List.dropWhile_append_of_pos hkeyTest, List.dropWhile_cons_of_neg (by simp [hclose])]
  have hkindTaken : (kind ++ ':' :: (token.key.toList ++ ']' :: rest)).takeWhile isKindChar =
      kind := by
    rw [List.takeWhile_append_of_pos hkindTest, List.takeWhile_cons_of_neg (by simp [hcolon]),
      List.append_nil]
  have hkindLeft : (kind ++ ':' :: (token.key.toList ++ ']' :: rest)).dropWhile isKindChar =
      ':' :: (token.key.toList ++ ']' :: rest) := by
    rw [List.dropWhile_append_of_pos hkindTest, List.dropWhile_cons_of_neg (by simp [hcolon])]
  rw [hkind, List.cons_append, tokenAfterBracket, if_pos (isKindStart_iff.mpr hstart), hkindLeft]
  simp only [hkeyTaken, hkeyLeft]
  rw [hkindTaken, ← hkind, ← hcons, String.ofList_toList, String.ofList_toList]

theorem tokenAfterBracket_eq_some_iff {text rest : List Char} {token : Token} :
    tokenAfterBracket text = some (token, rest) ↔ token.WellFormed ∧
      text = token.kind.toList ++ ':' :: (token.key.toList ++ ']' :: rest) := by
  constructor
  · exact wellFormed_of_tokenAfterBracket
  · rintro ⟨h, rfl⟩
    exact tokenAfterBracket_of_wellFormed h rest

theorem ne_bracket_of_wellFormed {token : Token} (h : token.WellFormed) {character : Char}
    (hmem : character ∈ token.kind.toList ++ ':' :: (token.key.toList ++ [']'])) :
    character ≠ '[' := by
  rintro rfl
  obtain ⟨⟨start, kind, hkind, hstart, hkindChars⟩, -, hkeyChars⟩ := h
  have hletter : ¬ IsLetter '[' := by simp [IsLetter]
  have hdigit : ¬ IsDigit '[' := by simp [IsDigit]
  rw [hkind] at hmem
  simp only [List.cons_append, List.mem_cons, List.mem_append, List.not_mem_nil, or_false] at hmem
  rcases hmem with heq | hkindChar | heq | hkeyChar | heq
  · exact hletter (heq ▸ hstart)
  · simpa [hletter, hdigit] using hkindChars _ hkindChar
  · exact absurd heq (by decide)
  · simpa [hletter, hdigit] using hkeyChars _ hkeyChar
  · exact absurd heq (by decide)

/-! ## All occurrences -/

/-- The tokens at every position of a text whose first byte is at `offset`. -/
def occurrences (offset : Nat) : List Char → List (Nat × Token)
  | [] => []
  | character :: text =>
      (if character = '[' then tokenAfterBracket text else none).toList.map
        (fun found => (offset, found.1)) ++
        occurrences (offset + (String.utf8EncodeChar character).length) text

theorem occurrences_append_of_ne {skipped : List Char} (h : ∀ character ∈ skipped, character ≠ '[')
    (offset : Nat) (rest : List Char) :
    occurrences offset (skipped ++ rest) =
      occurrences (offset + (Text.bytes skipped).length) rest := by
  induction skipped generalizing offset with
  | nil => rfl
  | cons character skipped ih =>
      rw [List.cons_append, occurrences, if_neg (h character List.mem_cons_self),
        ih fun other hmem => h other (List.mem_cons_of_mem _ hmem)]
      simp [Nat.add_assoc]

/-- No other token starts within a token. -/
theorem occurrences_of_token {text rest : List Char} {token : Token}
    (h : tokenAfterBracket text = some (token, rest)) (offset : Nat) :
    occurrences offset ('[' :: text) =
      (offset, token) :: occurrences (offset + (Text.utf8 token.text).length) rest := by
  obtain ⟨hformed, htext⟩ := tokenAfterBracket_eq_some_iff.mp h
  have hsplit : text = (token.kind.toList ++ ':' :: (token.key.toList ++ [']'])) ++ rest := by
    simp [htext]
  have hlength : (Text.utf8 token.text).length = (String.utf8EncodeChar '[').length +
      (Text.bytes (token.kind.toList ++ ':' :: (token.key.toList ++ [']']))).length := by
    rw [Text.utf8_eq_bytes, toList_text, Text.bytes_cons, List.length_append]
  rw [occurrences, if_pos rfl, h, hsplit,
    occurrences_append_of_ne fun character hmem => ne_bracket_of_wellFormed hformed hmem,
    hlength, Nat.add_assoc]
  rfl

theorem occurrences_of_none {character : Char} {text : List Char}
    (h : character = '[' → tokenAfterBracket text = none) (offset : Nat) :
    occurrences offset (character :: text) =
      occurrences (offset + (String.utf8EncodeChar character).length) text := by
  rw [occurrences]
  split
  · next hbracket => simp [h hbracket]
  · rfl

theorem tokensOf_eq_map_occurrences (text : List Char) (offset : Nat) :
    tokensOf text = (occurrences offset text).map Prod.snd := by
  induction text using tokensOf.induct generalizing offset with
  | case1 => simp [tokensOf, occurrences]
  | case2 text token rest found ih =>
      rw [tokensOf, if_pos rfl, occurrences_of_token found, List.map_cons, ← ih]
      split
      · simp_all
      · simp_all
  | case3 text found ih =>
      rw [tokensOf, if_pos rfl, occurrences_of_none fun _ => found, ← ih]
      split
      · simp_all
      · rfl
  | case4 character text hne ih =>
      rw [tokensOf, if_neg hne, occurrences_of_none fun h => absurd h hne, ← ih]

theorem le_of_mem_occurrences {text : List Char} {offset position : Nat} {token : Token}
    (h : (position, token) ∈ occurrences offset text) : offset ≤ position := by
  induction text generalizing offset with
  | nil => cases h
  | cons character text ih =>
      rw [occurrences] at h
      rcases List.mem_append.mp h with hhere | hlater
      · obtain ⟨found, -, heq⟩ := List.mem_map.mp hhere
        cases heq
        exact Nat.le_refl _
      · exact Nat.le_trans (Nat.le_add_right _ _) (ih hlater)

theorem pairwise_occurrences (text : List Char) (offset : Nat) :
    (occurrences offset text).Pairwise fun earlier later =>
      earlier.1 + (Text.utf8 earlier.2.text).length ≤ later.1 := by
  induction text using tokensOf.induct generalizing offset with
  | case1 => exact .nil
  | case2 text token rest found ih =>
      rw [occurrences_of_token found]
      exact .cons (fun later hlater => le_of_mem_occurrences hlater) (ih _)
  | case3 text found ih =>
      rw [occurrences_of_none fun _ => found]
      exact ih _
  | case4 character text hne ih =>
      rw [occurrences_of_none fun h => absurd h hne]
      exact ih _

theorem mem_occurrences_iff {text : List Char} {offset position : Nat} {token : Token} :
    (position, token) ∈ occurrences offset text ↔ token.WellFormed ∧
      ∃ before after, text = before ++ token.text.toList ++ after ∧
        offset + (Text.bytes before).length = position := by
  induction text generalizing offset with
  | nil => simp [occurrences, toList_text]
  | cons character text ih =>
      rw [occurrences, List.mem_append, ih]
      constructor
      · rintro (hhere | ⟨hformed, before, after, rfl, hposition⟩)
        · obtain ⟨⟨other, rest⟩, hfound, heq⟩ := List.mem_map.mp hhere
          cases heq
          rw [Option.mem_toList] at hfound
          split at hfound
          · next hbracket =>
              obtain ⟨hformed, rfl⟩ := tokenAfterBracket_eq_some_iff.mp hfound
              exact ⟨hformed, [], rest, by simp [toList_text, hbracket], rfl⟩
          · cases hfound
        · refine ⟨hformed, character :: before, after, rfl, ?_⟩
          rw [Text.bytes_cons, List.length_append, ← Nat.add_assoc, hposition]
      · rintro ⟨hformed, before, after, htext, hposition⟩
        cases before with
        | nil =>
            rw [List.nil_append, toList_text, List.cons_append] at htext
            obtain ⟨rfl, rfl⟩ := List.cons.inj htext
            have hfound := tokenAfterBracket_of_wellFormed hformed after
            refine Or.inl (List.mem_map.mpr ⟨(token, after), ?_, by simp [← hposition]⟩)
            rw [if_pos rfl, Option.mem_toList]
            simpa using hfound
        | cons first before =>
            obtain ⟨rfl, rfl⟩ := List.cons.inj htext
            refine Or.inr ⟨hformed, before, after, rfl, ?_⟩
            rw [Text.bytes_cons, List.length_append, ← Nat.add_assoc] at hposition
            exact hposition

/-! ## Occurrences in a formula -/

theorem exists_append_of_occurs {formula : String} {position : Nat} {token : Token}
    (h : Occurs formula position token) : ∃ before after,
      formula = before ++ token.text ++ after ∧ (Text.utf8 before).length = position := by
  have hprefix := h.2
  rw [Text.utf8_eq_bytes, Text.utf8_eq_bytes] at hprefix
  have hne : token.text.toList ≠ [] := by simp [toList_text]
  obtain ⟨before, after, hformula, hlength⟩ := Text.exists_append_of_prefix_drop hne hprefix
  refine ⟨String.ofList before, String.ofList after, ?_, ?_⟩
  · apply String.ext
    simpa using hformula
  · rw [Text.utf8_eq_bytes, String.toList_ofList, hlength]

theorem occurs_append (before after : String) {token : Token} (h : token.WellFormed) :
    Occurs (before ++ token.text ++ after) (Text.utf8 before).length token := by
  refine ⟨h, ?_⟩
  simp only [Text.utf8_eq_bytes, String.toList_append, Text.bytes_append, List.append_assoc,
    List.drop_left]
  exact List.prefix_append _ _

theorem mem_occurrences_iff_occurs {formula : String} {position : Nat} {token : Token} :
    (position, token) ∈ occurrences 0 formula.toList ↔ Occurs formula position token := by
  rw [mem_occurrences_iff]
  constructor
  · rintro ⟨hformed, before, after, hformula, hposition⟩
    have hoccurs := occurs_append (String.ofList before) (String.ofList after) hformed
    rw [Text.utf8_eq_bytes, String.toList_ofList, ← Nat.zero_add (Text.bytes before).length,
      hposition] at hoccurs
    rwa [show formula = String.ofList before ++ token.text ++ String.ofList after from
      String.ext (by simpa using hformula)]
  · intro h
    obtain ⟨before, after, rfl, hlength⟩ := exists_append_of_occurs h
    refine ⟨h.1, before.toList, after.toList, by simp, ?_⟩
    rw [← Text.utf8_eq_bytes, hlength, Nat.zero_add]

theorem mem_extractTokens_iff {formula : String} {token : Token} :
    token ∈ extractTokens formula ↔ ∃ position, Occurs formula position token := by
  rw [extractTokens, tokensOf_eq_map_occurrences formula.toList 0, List.mem_map]
  constructor
  · rintro ⟨⟨position, found⟩, hmem, rfl⟩
    exact ⟨position, mem_occurrences_iff_occurs.mp hmem⟩
  · rintro ⟨position, hoccurs⟩
    exact ⟨(position, token), mem_occurrences_iff_occurs.mpr hoccurs, rfl⟩

theorem referencesKey_eq_true_iff {formula key : String} :
    referencesKey formula key = true ↔ Mentions formula key := by
  simp only [referencesKey, List.any_eq_true, beq_iff_eq, mem_extractTokens_iff]
  constructor
  · rintro ⟨token, ⟨position, hoccurs⟩, rfl⟩
    obtain ⟨before, after, rfl, -⟩ := exists_append_of_occurs hoccurs
    refine ⟨before, token.kind, after, hoccurs.1.1, hoccurs.1.2, ?_⟩
    simp only [Token.text, String.append_assoc]
  · rintro ⟨before, kind, after, hkind, hkey, rfl⟩
    have hformed : Token.WellFormed ⟨kind, key⟩ := ⟨hkind, hkey⟩
    have hoccurs := occurs_append before after hformed
    refine ⟨⟨kind, key⟩, ⟨(Text.utf8 before).length, ?_⟩, rfl⟩
    simpa only [Token.text, String.append_assoc] using hoccurs

/-- The scan finds the tokens that stand in a formula: as many as there are positions at which its
bytes go on with a token, in the order of these positions, and none reaches into the next.  Every
one of them is a part of the text that begins and ends between characters. -/
theorem extractTokens_exact (formula : String) :
    (∃ found : List (Nat × Token), extractTokens formula = found.map Prod.snd ∧
      (∀ position token, (position, token) ∈ found ↔ Occurs formula position token) ∧
      (found.Pairwise fun earlier later =>
        earlier.1 + (Text.utf8 earlier.2.text).length ≤ later.1) ∧
      ∀ position token, (position, token) ∈ found → ∃ before after,
        formula = before ++ token.text ++ after ∧ (Text.utf8 before).length = position) ∧
    ∀ key, referencesKey formula key = true ↔ Mentions formula key := by
  refine ⟨⟨occurrences 0 formula.toList, ?_, ?_, ?_, ?_⟩, ?_⟩
  · exact tokensOf_eq_map_occurrences formula.toList 0
  · exact fun position token => mem_occurrences_iff_occurs
  · exact pairwise_occurrences formula.toList 0
  · exact fun position token hfound =>
      exists_append_of_occurs (mem_occurrences_iff_occurs.mp hfound)
  · exact fun key => referencesKey_eq_true_iff

/-- Stray and nested brackets, an unclosed token and text beyond ASCII. -/
example : extractTokens "é[[MEDIA:logo]] [TEXT:ü] [MEDIA:a [TEXT:b.c]" =
    [⟨"MEDIA", "logo"⟩, ⟨"TEXT", "b.c"⟩] := by
  decide +kernel

end TagLedger.Reference
