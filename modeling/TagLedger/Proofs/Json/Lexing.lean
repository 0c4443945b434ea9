import TagLedger.Json.Reader
import TagLedger.Proofs.Json.Numeral

/-!
# Tokens of written texts

A quotation is read as the text in it.  A number is read no further than its own characters, so what
is read does not depend on what follows them.  Every token takes a character at least: a text has no
more tokens than characters.
-/

namespace TagLedger.Json

/-! ## Texts -/

private theorem escapeChar_of_control : ∀ code < 0x20,
    (escapeChar (Char.ofNat code)).length = 2 ∧
        (escapeChar (Char.ofNat code))[0]? = some '\\' ∧
        (escapeChar (Char.ofNat code))[1]? ≠ some 'u' ∧
        (escapeChar (Char.ofNat code))[1]?.bind simpleEscape? = some (Char.ofNat code) ∨
      (escapeChar (Char.ofNat code)).length = 6 ∧
        (escapeChar (Char.ofNat code)).take 2 = ['\\', 'u'] ∧
        Text.hexNumber? ((escapeChar (Char.ofNat code)).drop 2) = some code := by
  decide

/-- A character is written as it is, with a letter after a backslash, or with its number. -/
theorem escapeChar_cases (character : Char) :
    (escapeChar character = [character] ∧ character ≠ '"' ∧ character ≠ '\\' ∧
        0x20 ≤ character.toNat) ∨
      (∃ letter, escapeChar character = ['\\', letter] ∧ letter ≠ 'u' ∧
        simpleEscape? letter = some character) ∨
      ∃ first second third fourth,
        escapeChar character = ['\\', 'u', first, second, third, fourth] ∧
        Text.hexNumber? [first, second, third, fourth] = some character.toNat ∧
        character.toNat < 0x20 := by
  rcases Nat.lt_or_ge character.toNat 0x20 with hcontrol | hprinted
  · have hescape := escapeChar_of_control character.toNat hcontrol
    rw [Char.ofNat_toNat] at hescape
    match escapeChar character, hescape with
    | [_, letter], hescape =>
        obtain ⟨-, hfirst, hletter, hsimple⟩ | ⟨hlength, -⟩ := hescape
        · cases hfirst
          exact Or.inr (Or.inl ⟨letter, rfl, by simpa using hletter, hsimple⟩)
        · cases hlength
    | [_, _, first, second, third, fourth], hescape =>
        obtain ⟨hlength, -⟩ | ⟨-, hstart, hnumber⟩ := hescape
        · cases hlength
        · cases hstart
          exact Or.inr (Or.inr ⟨first, second, third, fourth, rfl, hnumber, hcontrol⟩)
    | [], hescape => simp at hescape
    | [_], hescape => simp at hescape
    | [_, _, _], hescape => simp at hescape
    | [_, _, _, _], hescape => simp at hescape
    | [_, _, _, _, _], hescape => simp at hescape
    | _ :: _ :: _ :: _ :: _ :: _ :: _ :: _, hescape => simp at hescape
  · by_cases hquote : character = '"'
    · subst hquote
      exact Or.inr (Or.inl ⟨'"', rfl, by decide, rfl⟩)
    · by_cases hbackslash : character = '\\'
      · subst hbackslash
        exact Or.inr (Or.inl ⟨'\\', rfl, by decide, rfl⟩)
      · refine Or.inl ⟨?_, hquote, hbackslash, hprinted⟩
        unfold escapeChar
        split
        · exact absurd rfl hquote
        · exact absurd rfl hbackslash
        all_goals first | exact absurd hprinted (by decide) | exact if_neg (by omega)

/-- A piece that a character is read as; numbered characters are no surrogates. -/
def Piece.Stands (piece : Piece) (character : Char) : Prop :=
  piece = .plain character ∨ piece = .unit character.toNat ∧ character.toNat < 0x20

theorem exists_piece (character : Char) : ∃ piece : Piece, piece.Stands character ∧
    ∀ rest, readPieces (escapeChar character ++ rest) =
      (readPieces rest).map fun read => (piece :: read.1, read.2) := by
  rcases escapeChar_cases character with ⟨hescape, hquote, hbackslash, hprinted⟩ |
    ⟨letter, hescape, hletter, hsimple⟩ | ⟨first, second, third, fourth, hescape, hnumber, hcontrol⟩
  · refine ⟨.plain character, Or.inl rfl, fun rest => ?_⟩
    have hread : ¬ (character = '\\' ∨ character.toNat < 0x20) := by
      rw [not_or, Nat.not_lt]
      exact ⟨hbackslash, hprinted⟩
    rw [hescape, List.singleton_append, readPieces, if_neg hread]
    · cases readPieces rest <;> rfl
    · exact hquote
    · exact fun _ _ _ _ _ hslash => absurd hslash hbackslash
    · exact fun _ _ hslash => absurd hslash hbackslash
  · refine ⟨.plain character, Or.inl rfl, fun rest => ?_⟩
    rw [hescape, List.cons_append, List.singleton_append, readPieces, hsimple]
    · cases readPieces rest <;> rfl
    · exact fun _ _ _ _ _ hu => absurd hu hletter
  · refine ⟨.unit character.toNat, Or.inr ⟨rfl, hcontrol⟩, fun rest => ?_⟩
    rw [hescape]
    simp only [List.cons_append, List.nil_append, readPieces, hnumber]
    cases readPieces rest <;> rfl

theorem joinPieces_unit {code : Nat} (hhigh : isHighSurrogate code = false)
    (hlow : isLowSurrogate code = false) (pieces : List Piece) :
    joinPieces (.unit code :: pieces) = (joinPieces pieces).map (Char.ofNat code :: ·) := by
  match pieces with
  | [] => simp [joinPieces, hhigh, hlow]
  | .plain _ :: rest => simp [joinPieces, hhigh, hlow, Function.comp_def]
  | .unit _ :: rest => simp [joinPieces, hhigh, hlow]

theorem joinPieces_of_stands {pieces : List Piece} {text : List Char}
    (h : List.Forall₂ Piece.Stands pieces text) : joinPieces pieces = some text := by
  induction h with
  | nil => rfl
  | @cons piece character pieces text hpiece hrest ih =>
      rcases hpiece with rfl | ⟨rfl, hcontrol⟩
      · rw [joinPieces, ih]
        rfl
      · have hhigh : isHighSurrogate character.toNat = false := by
          simp only [isHighSurrogate, Bool.and_eq_false_iff, decide_eq_false_iff_not]
          omega
        have hlow : isLowSurrogate character.toNat = false := by
          simp only [isLowSurrogate, Bool.and_eq_false_iff, decide_eq_false_iff_not]
          omega
        rw [joinPieces_unit hhigh hlow, ih, Char.ofNat_toNat]
        rfl

theorem exists_readPieces (text rest : List Char) : ∃ pieces,
    List.Forall₂ Piece.Stands pieces text ∧
    readPieces (text.flatMap escapeChar ++ '"' :: rest) = some (pieces, rest) := by
  induction text with
  | nil => exact ⟨[], .nil, by rw [List.flatMap_nil, List.nil_append, readPieces]⟩
  | cons character text ih =>
      obtain ⟨piece, hpiece, hread⟩ := exists_piece character
      obtain ⟨pieces, hpieces, hrest⟩ := ih
      refine ⟨piece :: pieces, .cons hpiece hpieces, ?_⟩
      rw [List.flatMap_cons, List.append_assoc, hread, hrest]
      rfl

/-- A quotation is read as the text in it. -/
theorem lexToken_quote (text : String) (rest : List Char) :
    lexToken ((quote text).toList ++ rest) = some (.scalar (.string text), rest) := by
  obtain ⟨pieces, hpieces, hread⟩ := exists_readPieces text.toList rest
  have hlist : (quote text).toList ++ rest =
      '"' :: (text.toList.flatMap escapeChar ++ '"' :: rest) := by
    simp [quote]
  rw [hlist, lexToken, readText, hread]
  simp [joinPieces_of_stands hpieces]

/-! ## Readers of numbers -/

/-- Nothing that follows can be taken for a part of a number. -/
def Ends (rest : List Char) : Prop :=
  ∀ character ∈ rest.head?, isNumeral character = false

/-- What is read from a text is read from it whatever follows, and what follows is left. -/
def Local {α : Type} (reader : List Char → Option (α × List Char)) : Prop :=
  ∀ text rest, Ends rest →
    reader (text ++ rest) = (reader text).map fun read => (read.1, read.2 ++ rest)

section Readers

variable {α β : Type} {text rest : List Char}

theorem Ends.ne {character : Char} (h : Ends (character :: rest)) {numeral : Char}
    (hnumeral : isNumeral numeral = true) : character ≠ numeral := by
  rintro rfl
  exact absurd hnumeral (by simp [h character rfl])

theorem Ends.takeWhile_dropWhile (h : Ends rest) (text : List Char) :
    (text ++ rest).takeWhile Char.isDigit = text.takeWhile Char.isDigit ∧
      (text ++ rest).dropWhile Char.isDigit = text.dropWhile Char.isDigit ++ rest := by
  induction text with
  | nil =>
      cases rest with
      | nil => exact ⟨rfl, rfl⟩
      | cons character rest =>
          have hdigit : character.isDigit = false :=
            Bool.eq_false_iff.mpr fun hdigit =>
              absurd (isNumeral_of_isDigit hdigit) (by simp [h character rfl])
          simp [hdigit]
  | cons character text ih =>
      cases hdigit : character.isDigit <;> simp [hdigit, ih]

theorem local_takeDigits : Local Text.takeDigits := by
  intro text rest hends
  obtain ⟨htake, hdrop⟩ := hends.takeWhile_dropWhile text
  unfold Text.takeDigits
  rw [htake, hdrop]
  cases text.takeWhile Char.isDigit <;> rfl

theorem Local.map {reader : List Char → Option (α × List Char)} (h : Local reader)
    (convert : α → β) :
    Local fun text => (reader text).map fun read => (convert read.1, read.2) := by
  intro text rest hends
  simp only [h text rest hends, Option.map_map]
  rfl

theorem Local.bind {reader : List Char → Option (α × List Char)} (h : Local reader)
    {next : α → List Char → Option (β × List Char)} (hnext : ∀ value, Local (next value)) :
    Local fun text => (reader text).bind fun read => next read.1 read.2 := by
  intro text rest hends
  simp only [h text rest hends]
  cases reader text with
  | none => rfl
  | some read => exact hnext read.1 read.2 rest hends

theorem readWhole_of_ne {character : Char} (h : character ≠ '0') (text : List Char) :
    readWhole (character :: text) = Text.takeDigits (character :: text) := by
  rw [readWhole]
  exact fun _ hzero => h (List.cons.inj hzero).1

theorem local_readWhole : Local readWhole := by
  intro text rest hends
  cases text with
  | nil =>
      cases rest with
      | nil => rfl
      | cons character rest =>
          rw [List.nil_append, readWhole_of_ne (hends.ne (by decide))]
          exact local_takeDigits [] (character :: rest) hends
  | cons character text =>
      by_cases hzero : character = '0'
      · subst hzero
        rfl
      · rw [List.cons_append, readWhole_of_ne hzero, readWhole_of_ne hzero]
        exact local_takeDigits (character :: text) rest hends

theorem readFraction_of_ne {character : Char} (h : character ≠ '.') (text : List Char) :
    readFraction (character :: text) = some (none, character :: text) := by
  rw [readFraction]
  exact fun _ hpoint => h (List.cons.inj hpoint).1

theorem local_readFraction : Local readFraction := by
  intro text rest hends
  cases text with
  | nil =>
      cases rest with
      | nil => rfl
      | cons character rest => exact readFraction_of_ne (hends.ne (by decide)) rest
  | cons character text =>
      by_cases hpoint : character = '.'
      · subst hpoint
        exact (local_takeDigits.map some) text rest hends
      · rw [List.cons_append, readFraction_of_ne hpoint, readFraction_of_ne hpoint]
        rfl

theorem readSignedExponent_of_ne {character : Char} (hminus : character ≠ '-')
    (hplus : character ≠ '+') (text : List Char) : readSignedExponent (character :: text) =
      (Text.takeDigits (character :: text)).map fun read =>
        ((Text.naturalOf read.1 : Int), read.2) := by
  rw [readSignedExponent]
  · exact fun _ hsign => hminus (List.cons.inj hsign).1
  · exact fun _ hsign => hplus (List.cons.inj hsign).1

theorem local_readSignedExponent : Local readSignedExponent := by
  intro text rest hends
  have hdigits : Local fun text => (Text.takeDigits text).map fun read =>
      ((Text.naturalOf read.1 : Int), read.2) :=
    local_takeDigits.map fun digits => (Text.naturalOf digits : Int)
  cases text with
  | nil =>
      cases rest with
      | nil => rfl
      | cons character rest =>
          rw [List.nil_append, readSignedExponent_of_ne (hends.ne (by decide))
            (hends.ne (by decide))]
          exact hdigits [] (character :: rest) hends
  | cons character text =>
      by_cases hminus : character = '-'
      · subst hminus
        exact (local_takeDigits.map fun digits => -(Text.naturalOf digits : Int)) text rest hends
      · by_cases hplus : character = '+'
        · subst hplus
          exact hdigits text rest hends
        · rw [List.cons_append, readSignedExponent_of_ne hminus hplus,
            readSignedExponent_of_ne hminus hplus]
          exact hdigits (character :: text) rest hends

theorem readExponent_of_ne {character : Char} (hlower : character ≠ 'e')
    (hupper : character ≠ 'E') (text : List Char) :
    readExponent (character :: text) = some (none, character :: text) := by
  rw [readExponent]
  · exact fun _ hletter => hlower (List.cons.inj hletter).1
  · exact fun _ hletter => hupper (List.cons.inj hletter).1

theorem local_readExponent : Local readExponent := by
  intro text rest hends
  cases text with
  | nil =>
      cases rest with
      | nil => rfl
      | cons character rest =>
          exact readExponent_of_ne (hends.ne (by decide)) (hends.ne (by decide)) rest
  | cons character text =>
      by_cases hlower : character = 'e'
      · subst hlower
        exact (local_readSignedExponent.map some) text rest hends
      · by_cases hupper : character = 'E'
        · subst hupper
          exact (local_readSignedExponent.map some) text rest hends
        · rw [List.cons_append, readExponent_of_ne hlower hupper, readExponent_of_ne hlower hupper]
          rfl

/-- Reads a number behind its sign. -/
def readUnsigned (negative : Bool) (text : List Char) : Option (Number × List Char) :=
  (readWhole text).bind fun whole =>
    (readFraction whole.2).bind fun fraction =>
      (readExponent fraction.2).bind fun exponent =>
        (readNumber ⟨negative, whole.1, fraction.1, exponent.1⟩).map fun value =>
          (value, exponent.2)

theorem lexNumber_minus (text : List Char) : lexNumber ('-' :: text) = readUnsigned true text := by
  unfold readUnsigned
  simp only [lexNumber, Option.bind_eq_bind, Option.map_eq_bind]
  rfl

theorem lexNumber_of_head? (h : text.head? ≠ some '-') :
    lexNumber text = readUnsigned false text := by
  unfold readUnsigned
  cases text with
  | nil => rfl
  | cons character text =>
      have hsign : character ≠ '-' := fun heq => h (congrArg some heq)
      simp only [lexNumber, Option.bind_eq_bind, Option.map_eq_bind]
      split
      · next hminus => exact absurd (List.cons.inj hminus).1 hsign
      · rfl

theorem local_readUnsigned (negative : Bool) : Local (readUnsigned negative) := by
  have hvalue (whole : List Char) (fraction : Option (List Char)) (exponent : Option Int) :
      Local fun text => (readNumber ⟨negative, whole, fraction, exponent⟩).map (·, text) := by
    intro text rest _
    cases readNumber ⟨negative, whole, fraction, exponent⟩ <;> rfl
  exact local_readWhole.bind fun whole => local_readFraction.bind fun fraction =>
    local_readExponent.bind fun exponent => hvalue whole fraction exponent

theorem local_lexNumber : Local lexNumber := by
  intro text rest hends
  cases text with
  | nil =>
      have hhead : rest.head? ≠ some '-' := fun hminus => absurd (hends '-' hminus) (by decide)
      rw [List.nil_append, lexNumber_of_head? hhead]
      exact local_readUnsigned false [] rest hends
  | cons character text =>
      by_cases hminus : character = '-'
      · subst hminus
        rw [List.cons_append, lexNumber_minus, lexNumber_minus]
        exact local_readUnsigned true text rest hends
      · have hhead (text : List Char) : (character :: text).head? ≠ some '-' := by
          simpa using hminus
        rw [List.cons_append, lexNumber_of_head? (hhead _), lexNumber_of_head? (hhead _)]
        exact local_readUnsigned false (character :: text) rest hends

/-! ## Lengths -/

theorem suffix_of_takeDigits {digits : List Char}
    (h : Text.takeDigits text = some (digits, rest)) :
    rest <:+ text ∧ rest.length < text.length := by
  unfold Text.takeDigits at h
  split at h
  · cases h
  · next hdigits =>
      cases h
      refine ⟨List.dropWhile_suffix _, ?_⟩
      have hlength := congrArg List.length
        (List.takeWhile_append_dropWhile (p := Char.isDigit) (l := text))
      have hpos := List.length_pos_iff.mpr hdigits
      rw [List.length_append] at hlength
      omega

theorem suffix_of_readWhole {whole : List Char} (h : readWhole text = some (whole, rest)) :
    rest <:+ text ∧ rest.length < text.length := by
  unfold readWhole at h
  split at h
  · cases h
    exact ⟨List.suffix_cons _ _, Nat.lt_succ_self _⟩
  · exact suffix_of_takeDigits h

theorem suffix_of_readFraction {fraction : Option (List Char)}
    (h : readFraction text = some (fraction, rest)) : rest <:+ text := by
  unfold readFraction at h
  split at h
  · obtain ⟨⟨digits, after⟩, hdigits, hrest⟩ := Option.map_eq_some_iff.mp h
    cases hrest
    exact (suffix_of_takeDigits hdigits).1.trans (List.suffix_cons _ _)
  · cases h
    exact List.suffix_rfl

theorem suffix_of_readSignedExponent {exponent : Int}
    (h : readSignedExponent text = some (exponent, rest)) : rest <:+ text := by
  unfold readSignedExponent at h
  split at h
  all_goals
    obtain ⟨⟨digits, after⟩, hdigits, hrest⟩ := Option.map_eq_some_iff.mp h
    cases hrest
    have hsuffix := (suffix_of_takeDigits hdigits).1
  · exact hsuffix.trans (List.suffix_cons _ _)
  · exact hsuffix.trans (List.suffix_cons _ _)
  · exact hsuffix

theorem suffix_of_readExponent {exponent : Option Int}
    (h : readExponent text = some (exponent, rest)) : rest <:+ text := by
  unfold readExponent at h
  split at h
  · obtain ⟨⟨value, after⟩, hvalue, hrest⟩ := Option.map_eq_some_iff.mp h
    cases hrest
    exact (suffix_of_readSignedExponent hvalue).trans (List.suffix_cons _ _)
  · obtain ⟨⟨value, after⟩, hvalue, hrest⟩ := Option.map_eq_some_iff.mp h
    cases hrest
    exact (suffix_of_readSignedExponent hvalue).trans (List.suffix_cons _ _)
  · cases h
    exact List.suffix_rfl

theorem suffix_of_readUnsigned {negative : Bool} {number : Number}
    (h : readUnsigned negative text = some (number, rest)) :
    rest <:+ text ∧ rest.length < text.length := by
  simp only [readUnsigned, Option.bind_eq_some_iff, Option.map_eq_some_iff, Prod.exists] at h
  obtain ⟨whole, first, hwhole, fraction, second, hfraction, exponent, third, hexponent, value, -,
    hvalue⟩ := h
  cases hvalue
  obtain ⟨hfirst, hlt⟩ := suffix_of_readWhole hwhole
  have hthird := (suffix_of_readExponent hexponent).trans (suffix_of_readFraction hfraction)
  exact ⟨hthird.trans hfirst, Nat.lt_of_le_of_lt hthird.length_le hlt⟩

theorem suffix_of_lexNumber {number : Number} (h : lexNumber text = some (number, rest)) :
    rest <:+ text ∧ rest.length < text.length := by
  by_cases hminus : text.head? = some '-'
  · obtain ⟨unsigned, rfl⟩ := List.head?_eq_some_iff.mp hminus
    rw [lexNumber_minus] at h
    obtain ⟨hsuffix, hlt⟩ := suffix_of_readUnsigned h
    exact ⟨hsuffix.trans (List.suffix_cons _ _), Nat.lt_succ_of_lt hlt⟩
  · rw [lexNumber_of_head? hminus] at h
    exact suffix_of_readUnsigned h

theorem length_of_readPieces {pieces : List Piece} (h : readPieces text = some (pieces, rest)) :
    rest.length < text.length := by
  fun_induction readPieces text generalizing pieces rest with
  | case1 => cases h
  | case2 rest =>
      cases h
      exact Nat.lt_succ_self _
  | case3 first second third fourth text ih =>
      simp only [Option.bind_eq_bind, Option.bind_eq_some_iff, Prod.exists] at h
      obtain ⟨code, -, others, after, hafter, hpieces⟩ := h
      cases hpieces
      have hlt := ih hafter
      simp only [List.length_cons]
      omega
  | case4 escape text _ ih =>
      simp only [Option.bind_eq_bind, Option.bind_eq_some_iff, Prod.exists] at h
      obtain ⟨character, -, others, after, hafter, hpieces⟩ := h
      cases hpieces
      have hlt := ih hafter
      simp only [List.length_cons]
      omega
  | case5 => cases h
  | case6 character text _ _ _ _ ih =>
      simp only [Option.bind_eq_bind, Option.bind_eq_some_iff, Prod.exists] at h
      obtain ⟨others, after, hafter, hpieces⟩ := h
      cases hpieces
      exact Nat.lt_succ_of_lt (ih hafter)

theorem length_of_lexToken {token : Token} (h : lexToken text = some (token, rest)) :
    rest.length < text.length := by
  unfold lexToken at h
  split at h
  case h_7 text =>
    obtain ⟨⟨value, after⟩, hvalue, hrest⟩ := Option.map_eq_some_iff.mp h
    cases hrest
    simp only [readText, Option.bind_eq_bind, Option.bind_eq_some_iff, Prod.exists] at hvalue
    obtain ⟨pieces, left, hpieces, characters, -, hcharacters⟩ := hvalue
    cases hcharacters
    exact Nat.lt_succ_of_lt (length_of_readPieces hpieces)
  case h_11 =>
    obtain ⟨⟨value, after⟩, hvalue, hrest⟩ := Option.map_eq_some_iff.mp h
    cases hrest
    exact (suffix_of_lexNumber hvalue).2
  all_goals
    cases h
    simp only [List.length_cons]
    omega

/-- The limit on the number of tokens is not what ends the reading of a text. -/
theorem lexWithin_of_length_le {limit : Nat} {tokens : List Token}
    (h : lexWithin limit text = some tokens) {other : Nat} (hother : text.length ≤ other) :
    lexWithin other text = some tokens := by
  induction limit generalizing text tokens other with
  | zero =>
      simp only [lexWithin] at h
      split at h
      · next hempty =>
          cases h
          cases other <;> simp [lexWithin, List.isEmpty_iff.mp hempty]
      · cases h
  | succ limit ih =>
      have hdrop : (text.dropWhile isSpace).length ≤ text.length :=
        (List.dropWhile_suffix _).length_le
      rw [lexWithin] at h
      split at h
      · next hempty =>
          cases h
          cases other <;> simp [lexWithin, hempty]
      · next hne =>
          simp only [Option.bind_eq_bind, Option.bind_eq_some_iff, Prod.exists] at h
          obtain ⟨token, rest, htoken, others, hothers, htokens⟩ := h
          cases htokens
          have hlt := length_of_lexToken htoken
          cases other with
          | zero => omega
          | succ other =>
              have hrest := ih hothers (show rest.length ≤ other by omega)
              rw [lexWithin]
              split
              · next hempty => exact absurd hempty hne
              · simp [htoken, hrest]

end Readers

end TagLedger.Json
