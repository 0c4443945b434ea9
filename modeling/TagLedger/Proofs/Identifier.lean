import TagLedger.Identifier
import TagLedger.Proofs.Tag.Canonical

/-!
# Identifiers as keys

An identifier is written with hexadecimal digits and hyphens only.  So nothing trims it, and the
schema takes it as a key.
-/

namespace TagLedger

namespace Text

/-- A text with a character at least, none of which is blank or a NUL. -/
structure Solid (text : String) : Prop where
  nonempty : text ≠ ""
  visible : ∀ character ∈ text.toList, isBlank character = false ∧ character ≠ '\x00'

variable {text : String}

theorem Solid.trimmed (h : Solid text) : Trimmed text.toList where
  first character hfirst := (h.visible character (List.mem_of_mem_head? hfirst)).1
  last character hlast := (h.visible character (List.mem_of_mem_getLast? hlast)).1

theorem Solid.notEmpty (h : Solid text) : notEmpty text = true := by
  refine (notEmpty_iff_of_trimmed h.nonempty h.trimmed).mpr fun hstart => ?_
  exact (h.visible '\x00' (List.mem_of_mem_head? hstart)).2 rfl

end Text

theorem visible_digitChar (value : Nat) :
    Text.isBlank value.digitChar = false ∧ value.digitChar ≠ '\x00' := by
  rcases Nat.lt_or_ge value 16 with hlt | hge
  · have hdigits : ∀ digit < 16, Text.isBlank (Nat.digitChar digit) = false ∧
        Nat.digitChar digit ≠ '\x00' := by
      decide
    exact hdigits value hlt
  · rw [Nat.digitChar_eq_star.mpr hge]
    decide

theorem exists_digitChar_of_mem_toDigits {base value : Nat} (hbase : 1 < base) {character : Char}
    (h : character ∈ Nat.toDigits base value) : ∃ digit, character = Nat.digitChar digit := by
  induction value using Nat.strongRecOn with
  | ind value ih =>
      rw [Nat.toDigits_eq_if hbase] at h
      split at h
      · exact ⟨value, List.mem_singleton.mp h⟩
      · next hle =>
          rcases List.mem_append.mp h with hquotient | hlast
          · exact ih (value / base) (Nat.div_lt_self (by omega) hbase) hquotient
          · exact ⟨value % base, List.mem_singleton.mp hlast⟩

namespace Identifier

theorem visible_hexadecimal {width value : Nat} {character : Char}
    (h : character ∈ (hexadecimal width value).toList) :
    Text.isBlank character = false ∧ character ≠ '\x00' := by
  simp only [hexadecimal, String.toList_ofList, List.mem_append, List.mem_replicate] at h
  rcases h with ⟨-, rfl⟩ | hdigits
  · decide
  · obtain ⟨digit, rfl⟩ := exists_digitChar_of_mem_toDigits (by decide) hdigits
    exact visible_digitChar digit

theorem solid_text (bits : Nat) : Text.Solid (text bits) where
  nonempty h := by
    have hlist := congrArg String.toList h
    simp [text] at hlist
  visible character h := by
    have hhyphen : "-".toList = ['-'] := rfl
    have hfour : "4".toList = ['4'] := rfl
    simp only [text, String.toList_intercalate, List.map_cons, List.map_nil, List.intercalate,
      List.intersperse, List.flatten_cons, List.flatten_nil, List.mem_append, String.toList_append,
      hhyphen, hfour, List.mem_singleton, List.not_mem_nil, or_false] at h
    rcases h with hfirst | rfl | hsecond | rfl | (rfl | hthird) | rfl | hfourth | rfl | hfifth
    · exact visible_hexadecimal hfirst
    · decide
    · exact visible_hexadecimal hsecond
    · decide
    · decide
    · exact visible_hexadecimal hthird
    · decide
    · exact visible_hexadecimal hfourth
    · decide
    · exact visible_hexadecimal hfifth

end Identifier

/-- A text as identifiers are written. -/
def IsIdentifier (text : String) : Prop :=
  ∃ bits, text = Identifier.text bits

theorem IsIdentifier.solid {text : String} (h : IsIdentifier text) : Text.Solid text := by
  obtain ⟨bits, rfl⟩ := h
  exact Identifier.solid_text bits

end TagLedger
