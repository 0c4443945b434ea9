import Mathlib.Data.List.Basic

/-!
# Texts as bytes

The UTF-8 bytes of a text.  Their order is the order of the texts, and they keep their
synchronization: wherever the bytes of one text occur in those of another, the text itself occurs
there, between whole characters.
-/

namespace TagLedger.Text

def bytes (text : List Char) : List UInt8 :=
  text.flatMap String.utf8EncodeChar

def utf8 (text : String) : List UInt8 :=
  text.toByteArray.data.toList

theorem utf8_eq_bytes (text : String) : utf8 text = bytes text.toList := by
  rw [utf8, ← String.utf8Encode_toList, List.utf8Encode, List.toList_data_toByteArray, bytes]

@[simp] theorem bytes_nil : bytes [] = [] := rfl

@[simp] theorem bytes_cons (character : Char) (text : List Char) :
    bytes (character :: text) = String.utf8EncodeChar character ++ bytes text := rfl

@[simp] theorem bytes_append (first second : List Char) :
    bytes (first ++ second) = bytes first ++ bytes second :=
  List.flatMap_append

theorem bytes_eq_nil_iff {text : List Char} : bytes text = [] ↔ text = [] := by
  cases text <;> simp [String.utf8EncodeChar_ne_nil]

/-! ## Order -/

/-- A smaller character is told from a greater one by its own bytes, whatever follows them. -/
theorem utf8EncodeChar_append_lt {left right : Char} (h : left < right)
    (first second : List UInt8) :
    String.utf8EncodeChar left ++ first < String.utf8EncodeChar right ++ second := by
  have hcode : left.val.toNat < right.val.toNat := UInt32.lt_iff_toNat_lt.mp (Char.lt_def.mp h)
  have hlast : right.val.toNat < 0x110000 := by
    rcases right.valid with hlow | hhigh
    · exact Nat.lt_trans hlow (by decide)
    · exact hhigh.2
  have hlead (code : Nat) : (code % 32 + 192) % 256 = code % 32 + 192 ∧
      (code % 16 + 224) % 256 = code % 16 + 224 ∧ (code % 8 + 240) % 256 = code % 8 + 240 := by
    omega
  have hfollow (code : Nat) : (code % 64 + 128) % 256 = code % 64 + 128 := by omega
  have hdigits (code : Nat) :
      code / 4096 = code / 64 / 64 ∧ code / 262144 = code / 64 / 64 / 64 := by
    omega
  unfold String.utf8EncodeChar
  dsimp only
  split_ifs <;>
    simp only [List.cons_append, List.nil_append, List.cons_lt_cons_iff, UInt8.lt_iff_toNat_lt,
      ← UInt8.toNat_inj, UInt8.toNat_ofNat', hlead, hfollow, hdigits] <;> omega

theorem utf8EncodeChar_append_inj {left right : Char} {first second : List UInt8} :
    String.utf8EncodeChar left ++ first = String.utf8EncodeChar right ++ second ↔
      left = right ∧ first = second := by
  constructor
  · intro h
    rcases Std.lt_trichotomy left right with hlt | rfl | hgt
    · exact absurd (h ▸ utf8EncodeChar_append_lt hlt first second) (List.lt_irrefl _)
    · exact ⟨rfl, List.append_cancel_left h⟩
    · exact absurd (h ▸ utf8EncodeChar_append_lt hgt second first) (List.lt_irrefl _)
  · rintro ⟨rfl, rfl⟩
    rfl

private theorem append_lt_append_iff (shared left right : List UInt8) :
    shared ++ left < shared ++ right ↔ left < right := by
  induction shared with
  | nil => rfl
  | cons byte shared ih => simpa [List.cons_lt_cons_iff] using ih

theorem bytes_lt_iff {left right : List Char} : bytes left < bytes right ↔ left < right := by
  induction left generalizing right with
  | nil =>
      cases right with
      | nil => simp
      | cons second right =>
          have hbytes := bytes_eq_nil_iff.not.mpr (List.cons_ne_nil second right)
          obtain ⟨head, tail, hcons⟩ := List.exists_cons_of_ne_nil hbytes
          simp [hcons]
  | cons first left ih =>
      cases right with
      | nil => simp
      | cons second right =>
          rw [bytes_cons, bytes_cons, List.cons_lt_cons_iff]
          rcases Std.lt_trichotomy first second with hlt | rfl | hgt
          · exact iff_of_true (utf8EncodeChar_append_lt hlt _ _) (Or.inl hlt)
          · rw [append_lt_append_iff, ih]
            simp
          · refine iff_of_false ?_ ?_
            · exact List.lt_asymm (utf8EncodeChar_append_lt hgt _ _)
            · rintro (hlt | ⟨rfl, -⟩)
              · exact absurd hlt (Char.lt_asymm hgt)
              · exact absurd hgt (Char.lt_irrefl _)

theorem utf8_lt_iff {left right : String} : utf8 left < utf8 right ↔ left < right := by
  rw [utf8_eq_bytes, utf8_eq_bytes, bytes_lt_iff, String.lt_iff]

/-! ## Occurrences -/

theorem bytes_prefix_iff {left right : List Char} :
    bytes left <+: bytes right ↔ left <+: right := by
  induction left generalizing right with
  | nil => simp
  | cons first left ih =>
      cases right with
      | nil => simp [String.utf8EncodeChar_ne_nil]
      | cons second right =>
          rw [List.cons_prefix_cons, ← ih]
          constructor
          · rintro ⟨rest, hrest⟩
            rw [bytes_cons, bytes_cons, List.append_assoc, utf8EncodeChar_append_inj] at hrest
            exact ⟨hrest.1, rest, hrest.2⟩
          · rintro ⟨rfl, hprefix⟩
            exact (List.prefix_append_right_inj _).mpr hprefix

/-- Bytes that start with a character are not found within another one. -/
theorem drop_utf8EncodeChar_of_prefix {sought text : List Char} (hne : sought ≠ [])
    {character : Char} {position : Nat}
    (h : bytes sought <+: (String.utf8EncodeChar character ++ bytes text).drop position) :
    position = 0 ∨ (String.utf8EncodeChar character).length ≤ position := by
  obtain ⟨first, sought, rfl⟩ := List.exists_cons_of_ne_nil hne
  by_contra hinside
  rw [not_or, Nat.not_le] at hinside
  obtain ⟨rest, hrest⟩ := h
  have hlead : 0 < (String.utf8EncodeChar first).length :=
    List.length_pos_iff.mpr String.utf8EncodeChar_ne_nil
  have hbyte : (String.utf8EncodeChar first)[0] = (String.utf8EncodeChar character)[position] := by
    have hget := congrArg (·[0]?) hrest
    rw [bytes_cons, List.append_assoc, List.getElem?_append_left hlead, List.getElem?_drop,
      Nat.add_zero, List.getElem?_append_left hinside.2, List.getElem?_eq_getElem hlead,
      List.getElem?_eq_getElem hinside.2] at hget
    exact Option.some.inj hget
  have hfirst := UInt8.isUTF8FirstByte_getElem_zero_utf8EncodeChar (c := first)
  rw [hbyte, UInt8.isUTF8FirstByte_getElem_utf8EncodeChar] at hfirst
  exact hinside.1 hfirst

/-- Where the bytes of a text go on with those of another, the other is a part of the text, and the
position is the end of the characters before it. -/
theorem exists_append_of_prefix_drop {sought text : List Char} (hne : sought ≠ []) {position : Nat}
    (h : bytes sought <+: (bytes text).drop position) :
    ∃ before after, text = before ++ sought ++ after ∧ (bytes before).length = position := by
  induction text generalizing position with
  | nil =>
      rw [bytes_nil, List.drop_nil, List.prefix_nil, bytes_eq_nil_iff] at h
      exact absurd h hne
  | cons character text ih =>
      rcases drop_utf8EncodeChar_of_prefix hne h with rfl | hle
      · obtain ⟨after, hafter⟩ := bytes_prefix_iff.mp h
        exact ⟨[], after, hafter.symm, rfl⟩
      · rw [bytes_cons, List.drop_append, List.drop_eq_nil_of_le hle, List.nil_append] at h
        obtain ⟨before, after, rfl, hlength⟩ := ih h
        refine ⟨character :: before, after, rfl, ?_⟩
        rw [bytes_cons, List.length_append, hlength]
        omega

end TagLedger.Text
