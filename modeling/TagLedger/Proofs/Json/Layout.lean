import TagLedger.Proofs.Json.Reading
import TagLedger.Proofs.Table
import Mathlib.Data.List.TakeWhile

/-!
# Reading laid out texts

The text of a value with its parts on lines of their own is read as the value, with the fields of
its objects in the order of their names.  Blanks between the parts, and a line end behind the text,
make no difference.
-/

namespace TagLedger.Json

variable {reading final : Reading} {open_ : List Frame} {text rest : List Char}

/-! ## Blanks -/

theorem drives_space_iff {character : Char} (hspace : isSpace character = true) :
    Drives (character :: text) reading final ↔ Drives text reading final := by
  have hlex (limit : Nat) : lexWithin limit (character :: text) = lexWithin limit text := by
    cases limit <;> simp [lexWithin, List.dropWhile_cons_of_pos hspace]
  simp only [Drives, hlex]

theorem drives_newline_iff (level : Nat) :
    Drives ((newline level).toList ++ text) reading final ↔ Drives text reading final := by
  have hspaces (count : Nat) : Drives (List.replicate count ' ' ++ text) reading final ↔
      Drives text reading final := by
    induction count with
    | zero => rfl
    | succ count ih => rw [List.replicate_succ, List.cons_append, drives_space_iff (by decide), ih]
  rw [newline, String.toList_ofList, List.cons_append, drives_space_iff (by decide), hspaces]

theorem ends_newline (level : Nat) (text : List Char) : Ends ((newline level).toList ++ text) := by
  simp [Ends, newline]
  decide

/-! ## Natural numbers -/

theorem head?_toDigits_ne_zero {value : Nat} (h : 0 < value) :
    (Nat.toDigits 10 value).head? ≠ some '0' := by
  induction value using Nat.strongRecOn with
  | _ value ih =>
      by_cases hsmall : value < 10
      · have hdigit : ∀ digit < 10, 0 < digit → digit.digitChar ≠ '0' := by decide
        rw [Nat.toDigits_of_lt_base hsmall]
        simpa using hdigit value hsmall h
      · have hhead := ih (value / 10) (by omega) (by omega)
        rw [Nat.toDigits_of_base_le (by decide) (by omega),
          List.head?_append_of_ne_nil _ Nat.toDigits_ne_nil]
        exact hhead

theorem gatherDigits_eq {digits : List Char} {start : Nat}
    (h : Nat.ofDigitChars 10 digits start ≤ greatestSignificand) :
    gatherDigits start digits = (Nat.ofDigitChars 10 digits start, []) := by
  induction digits generalizing start with
  | nil => rfl
  | cons digit digits ih =>
      rw [Nat.ofDigitChars_cons] at h ⊢
      have hnext : start * 10 + Text.digitValue digit =
          10 * start + (digit.toNat - '0'.toNat) := by
        rw [Nat.mul_comm]
        rfl
      have hle (next : Nat) : next ≤ Nat.ofDigitChars 10 digits next := by
        rw [Nat.ofDigitChars_eq_ofDigitChars_zero]
        exact Nat.le_trans (Nat.le_mul_of_pos_left next (Nat.pow_pos (by decide)))
          (Nat.le_add_right _ _)
      rw [gatherDigits, hnext, if_pos (Nat.le_trans (hle _) h), ih h]

theorem readWhole_toDigits (value : Nat) :
    readWhole (Nat.toDigits 10 value) = some (Nat.toDigits 10 value, []) := by
  rcases Nat.eq_zero_or_pos value with rfl | hpositive
  · rfl
  · have hhead := head?_toDigits_ne_zero hpositive
    have hdigits : ∀ digit ∈ Nat.toDigits 10 value, digit.isDigit = true := fun _ hdigit =>
      Nat.isDigit_of_mem_toDigits (by decide) (by decide) hdigit
    obtain ⟨first, others, htext⟩ := List.exists_cons_of_ne_nil
      (Nat.toDigits_ne_nil : Nat.toDigits 10 value ≠ [])
    rw [htext] at hhead hdigits ⊢
    rw [readWhole_of_ne (by simpa using hhead), Text.takeDigits,
      List.takeWhile_eq_self_iff.mpr hdigits, List.dropWhile_eq_nil_iff.mpr hdigits]

/-- A natural number that fits into 64 bits is read from its text. -/
theorem reread_natural {value : Nat} (h : value < twoTo 64) :
    (Number.integer value).reread = some (.integer value) := by
  have htext : (Number.integer value).toText.toList = Nat.toDigits 10 value := by
    rw [Number.toText, Int.toString_eq_repr]
    change (toString value).toList = _
    rw [Nat.toString_eq_ofList_toDigits, String.toList_ofList]
  have hminus : (Nat.toDigits 10 value).head? ≠ some '-' := fun hhead =>
    absurd (Nat.isDigit_of_mem_toDigits (by decide) (by decide) (List.mem_of_head? hhead))
      (by decide)
  have hgather : gatherDigits 0 (Nat.toDigits 10 value) = (value, []) := by
    have hvalue : Nat.ofDigitChars 10 (Nat.toDigits 10 value) 0 = value :=
      Nat.ofDigitChars_ten_toDigits
    rw [gatherDigits_eq, hvalue]
    rw [hvalue]
    exact Nat.le_pred_of_lt h
  have hread : readNumber ⟨false, Nat.toDigits 10 value, none, none⟩ = some (.integer value) := by
    rw [readNumber, hgather]
    rfl
  rw [Number.reread, htext, lexNumber_of_head? hminus, readUnsigned, readWhole_toDigits]
  simp [readFraction, readExponent, hread]

mutual

/-- Whether every number in the value is a count of 64 bits. -/
def isCounted : Json → Bool
  | .number (.integer (.ofNat count)) => count < twoTo 64
  | .number _ => false
  | .array items => areCounted items
  | .object fields => fieldsCounted fields
  | .null | .bool _ | .string _ => true

def areCounted : List Json → Bool
  | [] => true
  | item :: rest => isCounted item && areCounted rest

def fieldsCounted : List (String × Json) → Bool
  | [] => true
  | (_, value) :: rest => isCounted value && fieldsCounted rest

end

mutual

theorem reread_of_isCounted : ∀ {value : Json}, value.isCounted = true → value.reread = some value
  | .number (.integer (.ofNat _)), h =>
      congrArg (Option.map number) (reread_natural (of_decide_eq_true h))
  | .number (.integer (.negSucc _)), h => by cases h
  | .number (.real _), h => by cases h
  | .array items, h => by
      have hitems : areCounted items = true := h
      rw [reread, rereadItems_of_areCounted hitems]
      rfl
  | .object fields, h => by
      have hfields : fieldsCounted fields = true := h
      rw [reread, rereadFields_of_fieldsCounted hfields]
      rfl
  | .null, _ => rfl
  | .bool _, _ => rfl
  | .string _, _ => rfl

theorem rereadItems_of_areCounted : ∀ {items : List Json}, areCounted items = true →
    rereadItems items = some items
  | [], _ => rfl
  | _ :: _, h => by
      obtain ⟨hitem, hrest⟩ := Bool.and_eq_true_iff.mp h
      rw [rereadItems, reread_of_isCounted hitem, rereadItems_of_areCounted hrest]
      rfl

theorem rereadFields_of_fieldsCounted : ∀ {fields : List (String × Json)},
    fieldsCounted fields = true → rereadFields fields = some fields
  | [], _ => rfl
  | (_, _) :: _, h => by
      obtain ⟨hvalue, hrest⟩ := Bool.and_eq_true_iff.mp h
      rw [rereadFields, reread_of_isCounted hvalue, rereadFields_of_fieldsCounted hrest]
      rfl

end

/-! ## Arranged values -/

mutual

/-- The value with the fields of every object in the order of their names, and of several with one
name the last. -/
def arranged : Json → Json
  | .array items => .array (arrangedItems items)
  | .object fields => ofFields (arrangedFields fields)
  | .null => .null
  | .bool value => .bool value
  | .number value => .number value
  | .string value => .string value

def arrangedItems : List Json → List Json
  | [] => []
  | item :: rest => arranged item :: arrangedItems rest

def arrangedFields : List (String × Json) → List (String × Json)
  | [] => []
  | (name, value) :: rest => (name, arranged value) :: arrangedFields rest

end

theorem foldl_setField_of_sorted {fields done : List (String × Json)}
    (h : (done.map Prod.fst ++ fields.map Prod.fst).Pairwise (· < ·)) :
    fields.foldl (fun kept field => setField field.1 field.2 kept) done = done ++ fields := by
  induction fields generalizing done with
  | nil => simp
  | cons field fields ih =>
      rw [List.foldl_cons, setField_of_last (forall_of_sorted h), ih (by simpa using h)]
      simp

mutual

theorem arranged_of_ordered : ∀ {value : Json}, value.Ordered → value.arranged = value
  | .array _, h => congrArg array (arrangedItems_of_ordered h)
  | .object fields, h => by
      have hsorted := @foldl_setField_of_sorted fields [] h.1
      rw [arranged, arrangedFields_of_ordered h.2, ofFields, hsorted, List.nil_append]
  | .null, _ => rfl
  | .bool _, _ => rfl
  | .number _, _ => rfl
  | .string _, _ => rfl

theorem arrangedItems_of_ordered : ∀ {items : List Json}, AllOrdered items →
    arrangedItems items = items
  | [], _ => rfl
  | item :: items, h => by
      rw [arrangedItems, arranged_of_ordered h.1, arrangedItems_of_ordered h.2]

theorem arrangedFields_of_ordered : ∀ {fields : List (String × Json)}, FieldsOrdered fields →
    arrangedFields fields = fields
  | [], _ => rfl
  | (name, value) :: _, h => by
      rw [arrangedFields, arranged_of_ordered h.1, arrangedFields_of_ordered h.2]

end

/-- Of several fields with one name the last is kept. -/
theorem field?_ofFields (fields : List (String × Json)) (name : String) :
    (ofFields fields).field? name = fields.reverse.lookup name := by
  have hrows (table : Table Json) :
      (fields.foldl (fun table row => table.insert row.1 row.2) table).rows =
        fields.foldl (fun kept field => setField field.1 field.2 kept) table.rows := by
    induction fields generalizing table with
    | nil => rfl
    | cons field fields ih => exact ih (table.insert field.1 field.2)
  have hfind := Table.find?_foldl_insert_eq_lookup_reverse fields .empty name
  rw [Table.find?, hrows, Table.find?_empty, Option.or_none] at hfind
  exact hfind

theorem map_fst_arrangedFields (fields : List (String × Json)) :
    (arrangedFields fields).map Prod.fst = fields.map Prod.fst := by
  induction fields with
  | nil => rfl
  | cons field fields ih => rw [arrangedFields, List.map_cons, List.map_cons, ih]

/-! ## Laid out values -/

/-- The items of an array from a comma on. -/
def laidItems (level : Nat) (items : List Json) : List Char :=
  items.flatMap fun item => ',' :: ((newline level).toList ++ (prettyAt level item).toList)

def laidField (level : Nat) (field : String × Json) : List Char :=
  (quote field.1).toList ++ ':' :: ' ' :: (prettyAt level field.2).toList

/-- The fields of an object from a comma on. -/
def laidFields (level : Nat) (fields : List (String × Json)) : List Char :=
  fields.flatMap fun field => ',' :: ((newline level).toList ++ laidField level field)

theorem prettyItems_eq_map (level : Nat) (items : List Json) :
    prettyItems level items = items.map (prettyAt level) := by
  induction items with
  | nil => rfl
  | cons item rest ih => rw [prettyItems, ih, List.map_cons]

theorem prettyFields_eq_map (level : Nat) (fields : List (String × Json)) :
    prettyFields level fields =
      fields.map fun field => quote field.1 ++ ": " ++ prettyAt level field.2 := by
  induction fields with
  | nil => rfl
  | cons field rest ih => rw [prettyFields, ih, List.map_cons]

theorem toList_prettyAt_array (level : Nat) (item : Json) (items : List Json) :
    (prettyAt level (.array (item :: items))).toList =
      '[' :: ((newline (level + 1)).toList ++ ((prettyAt (level + 1) item).toList ++
        (laidItems (level + 1) items ++ ((newline level).toList ++ [']'])))) := by
  rw [prettyAt, prettyItems_eq_map, List.map_cons]
  simp only [String.toList_append, toList_intercalate_cons, List.flatMap_map, laidItems]
  simp

theorem toList_prettyAt_object (level : Nat) (field : String × Json)
    (fields : List (String × Json)) :
    (prettyAt level (.object (field :: fields))).toList =
      '\x7b' :: ((newline (level + 1)).toList ++ (laidField (level + 1) field ++
        (laidFields (level + 1) fields ++ ((newline level).toList ++ ['\x7d'])))) := by
  rw [prettyAt, prettyFields_eq_map, List.map_cons]
  simp only [String.toList_append, toList_intercalate_cons, List.flatMap_map, laidFields, laidField]
  simp

theorem ends_laidItems (level : Nat) (items : List Json) (inner : Nat) (rest : List Char) :
    Ends (laidItems inner items ++ ((newline level).toList ++ rest)) := by
  cases items with
  | nil => exact ends_newline level rest
  | cons item items =>
      simp [Ends, laidItems]
      decide

theorem ends_laidFields (level : Nat) (fields : List (String × Json)) (inner : Nat)
    (rest : List Char) : Ends (laidFields inner fields ++ ((newline level).toList ++ rest)) := by
  cases fields with
  | nil => exact ends_newline level rest
  | cons field fields =>
      simp [Ends, laidFields]
      decide

theorem ExpectsName.laid_iff {done : List (String × Json)} {position : Position}
    (h : ExpectsName done position) (level : Nat) (name : String) (value : Json) :
    Drives (laidField level (name, value) ++ text) ⟨open_, position⟩ final ↔
      Drives ((prettyAt level value).toList ++ text) ⟨.fields done name :: open_, .beforeValue⟩
        final := by
  have htext : laidField level (name, value) ++ text =
      (quote name).toList ++ ':' :: (' ' :: ((prettyAt level value).toList ++ text)) := by
    simp [laidField]
  rw [htext, h.name_iff, drives_space_iff (by decide)]

mutual

/-- A value that is laid out takes the reader to where the value was read. -/
theorem drives_prettyAt : ∀ (value : Json) {read : Json}, value.reread = some read →
    ∀ {level : Nat} {open_ : List Frame} {reading final : Reading} {rest : List Char},
    Expects open_ reading → Ends rest → open_.length + value.depth ≤ deepest →
    Drives rest ⟨open_, .afterValue read.arranged⟩ final →
    Drives ((prettyAt level value).toList ++ rest) reading final
  | .null, _, hread, level, _, _, _, rest, hexpects, _, _, hrest => by
      cases hread
      have htext : (prettyAt level .null).toList ++ rest =
          'n' :: 'u' :: 'l' :: 'l' :: rest := by
        rw [prettyAt]
        rfl
      rw [htext, hexpects.scalar_iff (by decide) rfl]
      exact hrest
  | .bool true, _, hread, level, _, _, _, rest, hexpects, _, _, hrest => by
      cases hread
      have htext : (prettyAt level (.bool true)).toList ++ rest =
          't' :: 'r' :: 'u' :: 'e' :: rest := by
        rw [prettyAt]
        rfl
      rw [htext, hexpects.scalar_iff (by decide) rfl]
      exact hrest
  | .bool false, _, hread, level, _, _, _, rest, hexpects, _, _, hrest => by
      cases hread
      have htext : (prettyAt level (.bool false)).toList ++ rest =
          'f' :: 'a' :: 'l' :: 's' :: 'e' :: rest := by
        rw [prettyAt]
        rfl
      rw [htext, hexpects.scalar_iff (by decide) rfl]
      exact hrest
  | .number written, _, hread, _, _, _, _, _, hexpects, hends, _, hrest => by
      obtain ⟨number, hnumber, rfl⟩ := Option.map_eq_some_iff.mp hread
      exact (hexpects.number_iff written hends).mpr ⟨number, hnumber, hrest⟩
  | .string text, _, hread, _, _, _, _, rest, hexpects, _, _, hrest => by
      cases hread
      have hquote := lexToken_quote text rest
      obtain ⟨more, hmore⟩ : ∃ more, (quote text).toList ++ rest = '"' :: more := by simp [quote]
      rw [hmore] at hquote
      rw [prettyAt, hmore, hexpects.scalar_iff (by decide) hquote]
      exact hrest
  | .array [], _, hread, level, _, _, _, rest, hexpects, _, hdepth, hrest => by
      cases hread
      have htext : (prettyAt level (.array [])).toList ++ rest = '[' :: ']' :: rest := by
        rw [prettyAt]
        rfl
      rw [htext, hexpects.descend_iff (by decide) rfl (by simp) fun _ => rfl,
        drives_step_iff (by decide) rfl rfl]
      exact ⟨hdepth, hrest⟩
  | .array (item :: items), _, hread, level, open_, _, _, rest, hexpects, _, hdepth, hrest => by
      obtain ⟨reads, hreads, rfl⟩ := Option.map_eq_some_iff.mp hread
      obtain ⟨first, hfirst, hlater⟩ := Option.bind_eq_some_iff.mp hreads
      obtain ⟨others, hothers, rfl⟩ := Option.map_eq_some_iff.mp hlater
      have htext : (prettyAt level (.array (item :: items))).toList ++ rest =
          '[' :: ((newline (level + 1)).toList ++ ((prettyAt (level + 1) item).toList ++
            (laidItems (level + 1) items ++ ((newline level).toList ++ ']' :: rest)))) := by
        simp [toList_prettyAt_array]
      have hinner : Expects (.items [] :: open_) ⟨open_, .afterOpenArray⟩ := Or.inr ⟨_, rfl, rfl⟩
      -- An item is one container further in and one level less deep, so the bound carries over.
      simp only [depth, itemsDepth] at hdepth
      rw [htext, hexpects.descend_iff (by decide) rfl (by simp) fun _ => rfl, drives_newline_iff]
      have hends := ends_laidItems level items (level + 1) (']' :: rest)
      refine ⟨by omega, drives_prettyAt item hfirst hinner hends ?_ ?_⟩
      · simp only [List.length_cons]
        omega
      · exact drives_laidItems items hothers (by omega) hrest
  | .object [], _, hread, level, _, _, _, rest, hexpects, _, hdepth, hrest => by
      cases hread
      have htext : (prettyAt level (.object [])).toList ++ rest = '\x7b' :: '\x7d' :: rest := by
        rw [prettyAt]
        rfl
      rw [htext, hexpects.descend_iff (by decide) rfl (by simp) fun _ => rfl,
        drives_step_iff (by decide) rfl rfl]
      exact ⟨hdepth, hrest⟩
  | .object ((name, value) :: fields), _, hread, level, open_, _, _, rest, hexpects, _, hdepth,
      hrest => by
      obtain ⟨reads, hreads, rfl⟩ := Option.map_eq_some_iff.mp hread
      obtain ⟨first, hfirst, hlater⟩ := Option.bind_eq_some_iff.mp hreads
      obtain ⟨others, hothers, rfl⟩ := Option.map_eq_some_iff.mp hlater
      have htext : (prettyAt level (.object ((name, value) :: fields))).toList ++ rest =
          '\x7b' :: ((newline (level + 1)).toList ++ (laidField (level + 1) (name, value) ++
            (laidFields (level + 1) fields ++ ((newline level).toList ++ '\x7d' :: rest)))) := by
        simp [toList_prettyAt_object]
      have hinner : Expects (.fields [] name :: open_) ⟨.fields [] name :: open_, .beforeValue⟩ :=
        Or.inl rfl
      simp only [depth, fieldsDepth] at hdepth
      rw [htext, hexpects.descend_iff (by decide) rfl (by simp) fun _ => rfl, drives_newline_iff,
        ExpectsName.laid_iff (Or.inr ⟨rfl, rfl⟩)]
      have hends := ends_laidFields level fields (level + 1) ('\x7d' :: rest)
      refine ⟨by omega, drives_prettyAt value hfirst hinner hends ?_ ?_⟩
      · simp only [List.length_cons]
        omega
      · exact drives_laidFields fields hothers (by omega) hrest

theorem drives_laidItems : ∀ (items : List Json) {reads : List Json},
    rereadItems items = some reads → ∀ {level : Nat} {done : List Json} {open_ : List Frame}
    {value : Json} {final : Reading} {rest : List Char},
    open_.length + 1 + itemsDepth items ≤ deepest →
    Drives rest ⟨open_, .afterValue (.array ((value :: done).reverse ++ arrangedItems reads))⟩
      final →
    Drives (laidItems (level + 1) items ++ ((newline level).toList ++ ']' :: rest))
      ⟨.items done :: open_, .afterValue value⟩ final
  | [], _, hreads, level, _, _, _, _, _, _, hrest => by
      cases hreads
      rw [laidItems, List.flatMap_nil, List.nil_append, drives_newline_iff,
        drives_step_iff (by decide) rfl rfl]
      simpa [arrangedItems] using hrest
  | item :: items, _, hreads, level, done, open_, value, _, rest, hdepth, hrest => by
      obtain ⟨first, hfirst, hlater⟩ := Option.bind_eq_some_iff.mp hreads
      obtain ⟨others, hothers, rfl⟩ := Option.map_eq_some_iff.mp hlater
      have htext : laidItems (level + 1) (item :: items) ++
            ((newline level).toList ++ ']' :: rest) =
          ',' :: ((newline (level + 1)).toList ++ ((prettyAt (level + 1) item).toList ++
            (laidItems (level + 1) items ++ ((newline level).toList ++ ']' :: rest)))) := by
        simp [laidItems]
      have hinner : Expects (.items (value :: done) :: open_)
        ⟨.items (value :: done) :: open_, .beforeValue⟩ := Or.inl rfl
      simp only [itemsDepth] at hdepth
      rw [htext, drives_step_iff (by decide) rfl rfl, drives_newline_iff]
      have hends := ends_laidItems level items (level + 1) (']' :: rest)
      refine drives_prettyAt item hfirst hinner hends ?_ ?_
      · simp only [List.length_cons]
        omega
      · refine drives_laidItems items hothers (by omega) ?_
        simpa [arrangedItems] using hrest

/-- The fields that are done take in one field after the other, also one whose name comes late or
again. -/
theorem drives_laidFields : ∀ (fields : List (String × Json)) {reads : List (String × Json)},
    rereadFields fields = some reads → ∀ {level : Nat} {done : List (String × Json)}
    {open_ : List Frame} {name : String} {value : Json} {final : Reading} {rest : List Char},
    open_.length + 1 + fieldsDepth fields ≤ deepest →
    Drives rest ⟨open_, .afterValue (.object ((arrangedFields reads).foldl
      (fun kept field => setField field.1 field.2 kept) (setField name value done)))⟩ final →
    Drives (laidFields (level + 1) fields ++ ((newline level).toList ++ '\x7d' :: rest))
      ⟨.fields done name :: open_, .afterValue value⟩ final
  | [], _, hreads, level, _, _, _, _, _, _, _, hrest => by
      cases hreads
      rw [laidFields, List.flatMap_nil, List.nil_append, drives_newline_iff,
        drives_step_iff (by decide) rfl rfl]
      exact hrest
  | (next, item) :: fields, _, hreads, level, done, open_, name, value, _, rest, hdepth,
      hrest => by
      obtain ⟨first, hfirst, hlater⟩ := Option.bind_eq_some_iff.mp hreads
      obtain ⟨others, hothers, rfl⟩ := Option.map_eq_some_iff.mp hlater
      have htext : laidFields (level + 1) ((next, item) :: fields) ++
            ((newline level).toList ++ '\x7d' :: rest) =
          ',' :: ((newline (level + 1)).toList ++ (laidField (level + 1) (next, item) ++
            (laidFields (level + 1) fields ++ ((newline level).toList ++ '\x7d' :: rest)))) := by
        simp [laidFields]
      have hinner : Expects (.fields (setField name value done) next :: open_)
        ⟨.fields (setField name value done) next :: open_, .beforeValue⟩ := Or.inl rfl
      simp only [fieldsDepth] at hdepth
      rw [htext, drives_step_iff (by decide) rfl rfl, drives_newline_iff,
        ExpectsName.laid_iff (Or.inl rfl)]
      have hends := ends_laidFields level fields (level + 1) ('\x7d' :: rest)
      refine drives_prettyAt item hfirst hinner hends ?_ ?_
      · simp only [List.length_cons]
        omega
      · exact drives_laidFields fields hothers (by omega) hrest

end

/-- A value that is not too deep is read from the lines that it is laid out on, if its numbers are
read from their texts. -/
theorem read_pretty {value read : Json} (hread : value.reread = some read)
    (hdepth : value.depth ≤ deepest) : Json.read (value.pretty ++ "\n") = some read.arranged := by
  have hend : Drives ['\n'] ⟨[], .afterValue read.arranged⟩ ⟨[], .afterValue read.arranged⟩ :=
    (drives_space_iff (by decide)).mpr (drives_nil_iff.mpr rfl)
  refine read_eq_some_iff.mpr ⟨⟨[], .afterValue read.arranged⟩, ?_, rfl⟩
  rw [String.toList_append]
  exact drives_prettyAt value hread (Or.inl rfl) (ends_newline 0 []) (by simpa using hdepth) hend

end TagLedger.Json
