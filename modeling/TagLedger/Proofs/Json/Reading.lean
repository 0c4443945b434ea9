import TagLedger.Proofs.Json.Lexing

/-!
# Reading what was written

A value whose objects have their fields in order is written in a text that is read again exactly if
the value is not too deep and each of its numbers is read from its own text.  What is read is then
the same value with these numbers.

The text drives the reader: each written value takes it from where a value is expected to where that
value was read, and leaves the rest of the text.
-/

namespace TagLedger.Json

/-! ## Values -/

mutual

/-- Every object holds one field per name, in the order of the names. -/
def Ordered : Json → Prop
  | .array items => AllOrdered items
  | .object fields => (fields.map Prod.fst).Pairwise (· < ·) ∧ FieldsOrdered fields
  | _ => True

def AllOrdered : List Json → Prop
  | [] => True
  | item :: rest => Ordered item ∧ AllOrdered rest

def FieldsOrdered : List (String × Json) → Prop
  | [] => True
  | (_, value) :: rest => Ordered value ∧ FieldsOrdered rest

end

mutual

/-- The number of arrays and objects around the innermost value, and itself. -/
def depth : Json → Nat
  | .array items => itemsDepth items + 1
  | .object fields => fieldsDepth fields + 1
  | _ => 0

def itemsDepth : List Json → Nat
  | [] => 0
  | item :: rest => max (depth item) (itemsDepth rest)

def fieldsDepth : List (String × Json) → Nat
  | [] => 0
  | (_, value) :: rest => max (depth value) (fieldsDepth rest)

end

/-- The number that is read from the text of a number, unless that is too great. -/
def Number.reread (written : Number) : Option Number :=
  match lexNumber written.toText.toList with
  | some (read, []) => some read
  | _ => none

mutual

/-- The value with each of its numbers read from its text. -/
def reread : Json → Option Json
  | .number written => written.reread.map .number
  | .array items => (rereadItems items).map .array
  | .object fields => (rereadFields fields).map .object
  | .null => some .null
  | .bool value => some (.bool value)
  | .string value => some (.string value)

def rereadItems : List Json → Option (List Json)
  | [] => some []
  | item :: rest => (reread item).bind fun item => (rereadItems rest).map (item :: ·)

def rereadFields : List (String × Json) → Option (List (String × Json))
  | [] => some []
  | (name, value) :: rest =>
      (reread value).bind fun value => (rereadFields rest).map ((name, value) :: ·)

end

/-! ## Driving the reader -/

/-- The tokens of the text take the reader from one state to the other. -/
def Drives (text : List Char) (reading final : Reading) : Prop :=
  ∃ limit tokens, lexWithin limit text = some tokens ∧
    tokens.foldlM Reading.step reading = some final

variable {reading final : Reading} {open_ : List Frame} {text rest : List Char}

theorem drives_nil_iff : Drives [] reading final ↔ final = reading := by
  constructor
  · rintro ⟨limit, tokens, hlex, hsteps⟩
    have htokens : tokens = [] := by
      cases limit <;> simpa [lexWithin] using hlex.symm
    rw [htokens] at hsteps
    exact (Option.some.inj hsteps).symm
  · rintro rfl
    exact ⟨0, [], rfl, rfl⟩

theorem drives_cons_iff {character : Char} (hspace : isSpace character = false) :
    Drives (character :: text) reading final ↔ ∃ token rest after,
      lexToken (character :: text) = some (token, rest) ∧ reading.step token = some after ∧
      Drives rest after final := by
  have hdrop : (character :: text).dropWhile isSpace = character :: text :=
    List.dropWhile_cons_of_neg (by simp [hspace])
  constructor
  · rintro ⟨limit, tokens, hlex, hsteps⟩
    cases limit with
    | zero => simp [lexWithin, hdrop] at hlex
    | succ limit =>
        simp only [lexWithin, hdrop, Option.bind_eq_bind, Option.bind_eq_some_iff,
          Prod.exists] at hlex
        obtain ⟨token, rest, htoken, others, hothers, htokens⟩ := hlex
        cases htokens
        rw [List.foldlM_cons] at hsteps
        obtain ⟨after, hafter, hsteps⟩ := Option.bind_eq_some_iff.mp hsteps
        exact ⟨token, rest, after, htoken, hafter, limit, others, hothers, hsteps⟩
  · rintro ⟨token, rest, after, htoken, hafter, limit, others, hothers, hsteps⟩
    refine ⟨limit + 1, token :: others, ?_, ?_⟩
    · simp [lexWithin, hdrop, htoken, hothers]
    · rw [List.foldlM_cons, hafter]
      exact hsteps

/-- A token that is known to come first is one step. -/
theorem drives_token_iff {character : Char} {token : Token} (hspace : isSpace character = false)
    (htoken : lexToken (character :: text) = some (token, rest)) :
    Drives (character :: text) reading final ↔
      ∃ after, reading.step token = some after ∧ Drives rest after final := by
  rw [drives_cons_iff hspace, htoken]
  constructor
  · rintro ⟨_, _, after, hfirst, hafter, hrest⟩
    cases hfirst
    exact ⟨after, hafter, hrest⟩
  · rintro ⟨after, hafter, hrest⟩
    exact ⟨token, rest, after, rfl, hafter, hrest⟩

theorem drives_step_iff {character : Char} {token : Token} {after : Reading}
    (hspace : isSpace character = false)
    (htoken : lexToken (character :: text) = some (token, rest))
    (hstep : reading.step token = some after) :
    Drives (character :: text) reading final ↔ Drives rest after final := by
  rw [drives_token_iff hspace htoken, hstep]
  simp

/-- The reader is where a value is expected, in the containers that are open. -/
def Expects (open_ : List Frame) (reading : Reading) : Prop :=
  reading = ⟨open_, .beforeValue⟩ ∨
    ∃ outer, open_ = .items [] :: outer ∧ reading = ⟨outer, .afterOpenArray⟩

theorem Expects.step (h : Expects open_ reading) {token : Token} (hclose : token ≠ .closeArray) :
    reading.step token = Reading.begin ⟨open_, .beforeValue⟩ token := by
  rcases h with rfl | ⟨outer, rfl, rfl⟩
  · cases token <;> rfl
  · cases token with
    | closeArray => exact absurd rfl hclose
    | _ => rfl

theorem Expects.scalar_iff (h : Expects open_ reading) {character : Char} {value : Json}
    (hspace : isSpace character = false)
    (htoken : lexToken (character :: text) = some (.scalar value, rest)) :
    Drives (character :: text) reading final ↔ Drives rest ⟨open_, .afterValue value⟩ final :=
  drives_step_iff hspace htoken (h.step (by simp))

/-- A container is opened if there are not too many around it. -/
theorem Expects.descend_iff (h : Expects open_ reading) {character : Char} {token : Token}
    {position : Position} (hspace : isSpace character = false)
    (htoken : lexToken (character :: text) = some (token, rest)) (hclose : token ≠ .closeArray)
    (hbegin : ∀ reading : Reading, reading.begin token = reading.descend position) :
    Drives (character :: text) reading final ↔
      open_.length < deepest ∧ Drives rest ⟨open_, position⟩ final := by
  rw [drives_token_iff hspace htoken, h.step hclose, hbegin, Reading.descend]
  by_cases hdeep : open_.length < deepest <;> simp [hdeep]

theorem isSpace_of_isNumeral {character : Char} (h : isNumeral character = true) :
    isSpace character = false := by
  rw [Bool.eq_false_iff]
  intro hspace
  simp only [isSpace, Bool.or_eq_true, beq_iff_eq] at hspace
  rcases hspace with ((rfl | rfl) | rfl) | rfl <;> exact absurd h (by decide)

theorem lexToken_of_isNumeral {character : Char} (h : isNumeral character = true)
    (text : List Char) : lexToken (character :: text) =
      (lexNumber (character :: text)).map fun read => (.scalar (.number read.1), read.2) := by
  rw [lexToken]
  all_goals
    intro rest htext
    cases htext
    exact absurd h (by decide)

theorem continue_scalar (value other : Json) (open_ : List Frame) :
    Reading.continue value open_ (.scalar other) = none := by
  unfold Reading.continue
  split
  all_goals first | rfl | contradiction

/-- A number does not follow a value. -/
theorem not_drives_afterValue {character : Char} (h : isNumeral character = true) {value : Json} :
    ¬ Drives (character :: text) ⟨open_, .afterValue value⟩ final := by
  rw [drives_cons_iff (isSpace_of_isNumeral h), lexToken_of_isNumeral h]
  rintro ⟨token, rest, after, htoken, hafter, -⟩
  obtain ⟨number, -, hnumber⟩ := Option.map_eq_some_iff.mp htoken
  cases hnumber
  cases (continue_scalar _ _ _).symm.trans hafter

theorem Expects.number_iff (h : Expects open_ reading) (written : Number) (hends : Ends rest) :
    Drives (written.toText.toList ++ rest) reading final ↔ ∃ number,
      written.reread = some number ∧ Drives rest ⟨open_, .afterValue (.number number)⟩ final := by
  have hnumeral := numeral_toText written
  have hlocal := local_lexNumber written.toText.toList rest hends
  unfold Number.reread
  obtain ⟨character, others, htext⟩ := List.exists_cons_of_ne_nil hnumeral.nonempty
  have hcharacter : isNumeral character = true := hnumeral.numerals character (by simp [htext])
  rw [htext, List.cons_append] at hlocal ⊢
  rw [drives_cons_iff (isSpace_of_isNumeral hcharacter), lexToken_of_isNumeral hcharacter, hlocal]
  cases hread : lexNumber (character :: others) with
  | none => simp
  | some read =>
      obtain ⟨number, left⟩ := read
      have hstep : reading.step (.scalar (.number number)) =
          some ⟨open_, .afterValue (.number number)⟩ := h.step (by simp)
      cases left with
      | nil => simp [hstep]
      | cons next left =>
          have hnext : isNumeral next = true :=
            hnumeral.numerals next (htext ▸ (suffix_of_lexNumber hread).1.subset List.mem_cons_self)
          simp [hstep, not_drives_afterValue hnext]

/-! ## Arrays and objects -/

/-- The items of an array from a comma on. -/
def itemsText (items : List Json) : List Char :=
  items.flatMap fun item => ',' :: item.compact.toList

/-- A field as it is written. -/
def fieldText (field : String × Json) : List Char :=
  (quote field.1).toList ++ ':' :: field.2.compact.toList

/-- The fields of an object from a comma on. -/
def fieldsText (fields : List (String × Json)) : List Char :=
  fields.flatMap fun field => ',' :: fieldText field

theorem toList_intercalate_cons (separator first : String) (others : List String) :
    (separator.intercalate (first :: others)).toList =
      first.toList ++ others.flatMap fun text => separator.toList ++ text.toList := by
  have hlists (separator first : List Char) (others : List (List Char)) :
      separator.intercalate (first :: others) = first ++ others.flatMap (separator ++ ·) := by
    induction others generalizing first with
    | nil => simp [List.intercalate]
    | cons second others ih =>
        have hsecond := ih second
        simp only [List.intercalate, List.intersperse_cons_cons, List.flatten_cons,
          List.flatMap_cons] at hsecond ⊢
        rw [hsecond, List.append_assoc]
  rw [String.toList_intercalate, List.map_cons, hlists, List.flatMap_map]

private theorem toList_intercalate_comma (first : String) (others : List String) :
    (",".intercalate (first :: others)).toList =
      first.toList ++ others.flatMap fun text => ',' :: text.toList :=
  toList_intercalate_cons "," first others

theorem compactItems_eq_map (items : List Json) : compactItems items = items.map compact := by
  induction items with
  | nil => rfl
  | cons item rest ih => rw [compactItems, ih, List.map_cons]

theorem compactFields_eq_map (fields : List (String × Json)) :
    compactFields fields = fields.map fun field => quote field.1 ++ ":" ++ field.2.compact := by
  induction fields with
  | nil => rfl
  | cons field rest ih => rw [compactFields, ih, List.map_cons]

theorem toList_compact_array (item : Json) (items : List Json) :
    (compact (.array (item :: items))).toList =
      '[' :: (item.compact.toList ++ (itemsText items ++ [']'])) := by
  rw [compact, compactItems_eq_map, List.map_cons, String.toList_append, String.toList_append,
    toList_intercalate_comma, List.flatMap_map, itemsText]
  simp

theorem toList_compact_object (field : String × Json) (fields : List (String × Json)) :
    (compact (.object (field :: fields))).toList =
      '\x7b' :: (fieldText field ++ (fieldsText fields ++ ['\x7d'])) := by
  have hfield (field : String × Json) :
      (quote field.1 ++ ":" ++ field.2.compact).toList = fieldText field := by
    simp [fieldText]
  rw [compact, compactFields_eq_map, List.map_cons, String.toList_append, String.toList_append,
    toList_intercalate_comma, List.flatMap_map, hfield, fieldsText]
  simp [hfield]

theorem ends_itemsText (items : List Json) (rest : List Char) :
    Ends (itemsText items ++ ']' :: rest) := by
  cases items <;> simp [Ends, itemsText] <;> decide

theorem ends_fieldsText (fields : List (String × Json)) (rest : List Char) :
    Ends (fieldsText fields ++ '\x7d' :: rest) := by
  cases fields <;> simp [Ends, fieldsText] <;> decide

/-- A field that comes after all others is added at the end. -/
theorem setField_of_last {name : String} {done : List (String × Json)}
    (h : ∀ field ∈ done, field.1 < name) (value : Json) :
    setField name value done = done ++ [(name, value)] := by
  induction done with
  | nil => rfl
  | cons first done ih =>
      obtain ⟨hfirst, hdone⟩ := List.forall_mem_cons.mp h
      have hne : name ≠ first.1 := fun heq => String.lt_irrefl name (heq ▸ hfirst)
      rw [setField, Table.insertRow, if_neg (String.lt_asymm hfirst), if_neg hne]
      exact congrArg (first :: ·) (ih hdone)

theorem forall_of_sorted {name : String} {done : List (String × Json)} {names : List String}
    (h : (done.map Prod.fst ++ name :: names).Pairwise (· < ·)) : ∀ field ∈ done, field.1 < name :=
  fun _ hmem => (List.pairwise_append.mp h).2.2 _ (List.mem_map_of_mem hmem) _ List.mem_cons_self

/-- The reader is where the name of a field may come, after the fields that are done. -/
def ExpectsName (done : List (String × Json)) (position : Position) : Prop :=
  position = .beforeName done ∨ done = [] ∧ position = .afterOpenObject

theorem ExpectsName.name_iff {done : List (String × Json)} {position : Position} {name : String}
    (h : ExpectsName done position) :
    Drives ((quote name).toList ++ ':' :: text) ⟨open_, position⟩ final ↔
      Drives text ⟨.fields done name :: open_, .beforeValue⟩ final := by
  have hquote := lexToken_quote name (':' :: text)
  obtain ⟨more, hmore⟩ : ∃ more, (quote name).toList ++ ':' :: text = '"' :: more := by
    simp [quote]
  have hstep : Reading.step ⟨open_, position⟩ (.scalar (.string name)) =
      some ⟨open_, .afterName done name⟩ := by
    rcases h with rfl | ⟨rfl, rfl⟩ <;> rfl
  rw [hmore] at hquote ⊢
  rw [drives_step_iff (by decide) hquote hstep, drives_step_iff (by decide) rfl rfl]

/-! ## Written values -/

/-- A first value and the ones behind it are read if both are, and are as deep as the deeper one. -/
theorem first_and_rest_iff {α β γ : Type} {drives : Prop} {middle : α → Prop} {after : γ → Prop}
    {first : Option α} {others : Option β} {join : α → β → γ} {around firstDepth othersDepth : Nat}
    (hfirst : drives ↔ around + firstDepth ≤ deepest ∧ ∃ read, first = some read ∧ middle read)
    (hothers : ∀ read, middle read ↔
      around + othersDepth ≤ deepest ∧ ∃ reads, others = some reads ∧ after (join read reads)) :
    drives ↔ around + max firstDepth othersDepth ≤ deepest ∧
      ∃ reads, (first.bind fun read => others.map (join read)) = some reads ∧ after reads := by
  rw [hfirst]
  constructor
  · rintro ⟨hdepth, read, rfl, hmiddle⟩
    obtain ⟨hlater, reads, rfl, hafter⟩ := (hothers read).mp hmiddle
    exact ⟨by omega, _, rfl, hafter⟩
  · rintro ⟨hdepth, reads, hreads, hafter⟩
    obtain ⟨read, rfl, hrest⟩ := Option.bind_eq_some_iff.mp hreads
    obtain ⟨later, rfl, rfl⟩ := Option.map_eq_some_iff.mp hrest
    exact ⟨by omega, read, rfl, (hothers read).mpr ⟨by omega, later, rfl, hafter⟩⟩

/-- A container is read if what is in it is, and is one deeper. -/
theorem container_iff {α : Type} {drives : Prop} {after : Json → Prop} {inner : Option α}
    {close : α → Json} {around innerDepth : Nat}
    (h : around < deepest → (drives ↔
      around + 1 + innerDepth ≤ deepest ∧ ∃ read, inner = some read ∧ after (close read))) :
    around < deepest ∧ drives ↔ around + (innerDepth + 1) ≤ deepest ∧
      ∃ read, inner.map close = some read ∧ after read := by
  constructor
  · rintro ⟨hopen, hdrives⟩
    obtain ⟨hdepth, read, rfl, hafter⟩ := (h hopen).mp hdrives
    exact ⟨by omega, _, rfl, hafter⟩
  · rintro ⟨hdepth, read, hread, hafter⟩
    obtain ⟨held, rfl, rfl⟩ := Option.map_eq_some_iff.mp hread
    have hopen : around < deepest := by omega
    exact ⟨hopen, (h hopen).mpr ⟨by omega, held, rfl, hafter⟩⟩

mutual

/-- A written value takes the reader to where the value was read, if it is not too deep. -/
theorem drives_compact_iff : ∀ (value : Json), value.Ordered → ∀ {open_ : List Frame}
    {reading final : Reading} {rest : List Char}, Expects open_ reading → Ends rest →
    open_.length ≤ deepest →
    (Drives (value.compact.toList ++ rest) reading final ↔
      open_.length + value.depth ≤ deepest ∧ ∃ read, value.reread = some read ∧
        Drives rest ⟨open_, .afterValue read⟩ final)
  | .null, _, _, _, _, _, hexpects, _, hopen => by
      refine (hexpects.scalar_iff (by decide) rfl).trans ?_
      simp [depth, reread, hopen]
  | .bool true, _, _, _, _, _, hexpects, _, hopen => by
      refine (hexpects.scalar_iff (by decide) rfl).trans ?_
      simp [depth, reread, hopen]
  | .bool false, _, _, _, _, _, hexpects, _, hopen => by
      refine (hexpects.scalar_iff (by decide) rfl).trans ?_
      simp [depth, reread, hopen]
  | .number written, _, _, _, _, _, hexpects, hends, hopen => by
      refine (hexpects.number_iff written hends).trans ?_
      simp [depth, reread, hopen]
  | .string text, _, _, _, _, rest, hexpects, _, hopen => by
      have hquote := lexToken_quote text rest
      obtain ⟨more, hmore⟩ : ∃ more, (quote text).toList ++ rest = '"' :: more := by simp [quote]
      rw [hmore] at hquote
      rw [compact, hmore, hexpects.scalar_iff (by decide) hquote]
      simp [depth, reread, hopen]
  | .array [], _, _, _, _, rest, hexpects, _, _ => by
      have htext : (compact (.array [])).toList ++ rest = '[' :: ']' :: rest := rfl
      rw [htext, hexpects.descend_iff (by decide) rfl (by simp) fun _ => rfl,
        drives_step_iff (by decide) rfl rfl]
      exact and_congr Nat.succ_le_iff.symm (by simp [reread, rereadItems])
  | .array (item :: items), hordered, open_, _, final, rest, hexpects, _, _ => by
      have htext : (compact (.array (item :: items))).toList ++ rest =
          '[' :: (item.compact.toList ++ (itemsText items ++ ']' :: rest)) := by
        simp [toList_compact_array]
      have hfirst : Expects (.items [] :: open_) ⟨open_, .afterOpenArray⟩ := Or.inr ⟨_, rfl, rfl⟩
      rw [htext, hexpects.descend_iff (by decide) rfl (by simp) fun _ => rfl]
      exact container_iff fun hopen => first_and_rest_iff
        (drives_compact_iff item hordered.1 hfirst (ends_itemsText items rest) hopen)
        fun read => drives_itemsText_iff items hordered.2 hopen
  | .object [], _, _, _, _, rest, hexpects, _, _ => by
      have htext : (compact (.object [])).toList ++ rest = '\x7b' :: '\x7d' :: rest := rfl
      rw [htext, hexpects.descend_iff (by decide) rfl (by simp) fun _ => rfl,
        drives_step_iff (by decide) rfl rfl]
      exact and_congr Nat.succ_le_iff.symm (by simp [reread, rereadFields])
  | .object ((name, value) :: fields), hordered, open_, _, final, rest, hexpects, _, _ => by
      have htext : (compact (.object ((name, value) :: fields))).toList ++ rest =
          '\x7b' :: ((quote name).toList ++
            ':' :: (value.compact.toList ++ (fieldsText fields ++ '\x7d' :: rest))) := by
        simp [toList_compact_object, fieldText]
      have hsorted : (([] : List (String × Json)).map Prod.fst ++
          name :: fields.map Prod.fst).Pairwise (· < ·) := hordered.1
      have hfirst : Expects (.fields [] name :: open_) ⟨.fields [] name :: open_, .beforeValue⟩ :=
        Or.inl rfl
      rw [htext, hexpects.descend_iff (by decide) rfl (by simp) fun _ => rfl,
        ExpectsName.name_iff (Or.inr ⟨rfl, rfl⟩)]
      exact container_iff fun hopen => first_and_rest_iff
        (drives_compact_iff value hordered.2.1 hfirst (ends_fieldsText fields rest) hopen)
        fun read => drives_fieldsText_iff fields hordered.2.2 hsorted hopen

theorem drives_itemsText_iff : ∀ (items : List Json), AllOrdered items → ∀ {done : List Json}
    {open_ : List Frame} {value : Json} {final : Reading} {rest : List Char},
    open_.length < deepest →
    (Drives (itemsText items ++ ']' :: rest) ⟨.items done :: open_, .afterValue value⟩ final ↔
      open_.length + 1 + itemsDepth items ≤ deepest ∧ ∃ reads, rereadItems items = some reads ∧
        Drives rest ⟨open_, .afterValue (.array ((value :: done).reverse ++ reads))⟩ final)
  | [], _, _, _, _, _, _, hopen => by
      refine (drives_step_iff (by decide) rfl rfl).trans ?_
      simp [itemsDepth, rereadItems, Nat.succ_le_iff.mpr hopen]
  | item :: items, hordered, done, open_, value, final, rest, hopen => by
      have htext : itemsText (item :: items) ++ ']' :: rest =
          ',' :: (item.compact.toList ++ (itemsText items ++ ']' :: rest)) := by
        simp [itemsText]
      have hfirst : Expects (.items (value :: done) :: open_)
        ⟨.items (value :: done) :: open_, .beforeValue⟩ := Or.inl rfl
      rw [htext, drives_step_iff (by decide) rfl rfl]
      refine first_and_rest_iff
        (drives_compact_iff item hordered.1 hfirst (ends_itemsText items rest) hopen)
        fun read => (drives_itemsText_iff items hordered.2 hopen).trans ?_
      simp

theorem drives_fieldsText_iff : ∀ (fields : List (String × Json)), FieldsOrdered fields →
    ∀ {done : List (String × Json)} {open_ : List Frame} {name : String} {value : Json}
    {final : Reading} {rest : List Char},
    (done.map Prod.fst ++ name :: fields.map Prod.fst).Pairwise (· < ·) → open_.length < deepest →
    (Drives (fieldsText fields ++ '\x7d' :: rest)
        ⟨.fields done name :: open_, .afterValue value⟩ final ↔
      open_.length + 1 + fieldsDepth fields ≤ deepest ∧ ∃ reads, rereadFields fields = some reads ∧
        Drives rest ⟨open_, .afterValue (.object (done ++ (name, value) :: reads))⟩ final)
  | [], _, _, _, _, value, _, _, hsorted, hopen => by
      refine (drives_step_iff (by decide) rfl rfl).trans ?_
      simp [fieldsDepth, rereadFields, Nat.succ_le_iff.mpr hopen,
        setField_of_last (forall_of_sorted hsorted)]
  | (next, item) :: fields, hordered, done, open_, name, value, _, rest, hsorted, hopen => by
      have htext : fieldsText ((next, item) :: fields) ++ '\x7d' :: rest =
          ',' :: ((quote next).toList ++
            ':' :: (item.compact.toList ++ (fieldsText fields ++ '\x7d' :: rest))) := by
        simp [fieldsText, fieldText]
      have hlater : ((done ++ [(name, value)]).map Prod.fst ++
          next :: fields.map Prod.fst).Pairwise (· < ·) := by
        simpa using hsorted
      have hfirst : Expects (.fields (done ++ [(name, value)]) next :: open_)
        ⟨.fields (done ++ [(name, value)]) next :: open_, .beforeValue⟩ := Or.inl rfl
      rw [htext, drives_step_iff (by decide) rfl rfl,
        setField_of_last (forall_of_sorted hsorted) value, ExpectsName.name_iff (Or.inl rfl)]
      refine first_and_rest_iff
        (drives_compact_iff item hordered.1 hfirst (ends_fieldsText fields rest) hopen)
        fun read => (drives_fieldsText_iff fields hordered.2 hlater hopen).trans ?_
      simp

end

/-! ## Reading -/

theorem read_eq_some_iff {text : String} {value : Json} : Json.read text = some value ↔
    ∃ final, Drives text.toList ⟨[], .beforeValue⟩ final ∧ final.result? = some value := by
  rw [Json.read, Option.bind_eq_some_iff]
  constructor
  · rintro ⟨tokens, hlex, htokens⟩
    obtain ⟨final, hsteps, hresult⟩ := Option.bind_eq_some_iff.mp htokens
    exact ⟨final, ⟨_, tokens, hlex, hsteps⟩, hresult⟩
  · rintro ⟨final, ⟨limit, tokens, hlex, hsteps⟩, hresult⟩
    exact ⟨tokens, lexWithin_of_length_le hlex (Nat.le_refl _),
      Option.bind_eq_some_iff.mpr ⟨final, hsteps, hresult⟩⟩

/-- What is read from the text of a value: nothing if the value is too deep, and else the value with
each of its numbers read from its text. -/
theorem read_compact {value : Json} (h : value.Ordered) :
    Json.read value.compact = if value.depth ≤ deepest then value.reread else none := by
  have hdrives (final : Reading) : Drives value.compact.toList ⟨[], .beforeValue⟩ final ↔
      value.depth ≤ deepest ∧ ∃ read, value.reread = some read ∧ final = ⟨[], .afterValue read⟩ := by
    have hends : Ends [] := fun _ hcharacter => by cases hcharacter
    have hexpects : Expects [] ⟨[], .beforeValue⟩ := Or.inl rfl
    rw [← List.append_nil value.compact.toList,
      drives_compact_iff value h hexpects hends (Nat.zero_le _)]
    simp [drives_nil_iff]
  ext read
  rw [read_eq_some_iff]
  simp only [hdrives]
  constructor
  · rintro ⟨final, ⟨hdepth, other, hother, rfl⟩, hresult⟩
    cases hresult
    rw [if_pos hdepth, hother]
  · intro hread
    split at hread
    · next hdepth => exact ⟨_, ⟨hdepth, read, hread, rfl⟩, rfl⟩
    · cases hread

/-- The text of a value is read again: the value is not too deep, and none of its numbers is too
great for the reader. -/
def Legible (value : Json) : Prop :=
  value.depth ≤ deepest ∧ value.reread.isSome = true

instance (value : Json) : Decidable value.Legible :=
  inferInstanceAs (Decidable (_ ∧ _))

/-! ## Values up to their numbers -/

mutual

/-- The value with the same number in the place of every number. -/
def shape : Json → Json
  | .number _ => .number (.integer 0)
  | .array items => .array (shapes items)
  | .object fields => .object (fieldShapes fields)
  | .null => .null
  | .bool value => .bool value
  | .string value => .string value

def shapes : List Json → List Json
  | [] => []
  | item :: rest => shape item :: shapes rest

def fieldShapes : List (String × Json) → List (String × Json)
  | [] => []
  | (name, value) :: rest => (name, shape value) :: fieldShapes rest

end

mutual

theorem shape_of_reread : ∀ {value read : Json}, value.reread = some read →
    read.shape = value.shape
  | .null, _, h => by cases h; rfl
  | .bool _, _, h => by cases h; rfl
  | .string _, _, h => by cases h; rfl
  | .number _, _, h => by
      obtain ⟨read, -, rfl⟩ := Option.map_eq_some_iff.mp h
      rfl
  | .array _, _, h => by
      obtain ⟨reads, hreads, rfl⟩ := Option.map_eq_some_iff.mp h
      rw [shape, shape, shapes_of_rereadItems hreads]
  | .object _, _, h => by
      obtain ⟨reads, hreads, rfl⟩ := Option.map_eq_some_iff.mp h
      rw [shape, shape, fieldShapes_of_rereadFields hreads]

theorem shapes_of_rereadItems : ∀ {items reads : List Json}, rereadItems items = some reads →
    shapes reads = shapes items
  | [], _, h => by cases h; rfl
  | _ :: _, _, h => by
      obtain ⟨read, hread, hrest⟩ := Option.bind_eq_some_iff.mp h
      obtain ⟨reads, hreads, rfl⟩ := Option.map_eq_some_iff.mp hrest
      rw [shapes, shapes, shape_of_reread hread, shapes_of_rereadItems hreads]

theorem fieldShapes_of_rereadFields : ∀ {fields reads : List (String × Json)},
    rereadFields fields = some reads → fieldShapes reads = fieldShapes fields
  | [], _, h => by cases h; rfl
  | _ :: _, _, h => by
      obtain ⟨read, hread, hrest⟩ := Option.bind_eq_some_iff.mp h
      obtain ⟨reads, hreads, rfl⟩ := Option.map_eq_some_iff.mp hrest
      rw [fieldShapes, fieldShapes, shape_of_reread hread, fieldShapes_of_rereadFields hreads]

end

theorem field?_shape (name : String) (value : Json) :
    value.shape.field? name = (value.field? name).map shape := by
  cases value with
  | object fields =>
      rw [shape, field?, field?]
      induction fields with
      | nil => rfl
      | cons field fields ih =>
          rw [fieldShapes, List.lookup_cons, List.lookup_cons, ih]
          cases name == field.1 <;> rfl
  | _ => rfl

theorem stringField?_shape (name : String) (value : Json) :
    value.shape.stringField? name = value.stringField? name := by
  rw [stringField?, stringField?, field?_shape]
  cases value.field? name with
  | none => rfl
  | some field => cases field <;> rfl

theorem shapes_eq_map (items : List Json) : shapes items = items.map shape := by
  induction items with
  | nil => rfl
  | cons item items ih => rw [shapes, ih, List.map_cons]

end TagLedger.Json
