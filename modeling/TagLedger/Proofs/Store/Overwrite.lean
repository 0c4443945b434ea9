import TagLedger.Proofs.Store.Contents
import TagLedger.Proofs.Text.Utf8

/-!
# A batch as an ordered overwrite

A batch that is accepted puts its documents under their ids one after the other, each over what was
there.  So the last document with an id stays, a row keeps the time of its creation, and it makes no
difference where a batch is cut in two.  A scan visits the rows in the order of their ids.
-/

namespace TagLedger

/-! ## Ids of documents -/

/-- The value can be used as this id: it is a string that is not blank, without the blanks around
it, or a number as it is written. -/
def Usable (value : Json) (id : String) : Prop :=
  (∃ text, value = .string text ∧ Text.trim text ≠ "" ∧ id = Text.trim text) ∨
    ∃ number : Json.Number, value = .number number ∧ id = number.toText

theorem usableId_eq_some_iff {value : Json} {id : String} :
    usableId value = some id ↔ Usable value id := by
  cases value with
  | string text =>
      by_cases hblank : Text.trim text = ""
      · simp [usableId, Usable, hblank]
      · simp [usableId, Usable, hblank, @eq_comm _ id]
  | number number => simp [usableId, Usable, @eq_comm _ id]
  | _ => simp [usableId, Usable]

/-- The first of these fields that has a usable value has one that can be used as this id. -/
def FirstUsable (names : List String) (fields : List (String × Json)) (id : String) : Prop :=
  ∃ before name after value, names = before ++ name :: after ∧ fields.lookup name = some value ∧
    Usable value id ∧
    ∀ earlier ∈ before, ∀ value, fields.lookup earlier = some value → ∀ other, ¬ Usable value other

theorem documentId_eq_some_iff {collection : Collection} {fields : List (String × Json)}
    {id : String} :
    documentId collection fields = some id ↔ FirstUsable collection.idFields fields id := by
  have hnone (name : String) : (fields.lookup name).bind usableId = none ↔
      ∀ value, fields.lookup name = some value → ∀ other, ¬ Usable value other := by
    rw [Option.bind_eq_none_iff]
    simp only [Option.eq_none_iff_forall_ne_some, ne_eq, usableId_eq_some_iff]
  simp only [documentId, List.findSome?_eq_some_iff, Option.bind_eq_some_iff, hnone,
    usableId_eq_some_iff, FirstUsable]
  constructor
  · rintro ⟨before, name, after, hnames, ⟨value, hvalue, husable⟩, hbefore⟩
    exact ⟨before, name, after, value, hnames, hvalue, husable, hbefore⟩
  · rintro ⟨before, name, after, value, hnames, hvalue, husable, hbefore⟩
    exact ⟨before, name, after, hnames, ⟨value, hvalue, husable⟩, hbefore⟩

/-- What a document is written as: under the id that it names, as it is, or under a fresh
identifier, which it then has in the first id field. -/
inductive WrittenAs (collection : Collection) (candidate : String) : Json → String × Json → Prop
  | named {fields : List (String × Json)} {id : String}
      (h : FirstUsable collection.idFields fields id) :
      WrittenAs collection candidate (.object fields) (id, .object fields)
  | fresh {fields stored : List (String × Json)}
      (h : ∀ id, ¬ FirstUsable collection.idFields fields id)
      (hid : stored.lookup collection.firstIdField = some (.string candidate))
      (hkept : ∀ name, name ≠ collection.firstIdField → stored.lookup name = fields.lookup name) :
      WrittenAs collection candidate (.object fields) (candidate, .object stored)

theorem writtenAs_identify (collection : Collection) (candidate : String)
    (fields : List (String × Json)) :
    WrittenAs collection candidate (.object fields) (identify collection candidate fields) := by
  unfold identify
  cases hid : documentId collection fields with
  | some id => exact .named (documentId_eq_some_iff.mp hid)
  | none =>
      refine .fresh (fun id hfirst => ?_) (Table.lookup_insertRow_self _ _ fields)
        fun name hname => Table.lookup_insertRow_of_ne _ fields hname
      rw [← documentId_eq_some_iff, hid] at hfirst
      cases hfirst

/-! ## Written tables -/

variable {collection : Collection} {candidates : Nat → String} {now : String}
  {documents : List Json}

/-- The time of creation that a row under the id has once it is written. -/
def createdAt (table : Table DocumentRow) (now id : String) : String :=
  ((table.find? id).map (·.createdAt)).getD now

def writtenRow (table : Table DocumentRow) (now : String) (entry : String × Json) : DocumentRow :=
  ⟨.text entry.2.compact, createdAt table now entry.1, now⟩

/-- Under each id stands the last entry with this id, and any other row is as it was. -/
structure Overwrites (now : String) (entries : List (String × Json))
    (table written : Table DocumentRow) : Prop where
  last : ∀ before id stored later, entries = before ++ (id, stored) :: later →
    id ∉ later.map Prod.fst →
    written.find? id = some ⟨.text stored.compact, createdAt table now id, now⟩
  kept : ∀ id, id ∉ entries.map Prod.fst → written.find? id = table.find? id

theorem writeDocument_eq_ok {document : StoredDocument} {table written : Table DocumentRow}
    (h : writeDocument collection now table document = .ok written) :
    notEmpty document.id = true ∧ written = table.insert document.id
      ⟨.text document.body, createdAt table now document.id, now⟩ := by
  unfold writeDocument requireNotEmpty at h
  split at h
  · cases h
  · next hrequired =>
      cases h
      refine ⟨?_, rfl⟩
      by_contra hempty
      simp [hempty] at hrequired

theorem createdAt_insert (table : Table DocumentRow) (now id other : String) (body : Cell) :
    createdAt (table.insert id ⟨body, createdAt table now id, now⟩) now other =
      createdAt table now other := by
  rw [createdAt, Table.find?_insert]
  split
  · next heq => rw [heq, Option.map_some, Option.getD_some]
  · rfl

/-- Writing does not change the time of creation that a later document with the id keeps, so that
all rows can be told from the table that was there before. -/
theorem written_eq_foldl {entries : List (String × Json)} {table written : Table DocumentRow}
    (h : (entries.map StoredDocument.ofIdentified).foldlM (writeDocument collection now) table =
      .ok written) :
    written = (entries.map fun entry => (entry.1, writtenRow table now entry)).foldl
      (fun table row => table.insert row.1 row.2) table := by
  have hrows (rows : List (String × Json)) (first start : Table DocumentRow)
      (hcreated : ∀ id, createdAt start now id = createdAt first now id)
      (h : (rows.map StoredDocument.ofIdentified).foldlM (writeDocument collection now) start =
        .ok written) :
      written = (rows.map fun entry => (entry.1, writtenRow first now entry)).foldl
        (fun table row => table.insert row.1 row.2) start := by
    induction rows generalizing start with
    | nil =>
        cases h
        rfl
    | cons entry rows ih =>
        rw [List.map_cons, List.foldlM_cons] at h
        cases hfirst : writeDocument collection now start (.ofIdentified entry) with
        | error fault => simp [hfirst, bind, Except.bind] at h
        | ok middle =>
            simp only [hfirst, bind, Except.bind] at h
            obtain ⟨-, rfl⟩ := writeDocument_eq_ok hfirst
            rw [ih _ (fun id => (createdAt_insert ..).trans (hcreated id)) h, List.map_cons,
              List.foldl_cons, writtenRow, ← hcreated]
            rfl
  exact hrows entries table table (fun _ => rfl) h

theorem overwrites_of_writeDocuments {entries : List (String × Json)}
    {table written : Table DocumentRow}
    (h : (entries.map StoredDocument.ofIdentified).foldlM (writeDocument collection now) table =
      .ok written) : Overwrites now entries table written where
  last before id stored later hentries hlater := by
    rw [written_eq_foldl h, Table.find?_foldl_insert_eq_lookup_reverse, Option.or_eq_some_iff]
    refine Or.inl (List.lookup_eq_some_iff.mpr ⟨(later.map fun entry =>
      (entry.1, writtenRow table now entry)).reverse, (before.map fun entry =>
      (entry.1, writtenRow table now entry)).reverse, ?_, fun row hrow => ?_⟩)
    · simp [hentries, writtenRow]
    · obtain ⟨entry, hentry, rfl⟩ := List.mem_map.mp (List.mem_reverse.mp hrow)
      exact bne_iff_ne.mpr fun heq => hlater (heq ▸ List.mem_map_of_mem hentry)
  kept id hid := by
    rw [written_eq_foldl h, Table.find?_foldl_insert_eq_lookup_reverse]
    have hnone : (entries.map fun entry =>
        (entry.1, writtenRow table now entry)).reverse.lookup id = none := by
      refine List.lookup_eq_none_iff.mpr fun row hrow => bne_iff_ne.mpr fun heq => ?_
      obtain ⟨entry, hentry, rfl⟩ := List.mem_map.mp (List.mem_reverse.mp hrow)
      exact hid (heq ▸ List.mem_map_of_mem hentry)
    rw [hnone, Option.none_or]

theorem textual_of_writeDocuments {batch : List StoredDocument} {table written : Table DocumentRow}
    (h : batch.foldlM (writeDocument collection now) table = .ok written) :
    Textual table → Textual written :=
  rel_of_foldlM (fun before after => Textual before → Textual after) h (fun _ => id)
    (fun hfirst hsecond => hsecond ∘ hfirst)
    (fun _ hstep hbefore => textual_of_writeDocument hbefore hstep)

theorem notEmpty_of_writeDocuments {batch : List StoredDocument} {table written : Table DocumentRow}
    (h : batch.foldlM (writeDocument collection now) table = .ok written) :
    ∀ document ∈ batch, notEmpty document.id = true := by
  intro document hdocument
  by_contra hempty
  rw [writeDocuments_of_refused hdocument (by simpa using hempty)] at h
  cases h

/-! ## Accepted batches -/

namespace Store

variable {store after : Store} {ids : List String}

theorem writeDocuments_eq_ok_iff {batch : List StoredDocument} {table written : Table DocumentRow} :
    store.writeDocuments collection now batch table = .ok written ↔
      (batch ≠ [] → store.refusal = none) ∧
        batch.foldlM (writeDocument collection now) table = .ok written := by
  unfold writeDocuments attempt
  cases batch with
  | nil => simp [pure, Except.pure]
  | cons document batch => cases store.refusal <;> simp

/-- A batch is accepted if it has only objects, the schema takes its ids, and it is empty or can be
written. -/
theorem upsertDocuments_eq_ok_iff :
    store.upsertDocuments candidates now collection documents = (.ok ids, after) ↔
      (∀ document ∈ documents, document.object?.isSome = true) ∧
      (documents ≠ [] → store.refusal = none) ∧
      ids = (identified collection candidates documents).map Prod.fst ∧
      ∃ table written, store.documents collection = some table ∧
        ((identified collection candidates documents).map StoredDocument.ofIdentified).foldlM
          (writeDocument collection now) table = .ok written ∧
        after = store.withDocuments collection written := by
  by_cases hobjects : ∀ document ∈ documents, document.object?.isSome = true
  · have hempty : (identified collection candidates documents).map
        StoredDocument.ofIdentified ≠ [] ↔ documents ≠ [] := by
      simp [identified]
    have hids : ((identified collection candidates documents).map
        StoredDocument.ofIdentified).map (·.id) =
          (identified collection candidates documents).map Prod.fst := by
      rw [List.map_map]
      rfl
    unfold upsertDocuments
    rw [mapM_prepareDocument hobjects]
    cases htable : store.documents collection with
    | none => simp [require]
    | some table =>
        simp only [require]
        cases hwrite : store.writeDocuments collection now ((identified collection candidates
            documents).map StoredDocument.ofIdentified) table with
        | error fault =>
            refine iff_of_false (fun h => by cases h) ?_
            rintro ⟨-, hrefusal, -, _, written, heq, hwritten, -⟩
            cases heq
            have haccepted := writeDocuments_eq_ok_iff.mpr
              ⟨fun hne => hrefusal (hempty.mp hne), hwritten⟩
            cases hwrite.symm.trans haccepted
        | ok written =>
            obtain ⟨hrefusal, hwritten⟩ := writeDocuments_eq_ok_iff.mp hwrite
            constructor
            · intro h
              cases h
              exact ⟨hobjects, fun hne => hrefusal (hempty.mpr hne), hids, table, written, rfl,
                hwritten, rfl⟩
            · rintro ⟨-, -, rfl, _, other, heq, hother, rfl⟩
              cases heq
              cases hwritten.symm.trans hother
              rw [hids]
  · refine iff_of_false (fun h => hobjects ?_) fun h => hobjects h.1
    rcases store.upsertDocuments_written candidates now collection documents with
      ⟨error, hrefused⟩ | ⟨-, -, hall, -⟩
    · cases hrefused.symm.trans h
    · exact hall

theorem refusal_withDocuments (store : Store) (collection : Collection)
    (table : Table DocumentRow) :
    (store.withDocuments collection table).refusal = store.refusal := by
  cases collection <;> rfl

theorem withDocuments_withDocuments (store : Store) (collection : Collection)
    (table other : Table DocumentRow) :
    (store.withDocuments collection table).withDocuments collection other =
      store.withDocuments collection other := by
  cases collection <;> rfl

theorem identified_append (collection : Collection) (candidates : Nat → String)
    (first rest : List Json) :
    identified collection candidates (first ++ rest) = identified collection candidates first ++
      identified collection (fun index => candidates (first.length + index)) rest := by
  have hindices : rest.zipIdx first.length =
      rest.zipIdx.map fun document => (document.1, first.length + document.2) :=
    List.zipIdx_eq_map_add
  rw [identified, identified, identified, List.zipIdx_append, List.map_append, Nat.zero_add,
    hindices, List.map_map]
  rfl

/-- The two parts of a batch that is accepted are accepted one after the other, at any times, if
they draw what the batch has drawn; they return its ids and leave its texts. -/
theorem upsertDocuments_append {first rest : List Json} {written : Table DocumentRow}
    (h : store.upsertDocuments candidates now collection (first ++ rest) =
      (.ok ids, store.withDocuments collection written)) (earlier later : String) :
    ∃ firstIds middle restIds final,
      store.upsertDocuments candidates earlier collection first = (.ok firstIds, middle) ∧
      middle.upsertDocuments (fun index => candidates (first.length + index)) later collection
        rest = (.ok restIds, store.withDocuments collection final) ∧
      ids = firstIds ++ restIds ∧ bodies final = bodies written := by
  obtain ⟨hobjects, hrefusal, rfl, table, found, htable, hwritten, hfound⟩ :=
    upsertDocuments_eq_ok_iff.mp h
  obtain rfl : written = found := by
    have hsame := congrArg (·.documents collection) hfound
    simpa using hsame
  have hempty := notEmpty_of_writeDocuments hwritten
  rw [identified_append, List.map_append] at hempty
  rw [List.forall_mem_append] at hobjects hempty
  obtain ⟨middle, hmiddle⟩ := exists_writeDocuments collection earlier hempty.1 table
  obtain ⟨final, hfinal⟩ := exists_writeDocuments collection later hempty.2 middle
  have hfirst := upsertDocuments_eq_ok_iff.mpr ⟨hobjects.1, fun hne =>
    hrefusal (by simp [hne]), rfl, table, middle, htable, hmiddle, rfl⟩
  have hrest := upsertDocuments_eq_ok_iff.mpr ⟨hobjects.2, fun hne =>
    (refusal_withDocuments store collection middle).trans (hrefusal (by simp [hne])), rfl,
    middle, final, documents_withDocuments store collection middle, hfinal, rfl⟩
  rw [withDocuments_withDocuments] at hrest
  refine ⟨_, _, _, final, hfirst, hrest, ?_, ?_⟩
  · rw [identified_append, List.map_append]
  · rw [bodies_of_writeDocuments hfinal, bodies_of_writeDocuments hmiddle,
      bodies_of_writeDocuments hwritten, identified_append, List.foldl_append]

theorem find?_foldl_identify {others : Nat → String} {items : List (Json × Nat)} {id : String}
    (hitems : ∀ item ∈ items, id ≠ candidates item.2 ∧ id ≠ others item.2) {left right : Table Cell}
    (h : left.find? id = right.find? id) :
    ((items.map fun item => identify collection (candidates item.2) (item.1.object?.getD [])).foldl
        (fun bodies entry => bodies.insert entry.1 (.text entry.2.compact)) left).find? id =
      ((items.map fun item => identify collection (others item.2) (item.1.object?.getD [])).foldl
        (fun bodies entry => bodies.insert entry.1 (.text entry.2.compact)) right).find? id := by
  induction items generalizing left right with
  | nil => exact h
  | cons item items ih =>
      obtain ⟨⟨hcandidate, hother⟩, hitems⟩ := List.forall_mem_cons.mp hitems
      refine ih hitems ?_
      rw [Table.find?_insert, Table.find?_insert]
      cases hid : documentId collection (item.1.object?.getD []) with
      | some named => simp only [identify, hid, h]
      | none => simp only [identify, hid, if_neg hcandidate, if_neg hother, h]

/-- Other identifiers make a difference only under those that are drawn. -/
theorem find?_bodies_of_undrawn {others : Nat → String} {later : String}
    {table written otherWritten : Table DocumentRow}
    (hwritten : ((identified collection candidates documents).map
      StoredDocument.ofIdentified).foldlM (writeDocument collection now) table = .ok written)
    (hother : ((identified collection others documents).map
      StoredDocument.ofIdentified).foldlM (writeDocument collection later) table =
        .ok otherWritten) {id : String}
    (hid : ∀ index < documents.length, id ≠ candidates index ∧ id ≠ others index) :
    (bodies written).find? id = (bodies otherWritten).find? id := by
  rw [bodies_of_writeDocuments hwritten, bodies_of_writeDocuments hother]
  exact find?_foldl_identify (fun item hitem => hid item.2 (List.snd_lt_of_mem_zipIdx hitem)) rfl

/-! ## Scans -/

/-- The documents are the rows of the table, each once, in the order of the bytes of the ids. -/
structure Visits (table : Table DocumentRow) (stored : List StoredDocument) : Prop where
  ascending : stored.Pairwise fun earlier later => Text.utf8 earlier.id < Text.utf8 later.id
  complete : ∀ document, document ∈ stored ↔
    ∃ row, table.find? document.id = some row ∧ row.body = .text document.body

theorem visits_of_scanDocuments {table : Table DocumentRow} {stored : List StoredDocument}
    (htable : store.documents collection = some table)
    (h : store.scanDocuments collection = .ok stored) :
    Visits table stored ∧ store.countDocuments collection = .ok stored.length := by
  obtain ⟨_, hfound, hrows⟩ := scanDocuments_eq_ok_iff.mp h
  obtain rfl := Option.some.inj (htable.symm.trans hfound)
  refine ⟨⟨?_, fun document => ?_⟩, ?_⟩
  · have hids : (table.rows.map fun row => (row.1, row.2.body)).Pairwise
        fun earlier later => earlier.1 < later.1 := List.pairwise_map.mpr table.ordered
    rw [hrows, List.pairwise_map] at hids
    exact hids.imp Text.utf8_lt_iff.mpr
  · have hmem : document ∈ stored ↔ document.cells ∈ stored.map StoredDocument.cells :=
      (List.mem_map_of_injective StoredDocument.cells_injective).symm
    rw [hmem, ← hrows]
    simp only [List.mem_map, Prod.exists, StoredDocument.cells, Prod.mk.injEq]
    constructor
    · rintro ⟨id, row, hrow, rfl, hbody⟩
      exact ⟨row, Table.mem_rows_iff.mp hrow, hbody⟩
    · rintro ⟨row, hrow, hbody⟩
      exact ⟨document.id, row, Table.mem_rows_iff.mpr hrow, rfl, hbody⟩
  · have hlength : table.rows.length = stored.length := by simpa using congrArg List.length hrows
    rw [countDocuments, htable, ← hlength]
    rfl

theorem exists_scanDocuments {table : Table DocumentRow}
    (htable : store.documents collection = some table) (htextual : Textual table) :
    ∃ stored, store.scanDocuments collection = .ok stored := by
  obtain ⟨stored, hstored⟩ := exists_map_cells fun id row hrow =>
    htextual id row (Table.mem_rows_iff.mp hrow)
  exact ⟨stored, scanDocuments_eq_ok_iff.mpr ⟨table, htable, hstored.symm⟩⟩

/-- A batch that is accepted has written each of its objects under its first usable id, or under a
fresh identifier that it then has in the first id field, and returns these ids in its order.  Under
each of them is the text of the last object with that id, with the time of creation of the row that
was there before, and nothing else of the store has changed.  Cut in two and written part after
part, the batch leaves the same ids and texts; other identifiers make a difference only under those
that are drawn.  A table of texts stays one, and a scan of such a table visits the rows one by one
in the order of the bytes of their ids, as many as are counted. -/
theorem upsertDocuments_overwrites
    (h : store.upsertDocuments candidates now collection documents = (.ok ids, after)) :
    ∃ (table written : Table DocumentRow) (entries : List (String × Json)),
      store.documents collection = some table ∧
      after = store.withDocuments collection written ∧
      entries.length = documents.length ∧
      (∀ index document entry, documents[index]? = some document → entries[index]? = some entry →
        WrittenAs collection (candidates index) document entry) ∧
      ids = entries.map Prod.fst ∧
      Overwrites now entries table written ∧
      (∀ first rest earlier later, documents = first ++ rest → ∃ firstIds middle restIds final,
        store.upsertDocuments candidates earlier collection first = (.ok firstIds, middle) ∧
        middle.upsertDocuments (fun index => candidates (first.length + index)) later collection
          rest = (.ok restIds, store.withDocuments collection final) ∧
        ids = firstIds ++ restIds ∧ bodies final = bodies written) ∧
      (∀ others later otherIds otherWritten,
        store.upsertDocuments others later collection documents =
          (.ok otherIds, store.withDocuments collection otherWritten) →
        ∀ id, (∀ index < documents.length, id ≠ candidates index ∧ id ≠ others index) →
          (bodies written).find? id = (bodies otherWritten).find? id) ∧
      (Textual table → Textual written) ∧
      ∀ (other : Store) (held : Table DocumentRow), other.documents collection = some held →
        (Textual held → ∃ stored, other.scanDocuments collection = .ok stored) ∧
        ∀ stored, other.scanDocuments collection = .ok stored →
          Visits held stored ∧ other.countDocuments collection = .ok stored.length := by
  obtain ⟨hobjects, -, rfl, table, written, htable, hwritten, rfl⟩ :=
    upsertDocuments_eq_ok_iff.mp h
  refine ⟨table, written, identified collection candidates documents, htable, rfl, ?_, ?_, rfl,
    overwrites_of_writeDocuments hwritten, ?_, ?_, textual_of_writeDocuments hwritten,
    fun other held hheld =>
      ⟨exists_scanDocuments hheld, fun stored => visits_of_scanDocuments hheld⟩⟩
  · rw [identified, List.length_map, List.length_zipIdx]
  · intro index document entry hdocument hentry
    obtain ⟨fields, rfl⟩ : ∃ fields, document = .object fields := by
      have hobject := hobjects document (List.mem_of_getElem? hdocument)
      cases document with
      | object fields => exact ⟨fields, rfl⟩
      | _ => cases hobject
    rw [identified, List.getElem?_map, List.getElem?_zipIdx, hdocument] at hentry
    obtain rfl := Option.some.inj hentry
    rw [Nat.zero_add]
    exact writtenAs_identify collection (candidates index) fields
  · rintro first rest earlier later rfl
    exact upsertDocuments_append h earlier later
  · intro others later otherIds otherWritten hothers id hid
    obtain ⟨-, -, -, found, otherFound, hfound, hother, hsame⟩ :=
      upsertDocuments_eq_ok_iff.mp hothers
    obtain rfl := Option.some.inj (htable.symm.trans hfound)
    obtain rfl : otherWritten = otherFound := by
      simpa using congrArg (·.documents collection) hsame
    exact find?_bodies_of_undrawn hwritten hother hid

def heldProjects : Table DocumentRow :=
  (Table.empty.insert "p1" ⟨.text "old", "t0", "t0"⟩).insert "p2" ⟨.text "kept", "t0", "t0"⟩

/-- A blank id before a usable one, a number, no id, blanks around an id that was there before, and
the number again as a string. -/
def mixedDocuments : List Json :=
  [.object [("_id", .string " "), ("id", .string "p1")], .object [("_id", .number (.integer 7))],
    .object [("title", .string "x")], .object [("_id", .string " p1 ")],
    .object [("id", .string "7")]]

theorem mixedDocuments_written :
    let store := { (Store.blank.migrate "t0").2 with projects := some heldProjects }
    ∃ after written, store.upsertDocuments (Identifier.sequence 1 1) "t1" .projects mixedDocuments =
        (.ok ["p1", "7", Identifier.sequence 1 1 2, "p1", "7"], after) ∧
      after.documents .projects = some written ∧
      written.find? "p2" = some ⟨.text "kept", "t0", "t0"⟩ ∧
      written.find? "p1" =
        some ⟨.text (Json.object [("_id", .string " p1 ")]).compact, "t0", "t1"⟩ ∧
      ∃ stored, after.scanDocuments .projects = .ok stored ∧ Visits written stored := by
  intro store
  have h : store.upsertDocuments (Identifier.sequence 1 1) "t1" .projects mixedDocuments =
      (.ok ["p1", "7", Identifier.sequence 1 1 2, "p1", "7"],
        (store.upsertDocuments (Identifier.sequence 1 1) "t1" .projects mixedDocuments).2) :=
    Prod.ext (by decide +kernel) rfl
  obtain ⟨table, written, entries, htable, hafter, -, -, hids, hoverwrites, -, -, htextual,
    hscan⟩ := upsertDocuments_overwrites h
  obtain rfl : table = heldProjects := (Option.some.inj htable).symm
  have hwritten : (store.upsertDocuments (Identifier.sequence 1 1) "t1" .projects
      mixedDocuments).2.documents .projects = some written := by
    rw [hafter]
    rfl
  have hheld : Textual heldProjects := by
    intro id row hrow
    have hrows : (id, row) ∈ heldProjects.rows := Table.mem_rows_iff.mpr hrow
    have htexts : ∀ row ∈ heldProjects.rows, row.2.body ∈ [Cell.text "old", .text "kept"] := by
      decide +kernel
    have htext := htexts _ hrows
    rcases List.mem_cons.mp htext with hold | hkept
    · exact ⟨_, hold⟩
    · exact ⟨_, List.mem_singleton.mp hkept⟩
  have hfirst : ((store.upsertDocuments (Identifier.sequence 1 1) "t1" .projects
      mixedDocuments).2.documents .projects).bind (·.find? "p1") =
        some ⟨.text (Json.object [("_id", .string " p1 ")]).compact, "t0", "t1"⟩ := by
    decide +kernel
  rw [hwritten] at hfirst
  obtain ⟨hexists, hvisits⟩ := hscan _ written hwritten
  obtain ⟨stored, hstored⟩ := hexists (htextual hheld)
  refine ⟨_, written, h, hwritten, ?_, hfirst, stored, hstored, (hvisits stored hstored).1⟩
  rw [hoverwrites.kept "p2" (by rw [← hids]; decide +kernel)]
  decide +kernel

end Store

end TagLedger
