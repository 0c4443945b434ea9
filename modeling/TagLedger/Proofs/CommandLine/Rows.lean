import TagLedger.Proofs.CommandLine.Envelope
import TagLedger.Proofs.Identifier

/-!
# Rows that are read back

A script that reads the rows of a report takes the output apart at its line breaks and each line at
its tabs.  Nothing in the rows is escaped.  So what it gets are the fields of the rows exactly if no
field has a tab or a line break in it.
-/

namespace TagLedger.CommandLine

/-! ## Taking a text apart -/

def pieces (separator : Char) (text : String) : List String :=
  (text.toList.splitOn separator).map String.ofList

/-- The lines of an output, each of which ends with a line break. -/
def lines (output : String) : List String :=
  (pieces '\n' output).dropLast

def fields (line : String) : List String :=
  pieces '\t' line

def IsPlain (text : String) : Prop :=
  '\t' ∉ text.toList ∧ '\n' ∉ text.toList

instance (text : String) : Decidable (IsPlain text) :=
  inferInstanceAs (Decidable (_ ∧ _))

theorem pieces_of_not_mem {separator : Char} {text : String} (h : separator ∉ text.toList) :
    pieces separator text = [text] := by
  rw [pieces, List.splitOn_eq_singleton h, List.map_singleton, String.ofList_toList]

theorem not_mem_of_mem_splitOn {separator : Char} {text piece : List Char}
    (h : piece ∈ text.splitOn separator) : separator ∉ piece := by
  induction text generalizing piece with
  | nil =>
      obtain rfl : piece = [] := by simpa using h
      exact List.not_mem_nil
  | cons first rest ih =>
      obtain ⟨next, others, hrest⟩ :=
        List.exists_cons_of_ne_nil (List.splitOn_ne_nil separator rest)
      rw [List.splitOn_cons_eq_if_modifyHead, hrest] at h
      rw [hrest] at ih
      split at h
      · rcases List.mem_cons.mp h with rfl | hpiece
        · exact List.not_mem_nil
        · exact ih hpiece
      · next hfirst =>
          rcases List.mem_cons.mp h with rfl | hpiece
          · have hne : separator ≠ first := fun heq => hfirst (beq_iff_eq.mpr heq.symm)
            exact List.not_mem_cons_of_ne_of_not_mem hne (ih List.mem_cons_self)
          · exact ih (List.mem_cons_of_mem _ hpiece)

theorem not_mem_of_mem_pieces {separator : Char} {text piece : String}
    (h : piece ∈ pieces separator text) : separator ∉ piece.toList := by
  obtain ⟨characters, hcharacters, rfl⟩ := List.mem_map.mp h
  rw [String.toList_ofList]
  exact not_mem_of_mem_splitOn hcharacters

/-! ## Lines -/

theorem toList_unlines_cons (line : String) (rest : List String) :
    (unlines (line :: rest)).toList = line.toList ++ '\n' :: (unlines rest).toList := by
  have hbreak : "\n".toList = ['\n'] := rfl
  simp only [unlines, String.toList_join, List.map_cons, List.flatMap_cons, String.toList_append,
    hbreak, List.append_assoc, List.singleton_append]

/-- The text that is written as one line is read as the lines that it has. -/
theorem lines_unlines (texts : List String) :
    lines (unlines texts) = texts.flatMap (pieces '\n') := by
  have hpieces : pieces '\n' (unlines texts) = texts.flatMap (pieces '\n') ++ [""] := by
    induction texts with
    | nil => rfl
    | cons line rest ih =>
        rw [pieces, toList_unlines_cons, List.splitOn_append_cons_self, List.map_append, ← pieces,
          ← pieces, ih, List.flatMap_cons, List.append_assoc]
  rw [lines, hpieces, List.dropLast_concat]

/-! ## Fields -/

theorem toList_tabbed (row : List String) :
    (tabbed row).toList = ['\t'].intercalate (row.map String.toList) := by
  have htab : "\t".toList = ['\t'] := rfl
  rw [tabbed, String.toList_intercalate, htab]

theorem tabbed_fields (line : String) : tabbed (fields line) = line := by
  have hlist : String.toList ∘ String.ofList = id := funext fun _ => String.toList_ofList
  rw [← String.toList_inj, toList_tabbed, fields, pieces, List.map_map, hlist, List.map_id,
    List.intercalate_splitOn]

theorem fields_tabbed {row : List String} (hrow : row ≠ [])
    (h : ∀ field ∈ row, '\t' ∉ field.toList) : fields (tabbed row) = row := by
  have htext : String.ofList ∘ String.toList = id := funext fun _ => String.ofList_toList
  rw [fields, pieces, toList_tabbed,
    List.splitOn_intercalate '\t' (List.forall_mem_map.mpr h) (List.map_eq_nil_iff.not.mpr hrow),
    List.map_map, htext, List.map_id]

theorem lineBreak_mem_tabbed_iff {row : List String} :
    '\n' ∈ (tabbed row).toList ↔ ∃ field ∈ row, '\n' ∈ field.toList := by
  rw [toList_tabbed]
  induction row with
  | nil => simp
  | cons field rest ih =>
      cases rest with
      | nil => simp
      | cons next rest =>
          have htab : '\n' ∉ ['\t'] := by decide
          rw [List.map_cons, List.map_cons, List.intercalate_cons_cons, ← List.map_cons,
            List.mem_append, List.mem_append, or_iff_left htab, ih]
          simp only [List.exists_mem_cons_iff]

/-- Rows of fields are read back exactly if all fields are plain. -/
theorem map_fields_lines_eq_iff {rows : List (List String)} (hrows : [] ∉ rows) :
    (lines (unlines (rows.map tabbed))).map fields = rows ↔
      ∀ row ∈ rows, ∀ field ∈ row, IsPlain field := by
  constructor
  · intro h row hrow field hfield
    rw [← h, lines_unlines] at hrow
    obtain ⟨line, hline, rfl⟩ := List.mem_map.mp hrow
    obtain ⟨text, -, hpiece⟩ := List.mem_flatMap.mp hline
    refine ⟨not_mem_of_mem_pieces hfield, fun hbreak => ?_⟩
    have hline := lineBreak_mem_tabbed_iff.mpr ⟨field, hfield, hbreak⟩
    rw [tabbed_fields] at hline
    exact not_mem_of_mem_pieces hpiece hline
  · intro h
    have hlines : lines (unlines (rows.map tabbed)) = rows.map tabbed := by
      rw [lines_unlines, List.map_eq_flatMap, List.flatMap_assoc]
      refine List.flatMap_congr fun row hrow => ?_
      have hbreak : '\n' ∉ (tabbed row).toList := fun hbreak => by
        obtain ⟨field, hfield, hmem⟩ := lineBreak_mem_tabbed_iff.mp hbreak
        exact (h row hrow field hfield).2 hmem
      rw [List.flatMap_singleton, pieces_of_not_mem hbreak]
    rw [hlines, List.map_map]
    refine (List.map_congr_left fun row hrow => ?_).trans (List.map_id rows)
    exact fields_tabbed (ne_of_mem_of_not_mem hrow hrows) fun field hfield =>
      (h row hrow field hfield).1

/-! ## The rows of hashtags -/

def columns (row : HashtagCount) : List String :=
  [toString row.count, row.hashtag, row.slug]

theorem isPlain_toString (count : Nat) : IsPlain (toString count) := by
  have hvisible : ∀ character ∈ (toString count).toList, Text.isBlank character = false := by
    intro character hcharacter
    rw [Nat.toString_eq_repr, Nat.repr, String.toList_ofList] at hcharacter
    obtain ⟨digit, rfl⟩ := exists_digitChar_of_mem_toDigits (by decide) hcharacter
    exact (visible_digitChar digit).1
  constructor
  · intro htab
    exact absurd (hvisible _ htab) (by decide +kernel)
  · intro hbreak
    exact absurd (hvisible _ hbreak) (by decide +kernel)

theorem forall_mem_columns_iff (row : HashtagCount) :
    (∀ field ∈ columns row, IsPlain field) ↔ IsPlain row.hashtag ∧ IsPlain row.slug := by
  rw [columns, List.forall_mem_cons, List.forall_mem_cons, List.forall_mem_singleton]
  exact and_iff_right (isPlain_toString row.count)

theorem hashtags_eq_ok {sources : Sources} {debug : Bool} {limit : Option Nat}
    {workspace : Workspace} {report : Report}
    (h : ((perform sources (.hashtags debug limit)).run workspace).1 = .ok report) :
    ∃ usage, report = .usage usage := by
  change ((hashtags sources debug limit).run workspace).1 = .ok report at h
  unfold hashtags at h
  rw [run_bind, run_settings] at h
  cases hsettings : workspace.settings with
  | error error =>
      rw [hsettings] at h
      cases h
  | ok settings =>
      rw [hsettings] at h
      dsimp only [Except.mapError] at h
      rw [run_bind] at h
      split at h
      · exact ⟨_, (Except.ok.inj h).symm⟩
      · cases h

theorem rows_usage (report : UsageReport) :
    (Report.usage report).rows = (report.hashtags.map columns).map tabbed := by
  rw [List.map_map]
  rfl

/-- The rows of hashtags are what the JSON report of the same query has, in its order.  Read back,
they are its hashtags with their counts and slugs exactly if there is neither a tab nor a line break
in any of these: a canonical tag may have both between other characters, and nothing escapes them. -/
theorem hashtags_read_back_iff {sources : Sources} {environment otherEnvironment : Environment}
    {words otherWords : List String} {flag otherFlag : Option OutputMode}
    {verbose otherVerbose : Bool} {debug : Bool} {limit : Option Nat} {workspace : Workspace}
    (hcall : readCall words = .ok ⟨.perform (.hashtags debug limit), flag, verbose⟩)
    (hmode : outputMode environment flag workspace = .text)
    (hother : readCall otherWords =
      .ok ⟨.perform (.hashtags debug limit), otherFlag, otherVerbose⟩)
    (hjson : outputMode otherEnvironment otherFlag workspace = .json)
    (hdone : (run sources environment words workspace).1.status = 0) :
    ∃ report : UsageReport,
      ((perform sources (.hashtags debug limit)).run workspace).1 = .ok (.usage report) ∧
      (run sources otherEnvironment otherWords workspace).1 =
        ⟨0, report.body.pretty ++ "\n", logOf sources otherEnvironment
          ⟨.perform (.hashtags debug limit), otherFlag, otherVerbose⟩ workspace⟩ ∧
      (run sources environment words workspace).1 =
        ⟨0, unlines ((report.hashtags.map columns).map tabbed), logOf sources environment
          ⟨.perform (.hashtags debug limit), flag, verbose⟩ workspace⟩ ∧
      ((lines (run sources environment words workspace).1.output).map fields =
          report.hashtags.map columns ↔
        ∀ row ∈ report.hashtags, IsPlain row.hashtag ∧ IsPlain row.slug) := by
  have htext := run_of_call hcall sources environment workspace
  have hobject := run_of_call hother sources otherEnvironment workspace
  rw [hmode] at htext
  rw [hjson] at hobject
  cases hresult : ((perform sources (.hashtags debug limit)).run workspace).1 with
  | error failure =>
      rw [htext, hresult] at hdone
      cases hdone
  | ok report =>
      obtain ⟨usage, rfl⟩ := hashtags_eq_ok hresult
      rw [hresult] at htext hobject
      have hreport : Ending.ofResult .text (.ok (.usage usage)) =
          .success (unlines ((usage.hashtags.map columns).map tabbed)) := by
        rw [← rows_usage]
        rfl
      rw [hreport, Ending.logged_success] at htext
      refine ⟨usage, rfl, hobject.trans (Ending.logged_success _ _), htext, ?_⟩
      rw [htext]
      change (lines (unlines _)).map fields = _ ↔ _
      rw [map_fields_lines_eq_iff (by simp [columns]), List.forall_mem_map]
      exact forall₂_congr fun row _ => forall_mem_columns_iff row

/-- A project with one document, which has one tag. -/
def taggedWorkspace (tag : String) : Workspace :=
  let document : Json := .object [("hashtags", .array [.string tag])]
  let store := { (Store.blank.migrate "t0").2 with
    projects := some (.ofList [("a", ⟨.text document.compact, "t0", "t0"⟩)]) }
  let files : Files := .empty
  ⟨"/work", ["work"], none,
    files.put ["work", storeDirectory, storeFileName] (.store store true none)⟩

def reportedHashtags : Report → List HashtagCount
  | .usage report => report.hashtags
  | _ => []

/-- A tag of two words is read back. -/
theorem gala_dinner_read_back :
    let environment := bareEnvironment (some (.upTo .error))
    let workspace := taggedWorkspace " Gala Dinner"
    let ending := (run sampleSources environment ["hashtags", "--format", "text"] workspace).1
    ∃ report : UsageReport, report.hashtags.map (·.hashtag) = ["gala dinner"] ∧
      (run sampleSources environment ["hashtags", "--json"] workspace).1 =
        .success (report.body.pretty ++ "\n") ∧
      (lines ending.output).map fields = report.hashtags.map columns := by
  intro environment workspace ending
  have hcall : readCall ["hashtags", "--format", "text"] =
    .ok ⟨.perform (.hashtags false none), some .text, false⟩ := rfl
  have hother : readCall ["hashtags", "--json"] =
    .ok ⟨.perform (.hashtags false none), some .json, false⟩ := rfl
  have hmode : outputMode environment (some .text) workspace = .text := by decide +kernel
  have hjson : outputMode environment (some .json) workspace = .json := by decide +kernel
  have hdone : ending.status = 0 := by decide +kernel
  have hreported : ((perform sampleSources (.hashtags false none)).run workspace).1.map
      reportedHashtags = .ok [⟨"gala dinner", sampleSources.candidates 0, 1⟩] := by
    decide +kernel
  obtain ⟨report, hresult, hobject, -, hread⟩ :=
    hashtags_read_back_iff hcall hmode hother hjson hdone
  rw [hresult] at hreported
  have hhashtags : report.hashtags = [⟨"gala dinner", sampleSources.candidates 0, 1⟩] :=
    Except.ok.inj hreported
  rw [logOf, onlyErrors_bareEnvironment.write_eq_empty] at hobject
  refine ⟨report, by rw [hhashtags]; rfl, hobject, hread.mpr ?_⟩
  rw [hhashtags]
  decide +kernel

/-- A tab in a tag makes a field of what stands before it and one of what stands behind it. -/
theorem tab_in_tag_not_read_back : ¬ ∀ (sources : Sources)
    (environment otherEnvironment : Environment) (words otherWords : List String)
    (flag otherFlag : Option OutputMode) (verbose otherVerbose debug : Bool) (limit : Option Nat)
    (workspace : Workspace),
    readCall words = .ok ⟨.perform (.hashtags debug limit), flag, verbose⟩ →
    outputMode environment flag workspace = .text →
    readCall otherWords = .ok ⟨.perform (.hashtags debug limit), otherFlag, otherVerbose⟩ →
    outputMode otherEnvironment otherFlag workspace = .json →
    (run sources environment words workspace).1.status = 0 →
    ∃ report : UsageReport,
      (run sources otherEnvironment otherWords workspace).1.output =
        report.body.pretty ++ "\n" ∧
      (lines (run sources environment words workspace).1.output).map fields =
        report.hashtags.map columns := by
  intro h
  obtain ⟨report, -, hread⟩ := h sampleSources (bareEnvironment none) (bareEnvironment none)
    ["hashtags", "--format", "text"] ["hashtags", "--json"] (some .text) (some .json) false false
    false none (taggedWorkspace "a\tb") rfl (by decide +kernel) rfl (by decide +kernel)
    (by decide +kernel)
  -- The line has four fields, and the rows of every report have three.
  have hfour : ((lines (run sampleSources (bareEnvironment none) ["hashtags", "--format", "text"]
      (taggedWorkspace "a\tb")).1.output).map fields).map List.length = [4] := by
    decide +kernel
  rw [hread, List.map_map] at hfour
  have hlength : 4 ∈ report.hashtags.map (List.length ∘ columns) := hfour ▸ List.mem_singleton_self 4
  obtain ⟨row, -, hrow⟩ := List.mem_map.mp hlength
  cases hrow

end TagLedger.CommandLine
