import TagLedger.Proofs.Cache.Announcement
import TagLedger.Proofs.Store.Naming

/-!
# The last color of a tag

Colors are set one after another, under any spelling of their tags, some of them announced and some
not.  What counts is what was set last under the canonical form: every spelling of a tag is shown
that color, and the table that is loaded has one key for each form.
-/

namespace TagLedger.Board

/-- A color to be set, in the store alone or announced as well. -/
structure Setting where
  tag : String
  color : String
  now : String
  announced : Bool

def set (setting : Setting) (board : Board) : Except LedgerError String × Board :=
  if setting.announced then
    board.setColorAndInvalidate setting.now setting.tag setting.color
  else
    (board.store.setColor setting.now setting.tag setting.color).map id ({ board with store := · })

def setNext (past : List Setting × Board) (setting : Setting) : List Setting × Board :=
  match past.2.set setting with
  | (.ok _, board) => (past.1 ++ [setting], board)
  | (.error _, board) => (past.1, board)

def lastColor? (succeeded : List Setting) (canonical : String) : Option String :=
  (succeeded.reverse.find? fun setting => Tag.canonicalize setting.tag = some canonical).map
    fun setting => Text.trim setting.color

theorem lastColor?_concat (succeeded : List Setting) (setting : Setting) (canonical : String) :
    lastColor? (succeeded ++ [setting]) canonical =
      if Tag.canonicalize setting.tag = some canonical then some (Text.trim setting.color)
      else lastColor? succeeded canonical := by
  rw [lastColor?, List.reverse_append, List.reverse_singleton, List.singleton_append,
    List.find?_cons]
  by_cases hform : Tag.canonicalize setting.tag = some canonical <;> simp [hform, lastColor?]

theorem isSome_lastColor?_iff {succeeded : List Setting} {canonical : String} :
    (lastColor? succeeded canonical).isSome ↔
      ∃ setting ∈ succeeded, Tag.canonicalize setting.tag = some canonical := by
  simp [lastColor?]

theorem set_cases (setting : Setting) (board : Board) :
    (∃ error, board.set setting = (.error error, board)) ∨
      ∃ canonical after, board.set setting = (.ok canonical, after) ∧
        board.store.setColor setting.now setting.tag setting.color =
          (.ok canonical, after.store) := by
  unfold set
  split
  · exact (board.setColorAndInvalidate_cases setting.now setting.tag setting.color).imp_right
      fun ⟨canonical, store, hset, hresult⟩ => ⟨canonical, _, hresult, hset⟩
  · cases hset : board.store.setColor setting.now setting.tag setting.color with
    | mk result store =>
        cases result with
        | error error =>
            obtain rfl := Store.allOrNothing_setColor _ _ _ _ _ _ hset
            exact Or.inl ⟨error, rfl⟩
        | ok canonical => exact Or.inr ⟨canonical, { board with store }, rfl, rfl⟩

/-! ## Stores with the colors that were set -/

structure HoldsSet (succeeded : List Setting) (store : Store) : Prop where
  created : store.colors.isSome
  color : ∀ canonical, store.color? canonical = lastColor? succeeded canonical

namespace HoldsSet

variable {succeeded : List Setting} {board : Board}

theorem start {store : Store} (h : store.colors = some .empty) : HoldsSet [] store where
  created := by rw [h]; rfl
  color canonical := by
    rw [Store.color?, Store.colorTable, h]
    rfl

theorem set (h : HoldsSet succeeded board.store) (setting : Setting) :
    let (succeeded, board) := setNext (succeeded, board) setting
    HoldsSet succeeded board.store := by
  unfold setNext
  rcases set_cases setting board with
    ⟨error, hresult⟩ | ⟨canonical, after, hresult, hset⟩
  · rwa [hresult]
  · obtain ⟨hform, table, htable, hafter⟩ := Store.setColor_eq_ok hset
    simp only [hresult]
    refine ⟨by rw [hafter]; rfl, fun other => ?_⟩
    rw [Store.color?_of_setColor hset, lastColor?_concat, hform, h.color]
    exact if_congr (eq_comm.trans Option.some_inj.symm) rfl rfl

end HoldsSet

/-! ## Tables with the colors that were set -/

/-- A key for each canonical form that was set, and for every spelling the color that was set last
under its form. -/
structure ShowsSet (succeeded : List Setting) (colors : ColorTable) : Prop where
  nodup : colors.keys.Nodup
  mem_keys_iff : ∀ key, key ∈ colors.keys ↔
    ∃ setting ∈ succeeded, Tag.canonicalize setting.tag = some key
  canonical : ∀ key ∈ colors.keys, Tag.canonicalize key = some key
  colorFor : ∀ tag fallback, colors.colorFor tag fallback =
    ((Tag.canonicalize tag).bind (lastColor? succeeded)).getD fallback
  blank : ∀ tag fallback, Text.trim tag = "" → colors.colorFor tag fallback = fallback

theorem HoldsSet.shows {succeeded : List Setting} {store : Store} (h : HoldsSet succeeded store)
    {colors : ColorTable} (hload : store.loadColors = .ok colors) :
    ShowsSet succeeded colors := by
  have hfind (canonical : String) : colors.find? canonical = lastColor? succeeded canonical :=
    (Store.find?_of_loadColors hload canonical).trans (h.color canonical)
  have hkeys (key : String) : key ∈ colors.keys ↔
      ∃ setting ∈ succeeded, Tag.canonicalize setting.tag = some key := by
    rw [Table.mem_keys_iff, hfind, ← Option.isSome_iff_exists, isSome_lastColor?_iff]
  refine ⟨colors.nodup_keys, hkeys, fun key hkey => ?_, fun tag fallback => ?_,
    fun tag fallback hblank => ?_⟩
  · obtain ⟨setting, -, hform⟩ := (hkeys key).mp hkey
    exact (Tag.normal_of_canonicalize hform).canonicalize
  · rw [ColorTable.colorFor]
    cases Tag.canonicalize tag with
    | none => rfl
    | some canonical => exact congrArg (·.getD fallback) (hfind canonical)
  · rw [ColorTable.colorFor, Tag.canonicalize, hblank]
    rfl

end TagLedger.Board
