import TagLedger.Proofs.Cache.LastColor
import TagLedger.Proofs.CommandLine.Load

/-!
# Colors from the command line

A command that sets a color announces it and then renders, like any consumer, from a cache of its
own.  The cache fetches through the store's file, so that what is reported is what was written, and
the project keeps it.  A command that lists colors reports the tags as they were asked for, each with
the color that the project has for it.
-/

namespace TagLedger

/-! ## Rendering -/

namespace CommandLine

theorem renderColors_eq_ok {now : String} {consumer : Nat} {board after : Board}
    {colors : ColorTable} (h : renderColors now consumer board = (.ok colors, after)) :
    board.render now consumer = (.ok colors, after) := by
  unfold renderColors at h
  split at h
  · next hrender =>
      cases h
      exact hrender
  · cases h

/-- A consumer that an announcement reaches fetches before it renders. -/
theorem fetches_of_announced {consumer : Nat} {board : Board} (hmounted : board.Mounted consumer)
    (announced : Board) (hbus : announced.bus = (board.bus.publish colorDataset).2) (now : String) :
    Board.Fetches { announced with bus := (announced.bus.take consumer colorDataset).2 }
      (announced.render now consumer).1 (announced.render now consumer).2 := by
  obtain ⟨queue, hqueue⟩ := Option.isSome_iff_exists.mp hmounted
  have hreached : announced.bus.queue? consumer = some (queue ++ [colorDataset]) := by
    rw [hbus, Cache.Bus.queue?_publish, hqueue]
    rfl
  rcases announced.render_cases now consumer with ⟨-, hfetches⟩ | ⟨hmissed, -⟩
  · exact hfetches
  · exact absurd ((Cache.Bus.take_eq_true_iff hreached _).mpr (by simp)) hmissed

/-- A color is set and announced, and then the consumer is given these colors: what the store had, with
the color that was set, after one more fetch. -/
structure RendersSet (now tag color canonical : String) (consumer : Nat) (board : Board)
    (colors : ColorTable) (rendered : Board) : Prop where
  form : Tag.canonicalize tag = some canonical
  through : ∃ announced, board.setColorAndInvalidate now tag color = (.ok canonical, announced) ∧
    announced.render now consumer = (.ok colors, rendered)
  fetched : rendered.cache.fetches = board.cache.fetches + 1
  stored : ∀ other, rendered.store.color? other =
    if other = canonical then some (Text.trim color) else board.store.color? other
  shown : ∀ other, colors.find? other = rendered.store.color? other

/-- A consumer that was mounted when the color was set is shown it. -/
theorem setColor_eq_ok {now tag color fallback : String} {consumer : Nat} {board rendered : Board}
    {rows : List ColorRow} (hmounted : board.Mounted consumer)
    (h : setColor now tag color fallback consumer board = (.ok rows, rendered)) :
    ∃ canonical colors, RendersSet now tag color canonical consumer board colors rendered ∧
      rows = [⟨canonical, colors.colorFor canonical fallback⟩] := by
  unfold setColor at h
  rcases board.setColorAndInvalidate_cases now tag color with
    ⟨error, hresult⟩ | ⟨canonical, store, hset, hresult⟩
  · rw [hresult] at h
    cases h
  · rw [hresult] at h
    dsimp only at h
    split at h
    · cases h
    · next colors after hrender =>
        cases h
        have hrender := renderColors_eq_ok hrender
        have hfetches := fetches_of_announced hmounted
          { board with store, bus := (board.bus.publish colorDataset).2 } rfl now
        rw [hrender] at hfetches
        have hkept (other : String) : rendered.store.color? other = store.color? other := by
          rw [Store.color?, hfetches.stored, Store.color?]
        refine ⟨canonical, colors, ⟨(Store.setColor_eq_ok hset).1, ⟨_, hresult, hrender⟩,
          hfetches.counted, fun other => ?_, fun other => ?_⟩, rfl⟩
        · rw [hkept, Store.color?_of_setColor hset]
        · rw [hkept, hfetches.read colors rfl]

theorem RendersSet.colorFor {now tag color canonical : String} {consumer : Nat}
    {board rendered : Board} {colors : ColorTable}
    (h : RendersSet now tag color canonical consumer board colors rendered) (fallback : String) :
    colors.colorFor canonical fallback = Text.trim color := by
  rw [Tag.colorFor_of_canonicalize (Tag.normal_of_canonicalize h.form).canonicalize, h.shown,
    h.stored, if_pos rfl]
  rfl

section Displaying

variable {sources : Sources} {workspace : Workspace}

end Displaying

end CommandLine

end TagLedger
