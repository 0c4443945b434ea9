import TagLedger.Cache.Colors
import TagLedger.Proofs.Cache.Outcomes
import TagLedger.Proofs.Cache.Signals
import TagLedger.Proofs.Store.Color

/-!
# Announced colors

Calls on one store, one bus and one color cache, one after the other.  A color that is set reaches
the store at once, every consumer that is mounted by a signal, and the shared snapshot only with the
next fetch.  So a render shows every color that was announced before, unless it is for a consumer
that no announcement has reached, nothing was fetched since, and there was a snapshot already: then
it shows that snapshot.
-/

namespace TagLedger.Board

open Cache

/-! ## Runs -/

inductive Move where
  | setColor (tag color now : String)
  | mount
  | unmount (consumer : Nat)
  | render (consumer : Nat) (now : String)
  | get (now : String)
  | refetch (now : String)

def apply (board : Board) : Move → Board
  | .setColor tag color now => (board.setColorAndInvalidate now tag color).2
  | .mount => board.mount.2
  | .unmount consumer => board.unmount consumer
  | .render consumer now => (board.render now consumer).2
  | .get now => (board.get now).2
  | .refetch now => (board.refetch now).2

def run (board : Board) (moves : List Move) : Board :=
  moves.foldl apply board

theorem run_concat (board : Board) (moves : List Move) (move : Move) :
    board.run (moves ++ [move]) = (board.run moves).apply move := by
  rw [run, List.foldl_append]
  rfl

def Mounted (board : Board) (consumer : Nat) : Prop :=
  (board.bus.queue? consumer).isSome

instance (board : Board) (consumer : Nat) : Decidable (board.Mounted consumer) :=
  inferInstanceAs (Decidable (_ = true))

/-- The canonical tag and the color that a move sets and announces. -/
def announcement? (board : Board) : Move → Option (String × String)
  | .setColor tag color now =>
      (board.setColorAndInvalidate now tag color).1.toOption.map fun canonical =>
        (canonical, Text.trim color)
  | _ => none

/-- What is set and announced in a run, in this order. -/
def announcements (board : Board) : List Move → List (String × String)
  | [] => []
  | move :: rest => (board.announcement? move).toList ++ (board.apply move).announcements rest

/-- Something is announced in the run while the consumer is mounted. -/
def Hears (consumer : Nat) (board : Board) : List Move → Prop
  | [] => False
  | move :: rest =>
      ((board.announcement? move).isSome ∧ board.Mounted consumer) ∨
        Hears consumer (board.apply move) rest

theorem announcements_concat (board : Board) (moves : List Move) (move : Move) :
    board.announcements (moves ++ [move]) =
      board.announcements moves ++ ((board.run moves).announcement? move).toList := by
  induction moves generalizing board with
  | nil => simp [announcements, run]
  | cons first rest ih =>
      rw [List.cons_append, announcements, ih, announcements, List.append_assoc]
      rfl

theorem hears_concat {consumer : Nat} {board : Board} {moves : List Move} {move : Move} :
    Hears consumer board (moves ++ [move]) ↔ Hears consumer board moves ∨
      ((board.run moves).announcement? move).isSome ∧ (board.run moves).Mounted consumer := by
  induction moves generalizing board with
  | nil => simp [Hears, run]
  | cons first rest ih =>
      rw [List.cons_append, Hears, ih, Hears, or_assoc]
      rfl

/-! ## Fetches -/

/-- The outcome of a fetch, and the board after it. -/
structure Fetches (board : Board) (fetched : Fetched ColorTable) (after : Board) : Prop where
  bus : after.bus = board.bus
  stored : after.store.colorTable = board.store.colorTable
  counted : after.cache.fetches = board.cache.fetches + 1
  snapshot : after.cache.snapshot = fetched.toOption
  read : ∀ colors, fetched = .ok colors → ∀ tag, colors.find? tag = board.store.color? tag

theorem tryOpenStore_cases (now : String) (store : Store) : ∃ opened after,
    (StoreFile.store store true).tryOpenStore now = (opened, .store after true) ∧
      after.colorTable = store.colorTable ∧ (opened = none ∨ opened = some after) := by
  have hmigrate := store.colorTable_migrate now
  simp only [StoreFile.tryOpenStore, StoreFile.openStore, StoreFile.migrateContent, Bool.not_true,
    Bool.false_and, Bool.false_eq_true, ↓reduceIte]
  cases hresult : store.migrate now with
  | mk result after =>
      rw [hresult] at hmigrate
      cases result with
      | error fault => exact ⟨none, after, rfl, hmigrate, Or.inl rfl⟩
      | ok version =>
          cases hmetadata : after.hasMetadata with
          | false => exact ⟨none, after, by simp [hmetadata], hmigrate, Or.inl rfl⟩
          | true => exact ⟨some after, after, by simp [hmetadata], hmigrate, Or.inr rfl⟩

theorem fetchColors_store (now path : String) (store : Store) :
    ∃ fetchEnd after, fetchColors now path (.store store true) = (fetchEnd, .store after true) ∧
      after.colorTable = store.colorTable ∧
      ∀ colors, fetchEnd = .succeeded colors → ∀ tag, colors.find? tag = store.color? tag := by
  obtain ⟨opened, after, hopen, hstored, rfl | rfl⟩ := tryOpenStore_cases now store
  · rw [fetchColors, hopen]
    exact ⟨.failed _, after, rfl, hstored, nofun⟩
  · simp only [fetchColors, hopen]
    cases hload : after.loadColors with
    | error error => exact ⟨.failed _, after, rfl, hstored, nofun⟩
    | ok colors =>
        refine ⟨.succeeded colors, after, rfl, hstored, fun other hother tag => ?_⟩
        cases hother
        rw [Store.find?_of_loadColors hload, Store.color?, hstored, Store.color?]

theorem fetch_cases (now : String) (board : Board) :
    ∃ fetchEnd after, board.fetch now = (fetchEnd, { board with store := after }) ∧
      after.colorTable = board.store.colorTable ∧
      ∀ colors, fetchEnd = .succeeded colors → ∀ tag, colors.find? tag = board.store.color? tag := by
  unfold fetch
  split
  · obtain ⟨fetchEnd, after, hfetch, hstored, hread⟩ := fetchColors_store now board.path board.store
    exact ⟨fetchEnd, after, by rw [hfetch]; rfl, hstored, hread⟩
  · exact ⟨_, board.store, rfl, rfl, nofun⟩

theorem lead_supersede (cache : Derived ColorTable) (fetchEnd : FetchEnd ColorTable) :
    ∃ fetched after, cache.supersede.2.lead cache.supersede.1 fetchEnd = (fetched, after) ∧
      fetched = fetchEnd.fetched cache.dataset ∧ after.fetches = cache.fetches + 1 ∧
      after.snapshot = fetched.toOption := by
  refine ⟨_, _, rfl, rfl, ?_, ?_⟩
  · simp [Derived.supersede, Derived.settle, Derived.handOut]
  · simp only [Derived.supersede, Derived.settle, Derived.handOut, Derived.snapshot, ↓reduceIte]
    cases fetchEnd.fetched cache.dataset <;> rfl

theorem fetches_refetch (board : Board) (now : String) :
    Fetches board (board.refetch now).1 (board.refetch now).2 := by
  obtain ⟨fetchEnd, stored, hfetch, hstored, hread⟩ :=
    { board with cache := board.cache.supersede.2 }.fetch_cases now
  obtain ⟨fetched, cache, hlead, hfetched, hcounted, hsnapshot⟩ :=
    lead_supersede board.cache fetchEnd
  have hrefetch : board.refetch now = (fetched, { board with store := stored, cache }) := by
    simp only [refetch, Board.lead, hfetch, hlead]
  rw [hrefetch]
  refine ⟨rfl, hstored, hcounted, hsnapshot, fun colors hcolors => hread colors ?_⟩
  exact FetchEnd.eq_succeeded_of_fetched (hcolors.symm.trans hfetched)

theorem get_of_snapshot {board : Board} {colors : ColorTable}
    (h : board.cache.snapshot = some colors) (now : String) :
    board.get now = (.ok colors, board) := by
  unfold get Derived.enter
  unfold Derived.snapshot at h
  split at h
  · next hslot =>
      cases h
      rw [hslot]
  · cases h

theorem fetches_get {board : Board} (h : board.cache.snapshot = none) (now : String) :
    Fetches board (board.get now).1 (board.get now).2 := by
  have hrefetch : board.get now = board.refetch now := by
    unfold Derived.snapshot at h
    unfold get Derived.enter
    cases hslot : board.cache.slot with
    | empty => rfl
    | loading flight => rfl
    | ready colors => simp [hslot] at h
  rw [hrefetch]
  exact board.fetches_refetch now

/-- A render for a consumer with a signal, or without a snapshot, fetches; any other one is given the
snapshot. -/
theorem render_cases (now : String) (consumer : Nat) (board : Board) :
    ((board.bus.take consumer colorDataset).1 = true ∨ board.cache.snapshot = none) ∧
        Fetches { board with bus := (board.bus.take consumer colorDataset).2 }
          (board.render now consumer).1 (board.render now consumer).2 ∨
      ¬ (board.bus.take consumer colorDataset).1 = true ∧
        ∃ colors, board.cache.snapshot = some colors ∧ board.render now consumer =
          (.ok colors, { board with bus := (board.bus.take consumer colorDataset).2 }) := by
  have hrender : board.render now consumer =
      if (board.bus.take consumer colorDataset).1 = true then
        { board with bus := (board.bus.take consumer colorDataset).2 }.refetch now
      else { board with bus := (board.bus.take consumer colorDataset).2 }.get now := rfl
  obtain ⟨listening, hlistening⟩ : ∃ listening,
      listening = { board with bus := (board.bus.take consumer colorDataset).2 } := ⟨_, rfl⟩
  have hcache : listening.cache = board.cache := by rw [hlistening]
  rw [hrender, ← hlistening, ← hcache]
  split
  · next hsignal => exact Or.inl ⟨Or.inl hsignal, listening.fetches_refetch now⟩
  · next hmissed =>
      cases hsnapshot : listening.cache.snapshot with
      | none => exact Or.inl ⟨Or.inr rfl, fetches_get hsnapshot now⟩
      | some colors => exact Or.inr ⟨hmissed, colors, rfl, get_of_snapshot hsnapshot now⟩

theorem bus_get (now : String) (board : Board) : (board.get now).2.bus = board.bus := by
  cases hsnapshot : board.cache.snapshot with
  | none => exact (fetches_get hsnapshot now).bus
  | some colors => rw [get_of_snapshot hsnapshot]

/-! ## Announcements -/

theorem setColorAndInvalidate_cases (now tag color : String) (board : Board) :
    (∃ error, board.setColorAndInvalidate now tag color = (.error error, board)) ∨
      ∃ canonical store, board.store.setColor now tag color = (.ok canonical, store) ∧
        board.setColorAndInvalidate now tag color =
          (.ok canonical, { board with store, bus := (board.bus.publish colorDataset).2 }) := by
  cases hset : board.setColorAndInvalidate now tag color with
  | mk result after =>
      cases result with
      | error error =>
          rw [allOrNothing_setColorAndInvalidate now tag color board error after hset]
          exact Or.inl ⟨error, rfl⟩
      | ok canonical =>
          unfold setColorAndInvalidate at hset
          split at hset
          · cases hset
          · next store hstore =>
              cases hset
              exact Or.inr ⟨canonical, store, hstore, rfl⟩

theorem numbered_apply {board : Board} (h : board.bus.Numbered) (move : Move) :
    (board.apply move).bus.Numbered := by
  cases move with
  | setColor tag color now =>
      rw [apply]
      rcases board.setColorAndInvalidate_cases now tag color with
        ⟨error, hresult⟩ | ⟨canonical, store, -, hresult⟩
      · rwa [hresult]
      · rw [hresult]
        exact h.publish colorDataset
  | mount => exact h.subscribe
  | unmount consumer => exact h.unsubscribe consumer
  | render consumer now =>
      rw [apply]
      rcases board.render_cases now consumer with ⟨-, hfetches⟩ | ⟨-, colors, -, hserved⟩
      · rw [hfetches.bus]
        exact h.take consumer colorDataset
      · rw [hserved]
        exact h.take consumer colorDataset
  | get now => rwa [apply, bus_get]
  | refetch now => rwa [apply, (board.fetches_refetch now).bus]

theorem numbered_run {board : Board} (h : board.bus.Numbered) (moves : List Move) :
    (board.run moves).bus.Numbered := by
  induction moves using List.reverseRecOn with
  | nil => exact h
  | append_singleton moves move ih =>
      rw [run_concat]
      exact numbered_apply ih move

/-- How things stand after a run from `origin` in which all this was announced, and `heard` is
whether the consumer was mounted at one of the announcements. -/
structure Since (tag : String) (consumer : Nat) (origin : Board)
    (announced : List (String × String)) (heard : Prop) (board : Board) : Prop where
  numbered : board.bus.Numbered
  stored : ∃ color, board.store.color? tag = some color ∧ (tag, color) ∈ announced
  counted : origin.cache.fetches ≤ board.cache.fetches
  kept : board.cache.fetches = origin.cache.fetches →
    board.cache.snapshot = origin.cache.snapshot
  fetched : origin.cache.fetches < board.cache.fetches →
    ∀ colors, board.cache.snapshot = some colors →
      ∃ color, colors.find? tag = some color ∧ (tag, color) ∈ announced
  number : heard → consumer < board.bus.next
  signal : heard → ∀ queue, board.bus.queue? consumer = some queue →
    colorDataset ∈ queue ∨ origin.cache.fetches < board.cache.fetches
  silent : ¬ heard → ∀ queue, board.bus.queue? consumer = some queue → queue = []

namespace Since

variable {tag : String} {consumer : Nat} {origin board : Board}
  {announced : List (String × String)} {heard : Prop}

theorem of_bus (h : Since tag consumer origin announced heard board) {bus : Bus}
    (hnumbered : bus.Numbered) (hnext : board.bus.next ≤ bus.next)
    (hsignal : heard → ∀ queue, bus.queue? consumer = some queue →
      colorDataset ∈ queue ∨ origin.cache.fetches < board.cache.fetches)
    (hsilent : ¬ heard → ∀ queue, bus.queue? consumer = some queue → queue = []) :
    Since tag consumer origin announced heard { board with bus } where
  numbered := hnumbered
  stored := h.stored
  counted := h.counted
  kept := h.kept
  fetched := h.fetched
  number hheard := Nat.lt_of_lt_of_le (h.number hheard) hnext
  signal := hsignal
  silent := hsilent

/-- A fetch reads every color that is set by then, whatever the consumer's queue holds. -/
theorem of_fetches (h : Since tag consumer origin announced heard board) {bus : Bus}
    {fetched : Fetched ColorTable} {after : Board}
    (hfetches : Fetches { board with bus } fetched after) (hnumbered : bus.Numbered)
    (hnext : board.bus.next ≤ bus.next)
    (hsilent : ¬ heard → ∀ queue, bus.queue? consumer = some queue → queue = []) :
    Since tag consumer origin announced heard after := by
  have hcounted : origin.cache.fetches < after.cache.fetches := by
    rw [hfetches.counted]
    exact Nat.lt_succ_of_le h.counted
  have hbus : after.bus = bus := hfetches.bus
  refine ⟨hbus ▸ hnumbered, ?_, Nat.le_of_lt hcounted, fun hsame => ?_, fun _ colors hcolors => ?_,
    fun hheard => ?_, fun _ _ _ => Or.inr hcounted, hbus ▸ hsilent⟩
  · rw [Store.color?, hfetches.stored]
    exact h.stored
  · exact absurd hsame (Nat.ne_of_gt hcounted)
  · obtain ⟨color, hcolor, hannounced⟩ := h.stored
    refine ⟨color, ?_, hannounced⟩
    rw [hfetches.read colors ?_ tag]
    · exact hcolor
    · rw [hfetches.snapshot] at hcolors
      cases fetched with
      | ok other => exact congrArg Except.ok (Option.some.inj hcolors)
      | error failure => cases hcolors
  · rw [hbus]
    exact Nat.lt_of_lt_of_le (h.number hheard) hnext

theorem mount (h : Since tag consumer origin announced heard board) :
    Since tag consumer origin announced heard board.mount.2 := by
  change Since tag consumer origin announced heard { board with bus := board.bus.subscribe.2 }
  refine h.of_bus h.numbered.subscribe (Nat.le_succ _) (fun hheard queue hqueue => ?_)
    fun hheard queue hqueue => ?_
  · rw [Bus.queue?_subscribe (Nat.ne_of_lt (h.number hheard))] at hqueue
    exact h.signal hheard queue hqueue
  · by_cases hnew : consumer = board.bus.next
    · subst hnew
      have hnone : board.bus.queue? board.bus.next = none := by
        rw [← Option.not_isSome_iff_eq_none]
        exact fun hqueue => Nat.lt_irrefl _ (h.numbered.lt_of_queue? hqueue)
      rw [Bus.queue?_subscribe_next hnone] at hqueue
      exact (Option.some.inj hqueue).symm
    · rw [Bus.queue?_subscribe hnew] at hqueue
      exact h.silent hheard queue hqueue

theorem unmount (h : Since tag consumer origin announced heard board) (other : Nat) :
    Since tag consumer origin announced heard (board.unmount other) := by
  have hkept : ∀ queue, (board.bus.unsubscribe other).queue? consumer = some queue →
      board.bus.queue? consumer = some queue := by
    intro queue hqueue
    by_cases hsame : consumer = other
    · subst hsame
      rw [Bus.queue?_unsubscribe] at hqueue
      cases hqueue
    · rwa [Bus.queue?_unsubscribe_of_ne _ hsame] at hqueue
  exact h.of_bus (h.numbered.unsubscribe other) (Nat.le_refl _)
    (fun hheard queue hqueue => h.signal hheard queue (hkept queue hqueue))
    fun hheard queue hqueue => h.silent hheard queue (hkept queue hqueue)

theorem get (h : Since tag consumer origin announced heard board) (now : String) :
    Since tag consumer origin announced heard (board.get now).2 := by
  cases hsnapshot : board.cache.snapshot with
  | none => exact h.of_fetches (fetches_get hsnapshot now) h.numbered (Nat.le_refl _) h.silent
  | some colors => rwa [get_of_snapshot hsnapshot]

theorem refetch (h : Since tag consumer origin announced heard board) (now : String) :
    Since tag consumer origin announced heard (board.refetch now).2 :=
  h.of_fetches (board.fetches_refetch now) h.numbered (Nat.le_refl _) h.silent

theorem silent_take (h : Since tag consumer origin announced heard board) (other : Nat) :
    ¬ heard → ∀ queue, (board.bus.take other colorDataset).2.queue? consumer = some queue →
      queue = [] := by
  intro hheard queue hqueue
  by_cases hsame : consumer = other
  · subst hsame
    rw [Bus.queue?_take, Option.map_eq_some_iff] at hqueue
    obtain ⟨-, -, rfl⟩ := hqueue
    rfl
  · rw [Bus.queue?_take_of_ne _ _ hsame] at hqueue
    exact h.silent hheard queue hqueue

/-- A consumer that finds no signal takes none that it was still to act upon. -/
theorem take (h : Since tag consumer origin announced heard board) {other : Nat}
    (hmissed : ¬ (board.bus.take other colorDataset).1 = true) :
    Since tag consumer origin announced heard
      { board with bus := (board.bus.take other colorDataset).2 } := by
  refine h.of_bus (h.numbered.take other colorDataset) (Nat.le_refl _)
    (fun hheard queue hqueue => ?_) (h.silent_take other)
  by_cases hsame : consumer = other
  · subst hsame
    rw [Bus.queue?_take, Option.map_eq_some_iff] at hqueue
    obtain ⟨old, hold, -⟩ := hqueue
    rw [Bus.take_eq_true_iff hold] at hmissed
    exact Or.inr ((h.signal hheard old hold).resolve_left hmissed)
  · rw [Bus.queue?_take_of_ne _ _ hsame] at hqueue
    exact h.signal hheard queue hqueue

theorem render (h : Since tag consumer origin announced heard board) (now : String) (other : Nat) :
    Since tag consumer origin announced heard (board.render now other).2 := by
  rcases board.render_cases now other with ⟨-, hfetches⟩ | ⟨hmissed, colors, -, hserved⟩
  · exact h.of_fetches hfetches (h.numbered.take other colorDataset) (Nat.le_refl _)
      (h.silent_take other)
  · rw [hserved]
    exact h.take hmissed

theorem start {now raw color : String} {store : Store} (hnumbered : origin.bus.Numbered)
    (hset : origin.store.setColor now raw color = (.ok tag, store)) :
    Since tag consumer origin [(tag, Text.trim color)] (origin.Mounted consumer)
      { origin with store, bus := (origin.bus.publish colorDataset).2 } where
  numbered := hnumbered.publish colorDataset
  stored := ⟨Text.trim color, by simp [Store.color?_of_setColor hset], List.mem_singleton_self _⟩
  counted := Nat.le_refl _
  kept _ := rfl
  fetched hlt := absurd hlt (Nat.lt_irrefl _)
  number hmounted := hnumbered.lt_of_queue? hmounted
  signal _ _ hqueue := Or.inl (Bus.mem_of_queue?_publish hqueue).1
  silent hmissed _ hqueue := absurd (Bus.mem_of_queue?_publish hqueue).2 hmissed

theorem announce (h : Since tag consumer origin announced heard board)
    {now raw color canonical : String} {store : Store}
    (hset : board.store.setColor now raw color = (.ok canonical, store)) :
    Since tag consumer origin (announced ++ [(canonical, Text.trim color)])
      (heard ∨ board.Mounted consumer)
      { board with store, bus := (board.bus.publish colorDataset).2 } where
  numbered := h.numbered.publish colorDataset
  stored := by
    rw [Store.color?_of_setColor hset]
    split
    · next hsame =>
        subst hsame
        exact ⟨Text.trim color, rfl, by simp⟩
    · obtain ⟨old, hold, hannounced⟩ := h.stored
      exact ⟨old, hold, List.mem_append_left _ hannounced⟩
  counted := h.counted
  kept := h.kept
  fetched hlt colors hcolors := by
    obtain ⟨old, hold, hannounced⟩ := h.fetched hlt colors hcolors
    exact ⟨old, hold, List.mem_append_left _ hannounced⟩
  number hheard := hheard.elim h.number h.numbered.lt_of_queue?
  signal _ _ hqueue := Or.inl (Bus.mem_of_queue?_publish hqueue).1
  silent hmissed _ hqueue := absurd (Or.inr (Bus.mem_of_queue?_publish hqueue).2) hmissed

theorem step (h : Since tag consumer origin announced heard board) (move : Move) :
    Since tag consumer origin (announced ++ (board.announcement? move).toList)
      (heard ∨ (board.announcement? move).isSome ∧ board.Mounted consumer)
      (board.apply move) := by
  cases move with
  | setColor raw color now =>
      rcases board.setColorAndInvalidate_cases now raw color with
        ⟨error, hresult⟩ | ⟨canonical, store, hset, hresult⟩
      · simpa [announcement?, apply, hresult, Except.toOption] using h
      · simpa [announcement?, apply, hresult, Except.toOption] using h.announce hset
  | mount => simpa [announcement?, apply] using h.mount
  | unmount other => simpa [announcement?, apply] using h.unmount other
  | render other now => simpa [announcement?, apply] using h.render now other
  | get now => simpa [announcement?, apply] using h.get now
  | refetch now => simpa [announcement?, apply] using h.refetch now

/-- The first move announces a color for the tag. -/
theorem run {now raw color : String} {written : Board} (hnumbered : origin.bus.Numbered)
    (hwrite : origin.setColorAndInvalidate now raw color = (.ok tag, written))
    (moves : List Move) :
    Since tag consumer origin (origin.announcements (.setColor raw color now :: moves))
      (Hears consumer origin (.setColor raw color now :: moves))
      (origin.run (.setColor raw color now :: moves)) := by
  induction moves using List.reverseRecOn with
  | nil =>
      rcases origin.setColorAndInvalidate_cases now raw color with
        ⟨error, hresult⟩ | ⟨canonical, store, hset, hresult⟩
      · rw [hresult] at hwrite
        cases hwrite
      · rw [hresult] at hwrite
        cases hwrite
        simpa [announcements, announcement?, Hears, Board.run, apply, hresult, Except.toOption]
          using start hnumbered hset
  | append_singleton moves move ih =>
      rw [← List.cons_append, announcements_concat, run_concat, propext hears_concat]
      exact ih.step move

end Since

/-- The consumer has come too late for what is announced in the run: it was mounted at none of the
announcements, and the snapshot from before them is still there, as nothing was fetched since. -/
structure Late (consumer : Nat) (origin : Board) (moves : List Move) : Prop where
  unheard : ¬ Hears consumer origin moves
  unfetched : (origin.run moves).cache.fetches = origin.cache.fetches
  held : origin.cache.snapshot.isSome

section Renders

variable {tag : String} {consumer : Nat} {origin board after : Board}
  {announced : List (String × String)} {heard : Prop} {now : String} {colors : ColorTable}

theorem Since.render_of_timely (h : Since tag consumer origin announced heard board)
    (hmounted : board.Mounted consumer)
    (htimely : heard ∨ board.cache.fetches ≠ origin.cache.fetches ∨ origin.cache.snapshot = none)
    (hrender : board.render now consumer = (.ok colors, after)) :
    ∃ color, colors.find? tag = some color ∧ (tag, color) ∈ announced := by
  obtain ⟨queue, hqueue⟩ := Option.isSome_iff_exists.mp hmounted
  rcases board.render_cases now consumer with ⟨-, hfetches⟩ | ⟨hmissed, held, hsnapshot, hserved⟩
  · rw [hrender] at hfetches
    obtain ⟨color, hcolor, hannounced⟩ := h.stored
    exact ⟨color, (hfetches.read colors rfl tag).trans hcolor, hannounced⟩
  · rw [hserved] at hrender
    cases hrender
    rw [Bus.take_eq_true_iff hqueue] at hmissed
    -- Had nothing been fetched since, the snapshot and the empty queue would leave no way out.
    refine h.fetched (Nat.lt_of_le_of_ne h.counted fun hsame => ?_) colors hsnapshot
    rcases htimely with hheard | hfetched | hempty
    · rcases h.signal hheard queue hqueue with hqueued | hlt
      · exact hmissed hqueued
      · exact Nat.ne_of_lt hlt hsame
    · exact hfetched hsame.symm
    · rw [h.kept hsame.symm, hempty] at hsnapshot
      cases hsnapshot

theorem Since.render_of_late (h : Since tag consumer origin announced heard board)
    (hmounted : board.Mounted consumer) (hheard : ¬ heard)
    (hfetches : board.cache.fetches = origin.cache.fetches)
    (hheld : origin.cache.snapshot.isSome)
    (hrender : board.render now consumer = (.ok colors, after)) :
    origin.cache.snapshot = some colors := by
  obtain ⟨queue, hqueue⟩ := Option.isSome_iff_exists.mp hmounted
  rcases board.render_cases now consumer with
    ⟨hsignal | hempty, -⟩ | ⟨-, held, hsnapshot, hserved⟩
  · rw [Bus.take_eq_true_iff hqueue, h.silent hheard queue hqueue] at hsignal
    cases hsignal
  · rw [← h.kept hfetches, hempty] at hheld
    cases hheld
  · rw [hserved] at hrender
    cases hrender
    exact (h.kept hfetches).symm.trans hsnapshot

end Renders

/-- Whatever calls come before and after: once a color was set and announced, every render of a
mounted consumer that succeeds shows that color or one that was announced for the tag later, unless
the consumer has come too late; then it shows the snapshot from before the announcement. -/
theorem announced_color_shown (path cachePath : String) (store : Store) (before after : List Move)
    {raw color now tag : String} {written final : Board} {consumer : Nat} {later : String}
    {colors : ColorTable} :
    let origin := (Board.new path cachePath store).run before
    let moves := .setColor raw color now :: after
    origin.setColorAndInvalidate now raw color = (.ok tag, written) →
    (origin.run moves).Mounted consumer →
    (origin.run moves).render later consumer = (.ok colors, final) →
      (¬ Late consumer origin moves →
        ∃ shown, colors.find? tag = some shown ∧ (tag, shown) ∈ origin.announcements moves) ∧
      (Late consumer origin moves → origin.cache.snapshot = some colors) := by
  intro origin moves hwrite hmounted hrender
  have hnumbered : origin.bus.Numbered := numbered_run Bus.numbered_empty before
  have hsince : Since tag consumer origin _ _ (origin.run moves) :=
    Since.run hnumbered hwrite after
  refine ⟨fun hlate => ?_, fun hlate => ?_⟩
  · refine hsince.render_of_timely hmounted ?_ hrender
    by_contra htimely
    simp only [not_or, ne_eq, not_not, ← Option.isSome_iff_ne_none] at htimely
    exact hlate ⟨htimely.1, htimely.2.1, htimely.2.2⟩
  · exact hsince.render_of_late hmounted hlate.unheard hlate.unfetched hlate.held hrender

def migrated : Board :=
  .new "path" "path" (Store.blank.migrate "t0").2

/-- One consumer is mounted, and its render leaves a snapshot. -/
def firstRender : List Move :=
  [.setColor "vip" "#111111" "t1", .mount, .render 0 "t2"]

/-- A consumer that is mounted after the second announcement is shown the first color. -/
theorem late_consumer_shown_stale : ¬ ∀ (path : String) (store : Store) (before after : List Move)
    (raw color now tag : String) (written final : Board) (consumer : Nat) (later : String)
    (colors : ColorTable),
    let origin := (Board.new path path store).run before
    let moves := .setColor raw color now :: after
    origin.setColorAndInvalidate now raw color = (.ok tag, written) →
    (origin.run moves).Mounted consumer →
    (origin.run moves).render later consumer = (.ok colors, final) →
      ∃ shown, colors.find? tag = some shown ∧ (tag, shown) ∈ origin.announcements moves := by
  intro h
  have hannounced : (migrated.run firstRender).announcements
      [.setColor "vip" "#222222" "t3", .mount] = [("vip", "#222222")] := by
    decide +kernel
  have hstale : ∃ colors final,
      ((migrated.run firstRender).run [.setColor "vip" "#222222" "t3", .mount]).render "t4" 1 =
        (.ok colors, final) ∧ colors.find? "vip" = some "#111111" :=
    ⟨_, _, rfl, by decide +kernel⟩
  obtain ⟨colors, final, hrender, hstale⟩ := hstale
  obtain ⟨shown, hcolor, hmem⟩ := h "path" (Store.blank.migrate "t0").2 firstRender [.mount] "vip"
    "#222222" "t3" "vip" _ final 1 "t4" colors rfl (by decide +kernel) hrender
  rw [migrated] at hannounced
  rw [hannounced, List.mem_singleton, Prod.mk.injEq] at hmem
  rw [hstale, hmem.2] at hcolor
  exact absurd hcolor (by decide)

/-- The same consumer is reached by the next announcement, whatever the spelling of the tag. -/
theorem next_announcement_shown : ∃ colors final,
    ((migrated.run firstRender).run [.setColor "vip" "#222222" "t3", .mount,
      .setColor " VIP" "#333333 " "t4"]).render "t5" 1 = (.ok colors, final) ∧
    ∃ shown, colors.find? "vip" = some shown ∧
      ("vip", shown) ∈ [("vip", "#222222"), ("vip", "#333333")] := by
  have hannounced : (migrated.run firstRender).announcements [.setColor "vip" "#222222" "t3",
      .mount, .setColor " VIP" "#333333 " "t4"] = [("vip", "#222222"), ("vip", "#333333")] := by
    decide +kernel
  obtain ⟨written, hwrite⟩ : ∃ written, (migrated.run firstRender).setColorAndInvalidate "t3"
      "vip" "#222222" = (.ok "vip", written) := ⟨_, rfl⟩
  obtain ⟨colors, final, hrender⟩ : ∃ colors final,
      ((migrated.run firstRender).run [.setColor "vip" "#222222" "t3", .mount,
        .setColor " VIP" "#333333 " "t4"]).render "t5" 1 = (.ok colors, final) := ⟨_, _, rfl⟩
  refine ⟨colors, final, hrender, ?_⟩
  rw [← hannounced]
  refine (announced_color_shown "path" "path" (Store.blank.migrate "t0").2 firstRender
    [.mount, .setColor " VIP" "#333333 " "t4"] hwrite (by decide +kernel) hrender).1 fun hlate => ?_
  exact hlate.unheard (Or.inr (Or.inr (Or.inl ⟨by decide +kernel, by decide +kernel⟩)))

end TagLedger.Board
