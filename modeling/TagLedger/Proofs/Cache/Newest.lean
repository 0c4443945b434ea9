import TagLedger.Proofs.Cache.Outcomes

/-!
# The newest flight owns the slot

Flights may overlap, because a caller may supersede a flight under way, and they may be settled in
any order.  Whatever the order, the slot tells how it stands with the flight that was placed in it
last: it is loading until that flight is settled, and then holds its value, or nothing if it failed.
-/

namespace TagLedger.Cache

variable {α : Type}

def Event.placed? : Event α → Option Nat
  | .placed flight => some flight
  | _ => none

/-- The flight that was placed in the slot last. -/
def newest? (events : List (Event α)) : Option Nat :=
  (events.filterMap Event.placed?).getLast?

def Phase.unsettled? : Phase α → Option Nat
  | .leading flight | .fetching flight _ | .ended flight _ => some flight
  | _ => none

namespace System

def unsettled? (system : System α) (caller : Nat) : Option Nat :=
  (system.callers[caller]?).bind Phase.unsettled?

theorem unsettled?_of_phase {system : System α} {caller flight : Nat} {phase : Phase α}
    (hphase : system.callers[caller]? = some phase) (hunsettled : phase.unsettled? = some flight) :
    system.unsettled? caller = some flight := by
  rw [unsettled?, hphase, Option.bind_some, hunsettled]

theorem unsettled?_set {system : System α} {caller : Nat} {old : Phase α}
    (hphase : system.callers[caller]? = some old) (cache : Derived α) (bus : Bus) (phase : Phase α)
    (other : Nat) :
    (⟨cache, bus, system.callers.set caller phase⟩ : System α).unsettled? other =
      if caller = other then phase.unsettled? else system.unsettled? other :=
  view_of_set hphase Phase.unsettled? phase other

theorem unsettled?_set_of_eq {system : System α} {caller : Nat} {old phase : Phase α}
    (hphase : system.callers[caller]? = some old) (hsame : phase.unsettled? = old.unsettled?)
    (cache : Derived α) (bus : Bus) (other : Nat) :
    (⟨cache, bus, system.callers.set caller phase⟩ : System α).unsettled? other =
      system.unsettled? other :=
  view_of_set_of_eq hphase hsame other

theorem unsettled?_concat (system : System α) (cache : Derived α) (bus : Bus) (request : Request)
    (caller : Nat) :
    (⟨cache, bus, system.callers ++ [.requested request]⟩ : System α).unsettled? caller =
      system.unsettled? caller :=
  view_of_concat system.callers rfl caller

end System

/-- How the slot stands with the last of the flights. -/
def SlotAgrees (cache : Derived α) (events : List (Event α)) : Prop :=
  match cache.slot with
  | .empty => ∀ flight, flight + 1 = cache.flights.length →
      ∃ failure, .settled flight (.error failure) ∈ events
  | .loading flight =>
      flight + 1 = cache.flights.length ∧ ∀ fetched, .settled flight fetched ∉ events
  | .ready value =>
      ∃ flight, flight + 1 = cache.flights.length ∧ .settled flight (.ok value) ∈ events

/-- Flights are numbered in the order in which they were placed; each is settled once, by the one
caller that leads it. -/
structure Consistent (system : System α) (events : List (Event α)) : Prop where
  placed : events.filterMap Event.placed? = List.range system.cache.flights.length
  unsettled : ∀ {caller flight}, system.unsettled? caller = some flight →
    flight < system.cache.flights.length ∧ ∀ fetched, .settled flight fetched ∉ events
  single : ∀ {caller other flight}, system.unsettled? caller = some flight →
    system.unsettled? other = some flight → caller = other
  settled : ∀ {flight fetched}, .settled flight fetched ∈ events →
    flight < system.cache.flights.length
  once : ∀ {flight fetched other}, .settled flight fetched ∈ events →
    .settled flight other ∈ events → fetched = other
  slot : SlotAgrees system.cache events

namespace Consistent

variable {system next : System α} {events : List (Event α)}

theorem new (dataset : String) : Consistent (System.new dataset : System α) [] where
  placed := rfl
  unsettled h := by simp [System.unsettled?, System.new] at h
  single h := by simp [System.unsettled?, System.new] at h
  settled h := by cases h
  once h := by cases h
  slot flight h := by simp [System.new, Derived.new] at h

theorem empty (h : Consistent system events) (hslot : system.cache.slot = .empty) :
    ∀ flight, flight + 1 = system.cache.flights.length →
      ∃ failure, .settled flight (.error failure) ∈ events := by
  have hagrees := h.slot
  rwa [SlotAgrees, hslot] at hagrees

theorem loading (h : Consistent system events) {flight : Nat}
    (hslot : system.cache.slot = .loading flight) :
    flight + 1 = system.cache.flights.length ∧ ∀ fetched, .settled flight fetched ∉ events := by
  have hagrees := h.slot
  rwa [SlotAgrees, hslot] at hagrees

theorem ready (h : Consistent system events) {value : α}
    (hslot : system.cache.slot = .ready value) :
    ∃ flight, flight + 1 = system.cache.flights.length ∧ .settled flight (.ok value) ∈ events := by
  have hagrees := h.slot
  rwa [SlotAgrees, hslot] at hagrees

theorem of_same (h : Consistent system events) {event : Option (Event α)}
    (hunsettled : ∀ caller, next.unsettled? caller = system.unsettled? caller)
    (hslot : next.cache.slot = system.cache.slot)
    (hlength : next.cache.flights.length = system.cache.flights.length)
    (hplaced : event.bind Event.placed? = none)
    (hsettled : ∀ flight fetched, event ≠ some (.settled flight fetched)) :
    Consistent next (events ++ event.toList) := by
  have hmem (flight : Nat) (fetched : Fetched α) :
      .settled flight fetched ∈ events ++ event.toList ↔ .settled flight fetched ∈ events := by
    simp [hsettled flight fetched]
  have hnone : event.toList.filterMap Event.placed? = [] := by
    cases event <;> simp_all
  refine ⟨?_, ?_, ?_, ?_, ?_, ?_⟩
  · rw [List.filterMap_append, h.placed, hnone, List.append_nil, hlength]
  · intro caller flight hflight
    rw [hunsettled] at hflight
    simpa only [hlength, hmem] using h.unsettled hflight
  · intro caller other flight hflight hother
    rw [hunsettled] at hflight hother
    exact h.single hflight hother
  · intro flight fetched hfetched
    rw [hlength]
    exact h.settled ((hmem flight fetched).mp hfetched)
  · intro flight fetched other hfetched hother
    exact h.once ((hmem flight fetched).mp hfetched) ((hmem flight other).mp hother)
  · simpa only [SlotAgrees, hslot, hlength, hmem] using h.slot

theorem place (h : Consistent system events) {caller : Nat} {old : Phase α}
    (hphase : system.callers[caller]? = some old) :
    Consistent ⟨system.cache.supersede.2, system.bus,
        system.callers.set caller (.leading system.cache.flights.length)⟩
      (events ++ [.placed system.cache.flights.length]) := by
  have hmem (flight : Nat) (fetched : Fetched α) :
      .settled flight fetched ∈ events ++ [.placed system.cache.flights.length] ↔
        .settled flight fetched ∈ events := by
    simp
  have hnew (fetched : Fetched α) : .settled system.cache.flights.length fetched ∉ events :=
    fun hsettled => Nat.lt_irrefl _ (h.settled hsettled)
  have hlength : system.cache.supersede.2.flights.length = system.cache.flights.length + 1 := by
    simp [Derived.supersede]
  have hunsettled := System.unsettled?_set hphase system.cache.supersede.2 system.bus
    (.leading system.cache.flights.length)
  refine ⟨?_, ?_, ?_, ?_, ?_, ?_⟩
  · rw [hlength, List.range_succ, List.filterMap_append, h.placed]
    rfl
  · intro other flight hflight
    simp only [hmem, hlength]
    rw [hunsettled] at hflight
    split at hflight
    · obtain rfl := Option.some.inj hflight
      exact ⟨Nat.lt_succ_self _, hnew⟩
    · have hold := h.unsettled hflight
      exact ⟨Nat.lt_succ_of_lt hold.1, hold.2⟩
  · intro first second flight hfirst hsecond
    rw [hunsettled] at hfirst hsecond
    split at hfirst
    · obtain rfl := Option.some.inj hfirst
      split at hsecond
      · simp_all
      · exact absurd (h.unsettled hsecond).1 (Nat.lt_irrefl _)
    · split at hsecond
      · obtain rfl := Option.some.inj hsecond
        exact absurd (h.unsettled hfirst).1 (Nat.lt_irrefl _)
      · exact h.single hfirst hsecond
  · intro flight fetched hsettled
    rw [hlength]
    exact Nat.lt_succ_of_lt (h.settled ((hmem flight fetched).mp hsettled))
  · intro flight fetched other hfetched hother
    exact h.once ((hmem flight fetched).mp hfetched) ((hmem flight other).mp hother)
  · exact ⟨hlength.symm, fun fetched => (hmem _ fetched).not.mpr (hnew fetched)⟩

theorem slotAgrees_settle (h : Consistent system events) (flight : Nat) (fetched : Fetched α) :
    SlotAgrees (system.cache.settle flight fetched) (events ++ [.settled flight fetched]) := by
  by_cases hslot : system.cache.slot = .loading flight
  · have hnewest := (h.loading hslot).1
    rw [Derived.settle_of_loading hslot]
    cases fetched with
    | ok value => exact ⟨flight, hnewest, by simp⟩
    | error failure =>
        intro other hother
        obtain rfl : other = flight := Nat.succ.inj (hother.trans hnewest.symm)
        exact ⟨failure, by simp⟩
  · rw [Derived.settle_of_ne hslot]
    unfold SlotAgrees
    split
    · next hempty =>
        intro other hother
        obtain ⟨failure, hfailure⟩ := h.empty hempty other hother
        exact ⟨failure, List.mem_append_left _ hfailure⟩
    · next current hloading =>
        obtain ⟨hnewest, hunsettled⟩ := h.loading hloading
        refine ⟨hnewest, fun outcome hmem => ?_⟩
        rcases List.mem_append.mp hmem with hold | hnew
        · exact hunsettled outcome hold
        · cases List.mem_singleton.mp hnew
          exact hslot hloading
    · next value hready =>
        obtain ⟨newest, hnewest, hvalue⟩ := h.ready hready
        exact ⟨newest, hnewest, List.mem_append_left _ hvalue⟩

theorem settle (h : Consistent system events) {caller flight : Nat} {fetched : Fetched α}
    (hphase : system.callers[caller]? = some (.ended flight fetched)) :
    Consistent ⟨system.cache.settle flight fetched, system.bus,
        system.callers.set caller (.settled flight fetched)⟩
      (events ++ [.settled flight fetched]) := by
  have hmem {other : Nat} {outcome : Fetched α}
      (hother : .settled other outcome ∈ events ++ [.settled flight fetched]) :
      .settled other outcome ∈ events ∨ other = flight ∧ outcome = fetched := by
    simpa using hother
  have hleads : system.unsettled? caller = some flight := System.unsettled?_of_phase hphase rfl
  have hlt := (h.unsettled hleads).1
  have hunsettled := (h.unsettled hleads).2
  have hset := System.unsettled?_set hphase (system.cache.settle flight fetched) system.bus
    (.settled flight fetched)
  -- Whoever else leads a flight leads another one.
  have hothers {other led : Nat}
      (hled : (⟨system.cache.settle flight fetched, system.bus,
        system.callers.set caller (.settled flight fetched)⟩ : System α).unsettled? other =
          some led) : system.unsettled? other = some led ∧ led ≠ flight := by
    rw [hset] at hled
    split at hled
    · cases hled
    · next hne =>
        refine ⟨hled, ?_⟩
        rintro rfl
        exact hne (h.single hleads hled)
  refine ⟨?_, ?_, ?_, ?_, ?_, h.slotAgrees_settle flight fetched⟩
  · rw [List.filterMap_append, h.placed, Derived.flights_settle]
    exact List.append_nil _
  · intro other led hled
    obtain ⟨hold, hne⟩ := hothers hled
    rw [Derived.flights_settle]
    refine ⟨(h.unsettled hold).1, fun outcome hsettled => ?_⟩
    rcases hmem hsettled with hbefore | ⟨heq, -⟩
    · exact (h.unsettled hold).2 outcome hbefore
    · exact hne heq
  · intro first second led hfirst hsecond
    exact h.single (hothers hfirst).1 (hothers hsecond).1
  · intro other outcome hsettled
    rw [Derived.flights_settle]
    rcases hmem hsettled with hbefore | ⟨rfl, -⟩
    · exact h.settled hbefore
    · exact hlt
  · intro other outcome otherOutcome hfirst hsecond
    rcases hmem hfirst with hbefore | ⟨rfl, rfl⟩
    · rcases hmem hsecond with hbefore' | ⟨rfl, -⟩
      · exact h.once hbefore hbefore'
      · exact absurd hbefore (hunsettled outcome)
    · rcases hmem hsecond with hbefore | ⟨-, heq⟩
      · exact absurd hbefore (hunsettled otherOutcome)
      · exact heq.symm

theorem step (h : Consistent system events) {move : System.Move α} {event : Option (Event α)}
    (hstep : system.Step move event next) : Consistent next (events ++ event.toList) := by
  cases hstep with
  | call request =>
      exact h.of_same (system.unsettled?_concat system.cache system.bus request) rfl rfl rfl nofun
  | publish dataset => exact h.of_same (fun _ => rfl) rfl rfl rfl nofun
  | subscribe => exact h.of_same (fun _ => rfl) rfl rfl rfl nofun
  | unsubscribe subscriber => exact h.of_same (fun _ => rfl) rfl rfl rfl nofun
  | look hphase =>
      exact h.of_same (fun _ => System.unsettled?_set_of_eq hphase (by rfl) ..) rfl rfl rfl nofun
  | serve hphase hslot =>
      exact h.of_same (fun _ => System.unsettled?_set_of_eq hphase (by rfl) ..) rfl rfl rfl nofun
  | join hphase hslot =>
      exact h.of_same (fun _ => System.unsettled?_set_of_eq hphase (by rfl) ..) rfl
        (Derived.length_withFlight ..) rfl nofun
  | place hphase hrequest => exact h.place hphase
  | begin hphase =>
      exact h.of_same (fun _ => System.unsettled?_set_of_eq hphase (by rfl) ..) rfl rfl rfl nofun
  | finish fetchEnd hphase =>
      exact h.of_same (fun _ => System.unsettled?_set_of_eq hphase (by rfl) ..) rfl rfl rfl nofun
  | settle hphase => exact h.settle hphase
  | handOut hphase =>
      exact h.of_same (fun _ => System.unsettled?_set_of_eq hphase (by rfl) ..) rfl
        (Derived.length_withFlight ..) rfl nofun
  | collect hphase houtcome =>
      exact h.of_same (fun _ => System.unsettled?_set_of_eq hphase (by rfl) ..) rfl
        (Derived.length_withFlight ..) rfl nofun

theorem run {dataset : String} {moves : List (System.Move α)}
    (hrun : (System.new dataset).run moves = some system) :
    Consistent system ((System.new dataset).events moves) := by
  refine System.run_induction (motive := fun moves system =>
    Consistent system ((System.new dataset).events moves)) (new dataset) ?_ hrun
  intro moves system move next hrun h happly
  rw [System.events_concat hrun happly]
  exact h.step (System.step_of_apply happly)

theorem newest?_eq_some_iff (h : Consistent system events) {flight : Nat} :
    newest? events = some flight ↔ flight + 1 = system.cache.flights.length := by
  rw [newest?, h.placed, List.getLast?_range]
  split
  · simp_all
  · simp only [Option.some.injEq]
    omega

theorem newest?_eq_none_iff (h : Consistent system events) :
    newest? events = none ↔ system.cache.flights.length = 0 := by
  rw [newest?, h.placed, List.getLast?_eq_none_iff, List.range_eq_nil]

theorem state_eq_empty_iff (h : Consistent system events) :
    system.cache.state = .empty ↔ newest? events = none ∨
      ∃ flight failure, newest? events = some flight ∧ .settled flight (.error failure) ∈ events := by
  simp only [h.newest?_eq_none_iff, h.newest?_eq_some_iff]
  unfold Derived.state
  cases hslot : system.cache.slot with
  | empty =>
      simp only [true_iff]
      by_cases hnone : system.cache.flights.length = 0
      · exact Or.inl hnone
      · obtain ⟨failure, hfailure⟩ := h.empty hslot (system.cache.flights.length - 1) (by omega)
        exact Or.inr ⟨_, failure, by omega, hfailure⟩
  | loading flight =>
      obtain ⟨hflight, hunsettled⟩ := h.loading hslot
      refine iff_of_false nofun ?_
      rintro (hnone | ⟨newest, failure, hnewest, hfailure⟩)
      · omega
      · obtain rfl : newest = flight := by omega
        exact hunsettled _ hfailure
  | ready value =>
      obtain ⟨flight, hflight, hvalue⟩ := h.ready hslot
      refine iff_of_false nofun ?_
      rintro (hnone | ⟨newest, failure, hnewest, hfailure⟩)
      · omega
      · obtain rfl : newest = flight := by omega
        cases h.once hvalue hfailure

theorem state_eq_loading_iff (h : Consistent system events) :
    system.cache.state = .loading ↔
      ∃ flight, newest? events = some flight ∧ ∀ fetched, .settled flight fetched ∉ events := by
  simp only [h.newest?_eq_some_iff]
  unfold Derived.state
  cases hslot : system.cache.slot with
  | empty =>
      refine iff_of_false nofun ?_
      rintro ⟨flight, hflight, hunsettled⟩
      obtain ⟨failure, hfailure⟩ := h.empty hslot flight hflight
      exact hunsettled _ hfailure
  | loading flight => exact iff_of_true rfl ⟨flight, h.loading hslot⟩
  | ready value =>
      obtain ⟨flight, hflight, hvalue⟩ := h.ready hslot
      refine iff_of_false nofun ?_
      rintro ⟨newest, hnewest, hunsettled⟩
      obtain rfl : newest = flight := by omega
      exact hunsettled _ hvalue

theorem snapshot_eq_some_iff (h : Consistent system events) {value : α} :
    system.cache.snapshot = some value ↔
      ∃ flight, newest? events = some flight ∧ .settled flight (.ok value) ∈ events := by
  simp only [h.newest?_eq_some_iff]
  unfold Derived.snapshot
  cases hslot : system.cache.slot with
  | empty =>
      refine iff_of_false nofun ?_
      rintro ⟨flight, hflight, hvalue⟩
      obtain ⟨failure, hfailure⟩ := h.empty hslot flight hflight
      cases h.once hvalue hfailure
  | loading flight =>
      obtain ⟨hflight, hunsettled⟩ := h.loading hslot
      refine iff_of_false nofun ?_
      rintro ⟨newest, hnewest, hvalue⟩
      obtain rfl : newest = flight := by omega
      exact hunsettled _ hvalue
  | ready held =>
      obtain ⟨flight, hflight, hheld⟩ := h.ready hslot
      constructor
      · intro hsame
        cases hsame
        exact ⟨flight, hflight, hheld⟩
      · rintro ⟨newest, hnewest, hvalue⟩
        obtain rfl : newest = flight := by omega
        cases h.once hheld hvalue
        rfl

theorem slot_of_superseded (h : Consistent system events) {move : System.Move α} {flight : Nat}
    {fetched : Fetched α} (hstep : system.Step move (some (.settled flight fetched)) next)
    (hsuperseded : newest? events ≠ some flight) : next.cache.slot = system.cache.slot := by
  cases hstep with
  | settle hphase =>
      have hslot : system.cache.slot ≠ .loading flight := by
        intro hloading
        exact hsuperseded (h.newest?_eq_some_iff.mpr (h.loading hloading).1)
      rw [Derived.settle_of_ne hslot]

end Consistent

theorem Derived.state_of_snapshot {cache : Derived α} {value : α}
    (h : cache.snapshot = some value) : cache.state = .ready := by
  unfold snapshot at h
  unfold state
  split at h
  · next hslot => rw [hslot]
  · cases h

/-- In every state that can be reached, the slot tells how it stands with the flight placed in it
last.  Settling another flight changes nothing that can be seen, and whatever is seen after a
failure was fetched by a newer flight. -/
theorem slot_of_newest_flight {dataset : String} {moves : List (System.Move α)} {system : System α}
    (hrun : (System.new dataset).run moves = some system) :
    let events := (System.new dataset).events moves
    (system.cache.state = .empty ↔ newest? events = none ∨
      ∃ flight failure, newest? events = some flight ∧ .settled flight (.error failure) ∈ events) ∧
    (system.cache.state = .loading ↔
      ∃ flight, newest? events = some flight ∧ ∀ fetched, .settled flight fetched ∉ events) ∧
    (∀ value, system.cache.state = .ready ∧ system.cache.snapshot = some value ↔
      ∃ flight, newest? events = some flight ∧ .settled flight (.ok value) ∈ events) ∧
    (∀ flight fetched, .settled flight fetched ∈ events → Produced dataset events flight fetched) ∧
    (∀ move next flight fetched, system.apply move = some next →
      system.eventOf move = some (.settled flight fetched) → newest? events ≠ some flight →
      next.cache.state = system.cache.state ∧ next.cache.snapshot = system.cache.snapshot) ∧
    (∀ flight failure value, .settled flight (.error failure) ∈ events →
      system.cache.snapshot = some value →
      ∃ newer, newest? events = some newer ∧ flight < newer ∧
        .settled newer (.ok value) ∈ events) := by
  intro events
  have h := Consistent.run hrun
  have htraced := (Traced.new dataset).run hrun
  refine ⟨h.state_eq_empty_iff, h.state_eq_loading_iff, fun value => ?_, ?_, ?_, ?_⟩
  · rw [← h.snapshot_eq_some_iff]
    exact ⟨And.right, fun hvalue => ⟨Derived.state_of_snapshot hvalue, hvalue⟩⟩
  · intro flight fetched hsettled
    exact System.dataset_run hrun ▸ htraced.settled hsettled (Nat.zero_le flight)
  · intro move next flight fetched happly hevent hsuperseded
    have hstep := System.step_of_apply happly
    rw [hevent] at hstep
    have hslot := h.slot_of_superseded hstep hsuperseded
    simp only [Derived.state, Derived.snapshot, hslot, and_self]
  · intro flight failure value hfailure hvalue
    obtain ⟨newer, hnewer, hsettled⟩ := h.snapshot_eq_some_iff.mp hvalue
    refine ⟨newer, hnewer, ?_, hsettled⟩
    have hlt := h.settled hfailure
    have hlast := h.newest?_eq_some_iff.mp hnewer
    have hne : flight ≠ newer := by
      rintro rfl
      cases h.once hfailure hsettled
    omega

/-- A flight is superseded by one that succeeds, and panics when that is over. -/
def overtaking : List (System.Move Nat) :=
  [.call .get, .call .refetch, .advance 0, .advance 1, .advance 0, .advance 1,
    .finishFetch 1 (.succeeded 7), .advance 1, .finishFetch 0 (.panicked none), .advance 0]

theorem overtaken_panic_leaves_snapshot :
    ∃ system, (System.new "colors").run overtaking = some system ∧
      .settled 0 (.error ⟨"colors", "fetcher panicked"⟩) ∈ (System.new "colors").events overtaking ∧
      system.cache.state = .ready ∧ system.cache.snapshot = some 7 := by
  have hevents : (System.new "colors").events overtaking =
      [.placed 0, .placed 1, .began 0 0, .began 1 1, .ended 1 1 (.succeeded 7), .settled 1 (.ok 7),
        .ended 0 0 (.panicked none), .settled 0 (.error ⟨"colors", "fetcher panicked"⟩)] := by rfl
  obtain ⟨system, hrun⟩ : ∃ system, (System.new "colors").run overtaking = some system := ⟨_, rfl⟩
  obtain ⟨-, -, hready, -⟩ := slot_of_newest_flight hrun
  rw [hevents] at hready ⊢
  exact ⟨system, hrun, by simp, (hready 7).mpr ⟨1, rfl, by simp⟩⟩

end TagLedger.Cache
