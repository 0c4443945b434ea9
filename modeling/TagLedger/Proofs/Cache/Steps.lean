import TagLedger.Cache.Interleaving
import Mathlib.Data.List.Induction

/-!
# Steps of callers and what they record

Every move of a system is one of a few kinds of steps, each of which says what it needs and what it
changes.  What becomes of flights and fetches is recorded on the way: a flight is placed in the
slot, its fetch is begun and ends, and the flight is settled.
-/

namespace TagLedger.Cache

inductive Event (α : Type) where
  | placed (flight : Nat)
  | began (flight fetch : Nat)
  | ended (flight fetch : Nat) (fetchEnd : FetchEnd α)
  | settled (flight : Nat) (fetched : Fetched α)

namespace Derived

variable {α : Type}

def handedOut? (cache : Derived α) (flight : Nat) : Option (Fetched α) :=
  (cache.flights[flight]?).bind (·.handedOut)

def withFlight (cache : Derived α) (flight : Nat) (change : Flight α → Flight α) : Derived α :=
  { cache with flights := cache.flights.modify flight change }

@[simp] theorem length_withFlight (cache : Derived α) (flight : Nat)
    (change : Flight α → Flight α) :
    (cache.withFlight flight change).flights.length = cache.flights.length :=
  List.length_modify ..

theorem handedOut?_withFlight (cache : Derived α) (flight other : Nat)
    {change : Flight α → Flight α}
    (hchange : ∀ flight, (change flight).handedOut = flight.handedOut) :
    (cache.withFlight flight change).handedOut? other = cache.handedOut? other := by
  simp only [handedOut?, withFlight, List.getElem?_modify]
  cases cache.flights[other]? with
  | none => rfl
  | some held =>
      by_cases hsame : flight = other
      · simpa [hsame] using hchange held
      · simp [hsame]

theorem handedOut?_handOut_self {cache : Derived α} {flight : Nat}
    (h : flight < cache.flights.length) (fetched : Fetched α) :
    (cache.handOut flight fetched).handedOut? flight = some fetched := by
  simp [handOut, handedOut?, List.getElem?_eq_getElem h]

theorem handedOut?_handOut_of_ne (cache : Derived α) {flight other : Nat} (h : other ≠ flight)
    (fetched : Fetched α) :
    (cache.handOut flight fetched).handedOut? other = cache.handedOut? other := by
  simp only [handOut, handedOut?, List.getElem?_modify_ne _ _ (Ne.symm h)]

theorem handedOut?_handOut {cache : Derived α} {flight other : Nat} {fetched outcome : Fetched α}
    (h : (cache.handOut flight fetched).handedOut? other = some outcome) :
    other = flight ∧ outcome = fetched ∨ cache.handedOut? other = some outcome := by
  by_cases hsame : other = flight
  · subst hsame
    by_cases hlt : other < cache.flights.length
    · rw [handedOut?_handOut_self hlt, Option.some.injEq] at h
      exact Or.inl ⟨rfl, h.symm⟩
    · rw [handedOut?, List.getElem?_eq_none (by simpa [handOut] using hlt)] at h
      cases h
  · rw [handedOut?_handOut_of_ne cache hsame] at h
    exact Or.inr h

theorem handedOut?_supersede (cache : Derived α) (flight : Nat) :
    cache.supersede.2.handedOut? flight = cache.handedOut? flight := by
  simp only [supersede, handedOut?]
  rcases Nat.lt_trichotomy flight cache.flights.length with hlt | rfl | hgt
  · rw [List.getElem?_append_left hlt]
  · simp
  · rw [List.getElem?_eq_none (by simp; omega), List.getElem?_eq_none (by omega)]

theorem enter_of_loading {cache : Derived α} {flight : Nat} (h : cache.slot = .loading flight) :
    cache.enter = (.waiter flight,
      cache.withFlight flight fun flight => { flight with waiting := flight.waiting + 1 }) := by
  unfold enter
  split <;> simp_all [withFlight]

theorem enter_of_ready {cache : Derived α} {value : α} (h : cache.slot = .ready value) :
    cache.enter = (.served value, cache) := by
  unfold enter
  split <;> simp_all

theorem enter_of_empty {cache : Derived α} (h : cache.slot = .empty) :
    cache.enter = (.leader cache.flights.length, cache.supersede.2) := by
  unfold enter
  split <;> simp_all [supersede]

theorem settle_of_loading {cache : Derived α} {flight : Nat} (h : cache.slot = .loading flight)
    (fetched : Fetched α) :
    cache.settle flight fetched = { cache with slot := settledSlot fetched } := by
  simp [settle, h]

theorem settle_of_ne {cache : Derived α} {flight : Nat} (h : cache.slot ≠ .loading flight)
    (fetched : Fetched α) : cache.settle flight fetched = cache := by
  unfold settle
  split
  · next current hslot =>
      rw [if_neg]
      rintro rfl
      exact h hslot
  · rfl

@[simp] theorem flights_settle (cache : Derived α) (flight : Nat) (fetched : Fetched α) :
    (cache.settle flight fetched).flights = cache.flights := by
  unfold settle
  split
  · split <;> rfl
  · rfl

@[simp] theorem dataset_settle (cache : Derived α) (flight : Nat) (fetched : Fetched α) :
    (cache.settle flight fetched).dataset = cache.dataset := by
  unfold settle
  split
  · split <;> rfl
  · rfl

@[simp] theorem fetches_settle (cache : Derived α) (flight : Nat) (fetched : Fetched α) :
    (cache.settle flight fetched).fetches = cache.fetches := by
  unfold settle
  split
  · split <;> rfl
  · rfl

theorem collect_eq_some {cache after : Derived α} {flight : Nat} {fetched : Fetched α}
    (h : cache.collect flight = some (fetched, after)) :
    cache.handedOut? flight = some fetched ∧
      after =
        cache.withFlight flight fun flight => { flight with waiting := flight.waiting - 1 } := by
  unfold collect at h
  split at h
  · next outcome houtcome =>
      cases h
      exact ⟨houtcome, rfl⟩
  · cases h

end Derived

/-! ## Callers -/

variable {α : Type}

theorem phase_of_set {callers : List (Phase α)} {caller other : Nat} {phase otherPhase : Phase α}
    (h : (callers.set caller phase)[other]? = some otherPhase) :
    other = caller ∧ otherPhase = phase ∨ other ≠ caller ∧ callers[other]? = some otherPhase := by
  by_cases hsame : caller = other
  · subst hsame
    obtain ⟨hlt, hphase⟩ := List.getElem?_eq_some_iff.mp h
    rw [List.getElem_set_self] at hphase
    exact Or.inl ⟨rfl, hphase.symm⟩
  · rw [List.getElem?_set_ne hsame] at h
    exact Or.inr ⟨Ne.symm hsame, h⟩

theorem phase_of_concat {callers : List (Phase α)} {other : Nat} {phase otherPhase : Phase α}
    (h : (callers ++ [phase])[other]? = some otherPhase) :
    other = callers.length ∧ otherPhase = phase ∨
      other < callers.length ∧ callers[other]? = some otherPhase := by
  rcases Nat.lt_trichotomy other callers.length with hlt | rfl | hgt
  · rw [List.getElem?_append_left hlt] at h
    exact Or.inr ⟨hlt, h⟩
  · simp only [List.getElem?_concat_length, Option.some.injEq] at h
    exact Or.inl ⟨rfl, h.symm⟩
  · rw [List.getElem?_eq_none (by simp; omega)] at h
    cases h

theorem view_of_set {β : Type} {callers : List (Phase α)} {caller : Nat} {old : Phase α}
    (hphase : callers[caller]? = some old) (view : Phase α → Option β) (phase : Phase α)
    (other : Nat) : ((callers.set caller phase)[other]?).bind view =
      if caller = other then view phase else (callers[other]?).bind view := by
  rw [List.getElem?_set]
  split
  · rw [if_pos (List.getElem?_eq_some_iff.mp hphase).1]
    rfl
  · rfl

theorem view_of_set_of_eq {β : Type} {callers : List (Phase α)} {caller : Nat} {old phase : Phase α}
    (hphase : callers[caller]? = some old) {view : Phase α → Option β}
    (hsame : view phase = view old) (other : Nat) :
    ((callers.set caller phase)[other]?).bind view = (callers[other]?).bind view := by
  rw [view_of_set hphase]
  split
  · next hcaller =>
      subst hcaller
      rw [hphase, hsame]
      rfl
  · rfl

theorem view_of_concat {β : Type} (callers : List (Phase α)) {phase : Phase α}
    {view : Phase α → Option β} (hphase : view phase = none) (other : Nat) :
    ((callers ++ [phase])[other]?).bind view = (callers[other]?).bind view := by
  rcases Nat.lt_trichotomy other callers.length with hlt | rfl | hgt
  · rw [List.getElem?_append_left hlt]
  · simp [hphase]
  · rw [List.getElem?_eq_none (by simp; omega), List.getElem?_eq_none (by omega)]

namespace System

/-- What a move of a system does to flights and fetches. -/
def eventOf (system : System α) : Move α → Option (Event α)
  | .advance caller =>
      match system.callers[caller]? with
      | some (.requested .get) =>
          match system.cache.slot with
          | .empty => some (.placed system.cache.flights.length)
          | _ => none
      | some (.requested .refetch) => some (.placed system.cache.flights.length)
      | some (.leading flight) => some (.began flight system.cache.fetches)
      | some (.ended flight fetched) => some (.settled flight fetched)
      | _ => none
  | .finishFetch caller fetchEnd =>
      match system.callers[caller]? with
      | some (.fetching flight fetch) => some (.ended flight fetch fetchEnd)
      | _ => none
  | _ => none

/-- The events of a run in their order. -/
def events (system : System α) : List (Move α) → List (Event α)
  | [] => []
  | move :: rest =>
      match system.apply move with
      | some next => (system.eventOf move).toList ++ next.events rest
      | none => []

/-- What is observed of the moves of a run, in their order. -/
def record {β : Type} (observe : System α → Move α → Option β) (system : System α) :
    List (Move α) → List β
  | [] => []
  | move :: rest =>
      match system.apply move with
      | some next => (observe system move).toList ++ next.record observe rest
      | none => []

/-- What callers were asked for, in the order of the callers. -/
def requests (moves : List (Move α)) : List Request :=
  moves.filterMap fun
    | .call request => some request
    | _ => none

/-! ## Runs -/

theorem run_append (system : System α) (first second : List (Move α)) :
    system.run (first ++ second) = (system.run first).bind fun middle => middle.run second :=
  List.foldlM_append ..

theorem run_concat_eq_some {start next : System α} {moves : List (Move α)} {move : Move α}
    (h : start.run (moves ++ [move]) = some next) :
    ∃ system, start.run moves = some system ∧ system.apply move = some next := by
  rw [run_append, Option.bind_eq_some_iff] at h
  obtain ⟨system, hsystem, hmove⟩ := h
  refine ⟨system, hsystem, ?_⟩
  simpa [run] using hmove

theorem record_concat {β : Type} {start system next : System α} {moves : List (Move α)}
    {move : Move α} (observe : System α → Move α → Option β) (hrun : start.run moves = some system)
    (happly : system.apply move = some next) :
    start.record observe (moves ++ [move]) =
      start.record observe moves ++ (observe system move).toList := by
  induction moves generalizing start with
  | nil =>
      cases hrun
      simp [record, happly]
  | cons first rest ih =>
      rw [run, List.foldlM_cons] at hrun
      obtain ⟨middle, hfirst, hrest⟩ := Option.bind_eq_some_iff.mp hrun
      simp only [List.cons_append, record, hfirst]
      rw [ih hrest, List.append_assoc]

theorem events_eq_record (system : System α) (moves : List (Move α)) :
    system.events moves = system.record eventOf moves := by
  induction moves generalizing system with
  | nil => rfl
  | cons move rest ih => simp only [events, record, ih]

theorem events_concat {start system next : System α} {moves : List (Move α)} {move : Move α}
    (hrun : start.run moves = some system) (happly : system.apply move = some next) :
    start.events (moves ++ [move]) = start.events moves ++ (system.eventOf move).toList := by
  simp only [events_eq_record, record_concat eventOf hrun happly]

/-- What holds at the start and is kept by every move holds at the end of every run. -/
theorem run_induction {start : System α} {motive : List (Move α) → System α → Prop}
    (hstart : motive [] start)
    (hmove : ∀ moves system move next, start.run moves = some system → motive moves system →
      system.apply move = some next → motive (moves ++ [move]) next)
    {moves : List (Move α)} {system : System α} (hrun : start.run moves = some system) :
    motive moves system := by
  induction moves using List.reverseRecOn generalizing system with
  | nil =>
      cases hrun
      exact hstart
  | append_singleton moves move ih =>
      obtain ⟨middle, hmiddle, happly⟩ := run_concat_eq_some hrun
      exact hmove moves middle move system hmiddle (ih hmiddle) happly

/-! ## Kinds of steps -/

/-- The steps that a system can take, with the event of each. -/
inductive Step (system : System α) : Move α → Option (Event α) → System α → Prop where
  | call (request : Request) :
      Step system (.call request) none
        ⟨system.cache, system.bus, system.callers ++ [.requested request]⟩
  | publish (dataset : String) :
      Step system (.publish dataset) none
        ⟨system.cache, (system.bus.publish dataset).2, system.callers⟩
  | subscribe : Step system .subscribe none ⟨system.cache, system.bus.subscribe.2, system.callers⟩
  | unsubscribe (subscriber : Nat) :
      Step system (.unsubscribe subscriber) none
        ⟨system.cache, system.bus.unsubscribe subscriber, system.callers⟩
  | look {caller subscriber : Nat}
      (hphase : system.callers[caller]? = some (.requested (.render subscriber))) :
      Step system (.advance caller) none
        ⟨system.cache, (system.bus.take subscriber system.cache.dataset).2,
          system.callers.set caller (.requested
            (if (system.bus.take subscriber system.cache.dataset).1 then .refetch else .get))⟩
  | serve {caller : Nat} {value : α} (hphase : system.callers[caller]? = some (.requested .get))
      (hslot : system.cache.slot = .ready value) :
      Step system (.advance caller) none
        ⟨system.cache, system.bus, system.callers.set caller (.returned (.ok value))⟩
  | join {caller flight : Nat} (hphase : system.callers[caller]? = some (.requested .get))
      (hslot : system.cache.slot = .loading flight) :
      Step system (.advance caller) none
        ⟨system.cache.withFlight flight fun flight => { flight with waiting := flight.waiting + 1 },
          system.bus, system.callers.set caller (.parked flight)⟩
  | place {caller : Nat} {request : Request}
      (hphase : system.callers[caller]? = some (.requested request))
      (hrequest : request = .refetch ∨ request = .get ∧ system.cache.slot = .empty) :
      Step system (.advance caller) (some (.placed system.cache.flights.length))
        ⟨system.cache.supersede.2, system.bus,
          system.callers.set caller (.leading system.cache.flights.length)⟩
  | begin {caller flight : Nat} (hphase : system.callers[caller]? = some (.leading flight)) :
      Step system (.advance caller) (some (.began flight system.cache.fetches))
        ⟨system.cache.beginFetch.2, system.bus,
          system.callers.set caller (.fetching flight system.cache.fetches)⟩
  | finish {caller flight fetch : Nat} (fetchEnd : FetchEnd α)
      (hphase : system.callers[caller]? = some (.fetching flight fetch)) :
      Step system (.finishFetch caller fetchEnd) (some (.ended flight fetch fetchEnd))
        ⟨system.cache, system.bus,
          system.callers.set caller (.ended flight (fetchEnd.fetched system.cache.dataset))⟩
  | settle {caller flight : Nat} {fetched : Fetched α}
      (hphase : system.callers[caller]? = some (.ended flight fetched)) :
      Step system (.advance caller) (some (.settled flight fetched))
        ⟨system.cache.settle flight fetched, system.bus,
          system.callers.set caller (.settled flight fetched)⟩
  | handOut {caller flight : Nat} {fetched : Fetched α}
      (hphase : system.callers[caller]? = some (.settled flight fetched)) :
      Step system (.advance caller) none
        ⟨system.cache.handOut flight fetched, system.bus,
          system.callers.set caller (.returned fetched)⟩
  | collect {caller flight : Nat} {fetched : Fetched α}
      (hphase : system.callers[caller]? = some (.parked flight))
      (houtcome : system.cache.handedOut? flight = some fetched) :
      Step system (.advance caller) none
        ⟨system.cache.withFlight flight fun flight => { flight with waiting := flight.waiting - 1 },
          system.bus, system.callers.set caller (.returned fetched)⟩

theorem step_of_apply {system next : System α} {move : Move α}
    (h : system.apply move = some next) : Step system move (system.eventOf move) next := by
  cases move with
  | call request =>
      cases h
      exact .call request
  | publish dataset =>
      cases h
      exact .publish dataset
  | subscribe =>
      cases h
      exact .subscribe
  | unsubscribe subscriber =>
      cases h
      exact .unsubscribe subscriber
  | finishFetch caller fetchEnd =>
      simp only [apply, finishFetch] at h
      split at h
      · next flight fetch hphase =>
          cases h
          simp only [eventOf, hphase]
          exact .finish fetchEnd hphase
      · cases h
  | advance caller =>
      simp only [apply, advance, bind, Option.bind_eq_some_iff] at h
      obtain ⟨phase, hphase, ⟨phase', system'⟩, hstep, hnext⟩ := h
      cases hnext
      simp only [eventOf, hphase]
      cases phase with
      | requested request =>
          cases request with
          | get =>
              simp only [stepOf] at hstep
              cases hslot : system.cache.slot with
              | empty =>
                  rw [Derived.enter_of_empty hslot] at hstep
                  cases hstep
                  exact .place hphase (Or.inr ⟨rfl, hslot⟩)
              | loading flight =>
                  rw [Derived.enter_of_loading hslot] at hstep
                  cases hstep
                  exact .join hphase hslot
              | ready value =>
                  rw [Derived.enter_of_ready hslot] at hstep
                  cases hstep
                  exact .serve hphase hslot
          | refetch =>
              cases hstep
              exact .place hphase (Or.inl rfl)
          | render subscriber =>
              cases hstep
              exact .look hphase
      | leading flight =>
          cases hstep
          exact .begin hphase
      | fetching flight fetch => cases hstep
      | ended flight fetched =>
          cases hstep
          exact .settle hphase
      | settled flight fetched =>
          cases hstep
          exact .handOut hphase
      | parked flight =>
          simp only [stepOf, Option.map_eq_some_iff] at hstep
          obtain ⟨⟨fetched, cache⟩, hcollect, hstep⟩ := hstep
          obtain ⟨houtcome, rfl⟩ := Derived.collect_eq_some hcollect
          cases hstep
          exact .collect hphase houtcome
      | returned fetched => cases hstep

theorem Step.dataset_eq {system next : System α} {move : Move α} {event : Option (Event α)}
    (h : Step system move event next) : next.cache.dataset = system.cache.dataset := by
  cases h with
  | settle => exact Derived.dataset_settle ..
  | _ => rfl

theorem dataset_run {dataset : String} {moves : List (Move α)} {system : System α}
    (hrun : (new dataset).run moves = some system) : system.cache.dataset = dataset := by
  refine run_induction (motive := fun _ system => system.cache.dataset = dataset) rfl ?_ hrun
  intro moves system move next _ hdataset happly
  exact (step_of_apply happly).dataset_eq.trans hdataset

end System

end TagLedger.Cache
