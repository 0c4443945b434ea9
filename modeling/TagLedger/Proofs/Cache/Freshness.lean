import TagLedger.Proofs.Cache.Newest
import TagLedger.Proofs.Cache.Renders

/-!
# Fresh renders after an invalidation

A publication leaves a signal with every mounted consumer, and the first render for the consumer
that looks for it places a new flight.  From the signal on there is therefore always one of three
things: the signal in the queue, a render that has taken it and is about to place a flight, or a
flight placed since.  A render that begins after the publication gets its value from such a flight,
by leading it, by waiting for it, or by finding its snapshot; flights placed before cannot come back
into the slot.
-/

namespace TagLedger.Cache

variable {α : Type}

/-- The value comes from a fetch that was begun and has succeeded. -/
def Fresh (events : List (Event α)) (value : α) : Prop :=
  ∃ flight fetch, .began flight fetch ∈ events ∧ .ended flight fetch (.succeeded value) ∈ events

theorem Fresh.append {events : List (Event α)} {value : α} (h : Fresh events value)
    (more : List (Event α)) : Fresh (events ++ more) value := by
  obtain ⟨flight, fetch, hbegan, hended⟩ := h
  exact ⟨flight, fetch, List.mem_append_left _ hbegan, List.mem_append_left _ hended⟩

theorem Produced.fresh {dataset : String} {events : List (Event α)} {flight : Nat} {value : α}
    (h : Produced dataset events flight (.ok value)) : Fresh events value := by
  obtain ⟨fetch, fetchEnd, hbegan, hended, hfetched⟩ := h
  rw [FetchEnd.eq_succeeded_of_fetched hfetched] at hended
  exact ⟨flight, fetch, hbegan, hended⟩

/-! ## Flights of callers -/

def Phase.flight? : Phase α → Option Nat
  | .leading flight | .fetching flight _ | .ended flight _ | .settled flight _ | .parked flight =>
      some flight
  | .requested _ | .returned _ => none

def Bounded (system : System α) : Prop :=
  ∀ (caller : Nat) (phase : Phase α) (flight : Nat), system.callers[caller]? = some phase →
    phase.flight? = some flight → flight < system.cache.flights.length

namespace Bounded

variable {system next : System α}

theorem of_set (h : Bounded system) {caller : Nat} {phase : Phase α} {cache : Derived α} {bus : Bus}
    (hlength : system.cache.flights.length ≤ cache.flights.length)
    (hphase : ∀ flight, phase.flight? = some flight → flight < cache.flights.length) :
    Bounded ⟨cache, bus, system.callers.set caller phase⟩ := by
  intro other otherPhase flight hother hflight
  rcases phase_of_set hother with ⟨-, rfl⟩ | ⟨-, hold⟩
  · exact hphase flight hflight
  · exact Nat.lt_of_lt_of_le (h _ _ _ hold hflight) hlength

theorem step (h : Bounded system) {events : List (Event α)} (hconsistent : Consistent system events)
    {move : System.Move α} {event : Option (Event α)} (hstep : system.Step move event next) :
    Bounded next := by
  cases hstep with
  | call request =>
      intro caller phase flight hphase hflight
      rcases phase_of_concat hphase with ⟨-, rfl⟩ | ⟨-, hold⟩
      · cases hflight
      · exact h _ _ _ hold hflight
  | publish dataset | subscribe | unsubscribe subscriber => exact h
  | look hphase | serve hphase => exact h.of_set (Nat.le_refl _) nofun
  | join hphase hslot =>
      refine h.of_set (Nat.le_of_eq (Derived.length_withFlight ..).symm) ?_
      intro flight hflight
      cases hflight
      rw [Derived.length_withFlight, ← (hconsistent.loading hslot).1]
      exact Nat.lt_succ_self _
  | place hphase hrequest =>
      have hlength : (system.cache.supersede.2).flights.length = system.cache.flights.length + 1 :=
        List.length_append
      refine h.of_set (hlength ▸ Nat.le_succ _) ?_
      intro flight hflight
      cases hflight
      omega
  | begin hphase => exact h.of_set (Nat.le_refl _) fun flight hflight => h _ _ _ hphase hflight
  | finish fetchEnd hphase =>
      exact h.of_set (Nat.le_refl _) fun flight hflight => h _ _ _ hphase hflight
  | settle hphase =>
      refine h.of_set (Nat.le_of_eq (by rw [Derived.flights_settle])) fun flight hflight => ?_
      rw [Derived.flights_settle]
      exact h _ _ _ hphase hflight
  | handOut hphase | collect hphase =>
      exact h.of_set (Nat.le_of_eq (List.length_modify ..).symm) nofun

theorem run {dataset : String} {moves : List (System.Move α)}
    (hrun : (System.new dataset).run moves = some system) : Bounded system := by
  refine System.run_induction (motive := fun _ system => Bounded system) ?_ ?_ hrun
  · intro caller phase flight hphase
    simp [System.new] at hphase
  · intro moves system move next hrun h happly
    exact h.step (Consistent.run hrun) (System.step_of_apply happly)

theorem traced (h : Bounded system) : Traced system.cache.flights.length system [] where
  phase {caller phase} hphase := by
    refine ⟨fun flight fetch hfetching hsince => ?_, fun flight fetched houtcome hsince => ?_⟩
    · subst hfetching
      exact absurd (h _ _ _ hphase rfl) (Nat.not_lt.mpr hsince)
    · have hflight : phase.flight? = some flight := by
        cases phase <;> cases houtcome <;> rfl
      exact absurd (h _ _ _ hphase hflight) (Nat.not_lt.mpr hsince)
  handedOut {flight fetched} hfetched hsince := by
    rw [Derived.handedOut?, List.getElem?_eq_none hsince] at hfetched
    cases hfetched
  settled h := by cases h

end Bounded

/-! ## After a publication -/

/-- What is known of a render that began after the publication: it still has the signal before it,
or the flight that it gets its value from was placed since. -/
def Phase.After (consumer since : Nat) (system : System α) (events : List (Event α)) :
    Phase α → Prop
  | .requested (.render _) => system.Mounted consumer
  | .requested .refetch => True
  | .requested .get => since < system.cache.flights.length
  | .leading flight | .fetching flight _ | .ended flight _ | .settled flight _ | .parked flight =>
      since ≤ flight
  | .returned (.ok value) => Fresh events value
  | .returned (.error _) => True

theorem Phase.After.mono {consumer since : Nat} {system next : System α} {events : List (Event α)}
    {phase : Phase α} (h : phase.After consumer since system events)
    (hmounted : system.Mounted consumer → next.Mounted consumer)
    (hlength : system.cache.flights.length ≤ next.cache.flights.length) {more : List (Event α)} :
    phase.After consumer since next (events ++ more) := by
  cases phase with
  | requested request =>
      cases request with
      | get => exact Nat.lt_of_lt_of_le h hlength
      | refetch => trivial
      | render subscriber => exact hmounted h
  | returned fetched =>
      cases fetched with
      | ok value => exact Fresh.append h more
      | error failure => trivial
  | _ => exact h

def Refetching (consumer : Nat) (asked : List Request) (system : System α) : Prop :=
  ∃ caller : Nat, asked[caller]? = some (.render consumer) ∧
    system.callers[caller]? = some (.requested .refetch)

/-- How things stand once the dataset has been published while the consumer was mounted, `since`
flights had been placed and there were `first` callers. -/
structure Invalidated (consumer since first : Nat) (asked : List Request) (system : System α)
    (events : List (Event α)) : Prop where
  flights : since ≤ system.cache.flights.length
  number : consumer < system.bus.next
  signal : ∀ queue, system.bus.queue? consumer = some queue → system.cache.dataset ∈ queue ∨
    Refetching consumer asked system ∨ since < system.cache.flights.length
  slot : ∀ value, system.cache.slot = .ready value → since < system.cache.flights.length →
    Fresh events value
  render : ∀ caller phase, first ≤ caller → asked[caller]? = some (.render consumer) →
    system.callers[caller]? = some phase → phase.After consumer since system events

namespace Invalidated

variable {consumer since first : Nat} {asked : List Request} {system next : System α}
  {events : List (Event α)}

theorem of_publish (hnumbered : system.bus.Numbered) (hmounted : system.Mounted consumer)
    (hlength : asked.length = system.callers.length) :
    Invalidated consumer system.cache.flights.length system.callers.length asked
      ⟨system.cache, (system.bus.publish system.cache.dataset).2, system.callers⟩ [] where
  flights := Nat.le_refl _
  number := hnumbered.lt_of_queue? hmounted
  signal queue hqueue := by
    rw [Bus.queue?_publish, Option.map_eq_some_iff] at hqueue
    obtain ⟨old, -, rfl⟩ := hqueue
    exact Or.inl (List.mem_append_right _ (List.mem_singleton_self _))
  slot value hslot hlt := absurd hlt (Nat.lt_irrefl _)
  render caller phase hfirst hasked _ := by
    have hlt := (List.getElem?_eq_some_iff.mp hasked).1
    omega

theorem of_set (h : Invalidated consumer since first asked system events) {caller : Nat}
    {old phase : Phase α} {cache : Derived α} {event : Option (Event α)}
    (hphase : system.callers[caller]? = some old)
    (hdataset : cache.dataset = system.cache.dataset)
    (hlength : system.cache.flights.length ≤ cache.flights.length)
    (hrefetching : old = .requested .refetch → since < cache.flights.length)
    (hslot : ∀ value, cache.slot = .ready value → since < cache.flights.length →
      Fresh (events ++ event.toList) value)
    (hafter : asked[caller]? = some (.render consumer) →
      old.After consumer since system events → phase.After consumer since
      ⟨cache, system.bus, system.callers.set caller phase⟩ (events ++ event.toList)) :
    Invalidated consumer since first asked ⟨cache, system.bus, system.callers.set caller phase⟩
      (events ++ event.toList) where
  flights := Nat.le_trans h.flights hlength
  number := h.number
  signal queue hqueue := by
    rw [hdataset]
    rcases h.signal queue hqueue with hqueued | ⟨other, hasked, hother⟩ | hplaced
    · exact Or.inl hqueued
    · by_cases hsame : caller = other
      · subst hsame
        rw [hphase] at hother
        exact Or.inr (Or.inr (hrefetching (Option.some.inj hother)))
      · exact Or.inr (Or.inl ⟨other, hasked, by rwa [List.getElem?_set_ne hsame]⟩)
    · exact Or.inr (Or.inr (Nat.lt_of_lt_of_le hplaced hlength))
  slot := hslot
  render other otherPhase hfirst hasked hother := by
    rcases phase_of_set hother with ⟨rfl, rfl⟩ | ⟨-, hold⟩
    · exact hafter hasked (h.render other old hfirst hasked hphase)
    · exact (h.render other otherPhase hfirst hasked hold).mono (by exact id) hlength

/-- The bus changes, and the consumer keeps the signals that it has. -/
theorem of_bus (h : Invalidated consumer since first asked system events) {bus : Bus}
    {change : List String → List String}
    (hqueue : bus.queue? consumer = (system.bus.queue? consumer).map change)
    (hkept : ∀ queue, ∀ dataset ∈ queue, dataset ∈ change queue)
    (hnext : system.bus.next ≤ bus.next) :
    Invalidated consumer since first asked ⟨system.cache, bus, system.callers⟩ events where
  flights := h.flights
  number := Nat.lt_of_lt_of_le h.number hnext
  signal queue hsome := by
    rw [hqueue, Option.map_eq_some_iff] at hsome
    obtain ⟨old, hold, rfl⟩ := hsome
    rcases h.signal old hold with hqueued | hrefetching | hplaced
    · exact Or.inl (hkept old _ hqueued)
    · exact Or.inr (Or.inl hrefetching)
    · exact Or.inr (Or.inr hplaced)
  slot := h.slot
  render caller phase hfirst hasked hphase := by
    have hmounted : system.Mounted consumer →
        (⟨system.cache, bus, system.callers⟩ : System α).Mounted consumer := by
      intro hmounted
      rw [System.Mounted, hqueue, Option.isSome_map]
      exact hmounted
    rw [← List.append_nil events]
    exact (h.render caller phase hfirst hasked hphase).mono hmounted (Nat.le_refl _)

theorem of_queue (h : Invalidated consumer since first asked system events) {bus : Bus}
    (hqueue : bus.queue? consumer = system.bus.queue? consumer)
    (hnext : system.bus.next ≤ bus.next) :
    Invalidated consumer since first asked ⟨system.cache, bus, system.callers⟩ events :=
  h.of_bus (hqueue.trans Option.map_id'.symm) (fun _ _ => id) hnext

theorem call (h : Invalidated consumer since first asked system events)
    (horderly : Orderly consumer asked system) (request : Request)
    (hidle : request = .render consumer → system.Idle asked consumer) :
    Invalidated consumer since first (asked ++ [request])
      ⟨system.cache, system.bus, system.callers ++ [.requested request]⟩ events where
  flights := h.flights
  number := h.number
  signal queue hqueue := by
    rcases h.signal queue hqueue with hqueued | ⟨caller, hasked, hphase⟩ | hplaced
    · exact Or.inl hqueued
    · have hlt := (List.getElem?_eq_some_iff.mp hasked).1
      refine Or.inr (Or.inl ⟨caller, ?_, ?_⟩)
      · rwa [List.getElem?_append_left hlt]
      · rwa [List.getElem?_append_left (horderly.length ▸ hlt)]
    · exact Or.inr (Or.inr hplaced)
  slot := h.slot
  render caller phase hfirst hasked hphase := by
    rcases phase_of_concat hphase with ⟨rfl, rfl⟩ | ⟨hlt, hold⟩
    · rw [← horderly.length, List.getElem?_concat_length] at hasked
      rw [Option.some.inj hasked]
      exact (hidle (Option.some.inj hasked)).1
    · rw [List.getElem?_append_left (horderly.length.symm ▸ hlt)] at hasked
      rw [← List.append_nil events]
      exact (h.render caller phase hfirst hasked hold).mono id (Nat.le_refl _)

theorem unsubscribe (h : Invalidated consumer since first asked system events)
    (hidle : system.Idle asked consumer) :
    Invalidated consumer since first asked
      ⟨system.cache, system.bus.unsubscribe consumer, system.callers⟩ events where
  flights := h.flights
  number := h.number
  signal queue hqueue := by
    rw [Bus.queue?_unsubscribe] at hqueue
    cases hqueue
  slot := h.slot
  render caller phase hfirst hasked hphase := by
    have hlt := (List.getElem?_eq_some_iff.mp hasked).1
    obtain ⟨fetched, hfetched⟩ := Option.isSome_iff_exists.mp (hidle.2 caller hlt hasked)
    rw [System.outcome?_eq_some_iff, hphase] at hfetched
    obtain rfl := Option.some.inj hfetched
    have hafter := h.render caller _ hfirst hasked hphase
    cases fetched <;> exact hafter

/-- A render for the consumer looks for the signal. -/
theorem look (h : Invalidated consumer since first asked system events)
    (horderly : Orderly consumer asked system) {caller : Nat}
    (hphase : system.callers[caller]? = some (.requested (.render consumer))) :
    Invalidated consumer since first asked
      ⟨system.cache, (system.bus.take consumer system.cache.dataset).2,
        system.callers.set caller (.requested
          (if (system.bus.take consumer system.cache.dataset).1 then .refetch else .get))⟩
      events := by
  have hasked := horderly.render hphase
  have hlt := (List.getElem?_eq_some_iff.mp hphase).1
  -- Without a signal in the queue, and with this render alone under way, a flight was placed.
  have hplaced {queue : List String} (hqueue : system.bus.queue? consumer = some queue)
      (hmissed : ¬ (system.bus.take consumer system.cache.dataset).1 = true) :
      since < system.cache.flights.length := by
    rw [Bus.take_eq_true_iff hqueue] at hmissed
    rcases h.signal queue hqueue with hqueued | ⟨other, hother, hrefetch⟩ | hplaced
    · exact absurd hqueued hmissed
    · have hsame := horderly.single hasked hother
        (by simp [System.outcome?, hphase]) (by simp [System.outcome?, hrefetch])
      subst hsame
      rw [hphase] at hrefetch
      cases hrefetch
    · exact hplaced
  refine ⟨h.flights, h.number, ?_, h.slot, ?_⟩
  · intro queue hqueue
    rw [Bus.queue?_take, Option.map_eq_some_iff] at hqueue
    obtain ⟨old, hold, -⟩ := hqueue
    by_cases htaken : (system.bus.take consumer system.cache.dataset).1 = true
    · refine Or.inr (Or.inl ⟨caller, hasked, ?_⟩)
      rw [if_pos htaken, List.getElem?_set_self hlt]
    · exact Or.inr (Or.inr (hplaced hold htaken))
  · intro other phase hfirst hother hset
    rcases phase_of_set hset with ⟨rfl, rfl⟩ | ⟨-, hold⟩
    · by_cases htaken : (system.bus.take consumer system.cache.dataset).1 = true
      · rw [if_pos htaken]
        trivial
      · rw [if_neg htaken]
        obtain ⟨queue, hqueue⟩ :=
          Option.isSome_iff_exists.mp (h.render other _ hfirst hother hphase)
        exact hplaced hqueue htaken
    · rw [← List.append_nil events]
      refine (h.render other phase hfirst hother hold).mono ?_ (by exact Nat.le_refl _)
      intro hmounted
      rw [System.Mounted, Bus.queue?_take, Option.isSome_map]
      exact hmounted

/-- Only the newest flight can leave a snapshot, and it was placed since. -/
theorem settle (h : Invalidated consumer since first asked system events)
    {history : List (Event α)} (hconsistent : Consistent system history)
    (htraced : Traced since system events) {caller flight : Nat} {fetched : Fetched α}
    (hphase : system.callers[caller]? = some (.ended flight fetched)) :
    Invalidated consumer since first asked
      ⟨system.cache.settle flight fetched, system.bus,
        system.callers.set caller (.settled flight fetched)⟩
      (events ++ [.settled flight fetched]) := by
  have hflights := system.cache.flights_settle flight fetched
  change Invalidated _ _ _ _ _ (events ++ (some (Event.settled flight fetched)).toList)
  refine h.of_set hphase (Derived.dataset_settle ..) (Nat.le_of_eq (by rw [hflights])) nofun ?_
    fun _ => id
  intro value hready hlt
  rw [hflights] at hlt
  by_cases hloading : system.cache.slot = .loading flight
  · have hnewest := (hconsistent.loading hloading).1
    rw [Derived.settle_of_loading hloading] at hready
    cases fetched with
    | ok settled =>
        cases hready
        have hsince := Nat.le_of_lt_succ (hnewest ▸ hlt)
        exact ((htraced.phase hphase).2 flight _ rfl hsince).fresh.append _
    | error failure => cases hready
  · rw [Derived.settle_of_ne hloading] at hready
    exact (h.slot value hready hlt).append _

theorem step (h : Invalidated consumer since first asked system events)
    (horderly : Orderly consumer asked system) {history : List (Event α)}
    (hconsistent : Consistent system history) (htraced : Traced since system events)
    {move : System.Move α} {event : Option (Event α)} (hstep : system.Step move event next)
    (hidle : move.Uses consumer → system.Idle asked consumer) :
    Invalidated consumer since first (asked ++ System.requests [move]) next
      (events ++ event.toList) := by
  have hslot {cache : Derived α} (hsame : cache.slot = system.cache.slot)
      (hlength : cache.flights.length = system.cache.flights.length) (value : α)
      (hready : cache.slot = .ready value) (hlt : since < cache.flights.length) :
      Fresh (events ++ event.toList) value :=
    (h.slot value (hsame ▸ hready) (hlength ▸ hlt)).append _
  cases hstep with
  | call request =>
      rw [Option.toList_none, List.append_nil]
      exact h.call horderly request hidle
  | publish dataset =>
      rw [System.append_requests rfl, Option.toList_none, List.append_nil]
      exact h.of_bus (system.bus.queue?_publish dataset consumer)
        (fun _ _ => List.mem_append_left _) (Nat.le_refl _)
  | subscribe =>
      rw [System.append_requests rfl, Option.toList_none, List.append_nil]
      exact h.of_queue (Bus.queue?_subscribe (Nat.ne_of_lt h.number)) (Nat.le_succ _)
  | unsubscribe subscriber =>
      rw [System.append_requests rfl, Option.toList_none, List.append_nil]
      by_cases hsame : subscriber = consumer
      · subst hsame
        exact h.unsubscribe (hidle rfl)
      · exact h.of_queue (system.bus.queue?_unsubscribe_of_ne (Ne.symm hsame)) (Nat.le_refl _)
  | @look caller subscriber hphase =>
      rw [System.append_requests rfl]
      by_cases hsame : subscriber = consumer
      · subst hsame
        rw [Option.toList_none, List.append_nil]
        exact h.look horderly hphase
      · have hqueue := system.bus.queue?_take_of_ne system.cache.dataset (Ne.symm hsame)
        refine (h.of_queue hqueue (Nat.le_refl _)).of_set hphase rfl (Nat.le_refl _) nofun
          (hslot rfl rfl) fun hasked => ?_
        rw [horderly.render hphase] at hasked
        cases hasked
        exact absurd rfl hsame
  | serve hphase hready =>
      rw [System.append_requests rfl]
      refine h.of_set hphase rfl (Nat.le_refl _) nofun (hslot rfl rfl) fun _ hafter => ?_
      exact (h.slot _ hready hafter).append _
  | @join caller flight hphase hloading =>
      have hlength := system.cache.length_withFlight flight
        fun flight => { flight with waiting := flight.waiting + 1 }
      rw [System.append_requests rfl]
      refine h.of_set hphase rfl (Nat.le_of_eq hlength.symm) nofun (hslot rfl hlength) ?_
      intro _ hafter
      exact Nat.le_of_lt_succ (Nat.lt_of_lt_of_eq hafter (hconsistent.loading hloading).1.symm)
  | @place caller request hphase hrequest =>
      have hlength : (system.cache.supersede.2).flights.length = system.cache.flights.length + 1 :=
        List.length_append
      have hplaced := Nat.lt_succ_of_le h.flights
      rw [System.append_requests rfl]
      refine h.of_set hphase rfl (hlength ▸ Nat.le_succ _) ?_ nofun fun _ _ => h.flights
      intro _
      rwa [hlength]
  | begin hphase =>
      rw [System.append_requests rfl]
      exact h.of_set hphase rfl (Nat.le_refl _) nofun (hslot rfl rfl) fun _ => id
  | finish fetchEnd hphase =>
      rw [System.append_requests rfl]
      exact h.of_set hphase rfl (Nat.le_refl _) nofun (hslot rfl rfl) fun _ => id
  | settle hphase =>
      rw [System.append_requests rfl]
      exact h.settle hconsistent htraced hphase
  | @handOut caller flight fetched hphase =>
      have hlength : (system.cache.handOut flight fetched).flights.length =
          system.cache.flights.length := List.length_modify ..
      rw [System.append_requests rfl]
      refine h.of_set hphase rfl (Nat.le_of_eq hlength.symm) nofun (hslot rfl hlength) ?_
      intro _ hafter
      cases fetched with
      | ok value => exact ((htraced.phase hphase).2 flight _ rfl hafter).fresh.append _
      | error failure => trivial
  | @collect caller flight fetched hphase houtcome =>
      have hlength := system.cache.length_withFlight flight
        fun flight => { flight with waiting := flight.waiting - 1 }
      rw [System.append_requests rfl]
      refine h.of_set hphase rfl (Nat.le_of_eq hlength.symm) nofun (hslot rfl hlength) ?_
      intro _ hafter
      cases fetched with
      | ok value => exact (htraced.handedOut houtcome hafter).fresh.append _
      | error failure => trivial

theorem run {dataset : String} {before after : List (System.Move α)} {start : System α}
    (hstart : (System.new dataset).run before = some start) (hmounted : start.Mounted consumer)
    (hrun : start.run (.publish dataset :: after) = some system)
    (howned : (System.new dataset).Owned consumer (before ++ .publish dataset :: after)) :
    Invalidated consumer start.cache.flights.length start.callers.length
      (System.requests (before ++ .publish dataset :: after)) system
      (start.events (.publish dataset :: after)) := by
  have hdataset := System.dataset_run hstart
  have horderly := Orderly.run hstart howned.append_left
  have htraced := (Bounded.run hstart).traced
  let published : System α := ⟨start.cache, (start.bus.publish dataset).2, start.callers⟩
  have hpublished : Traced start.cache.flights.length published [] :=
    ⟨htraced.phase, htraced.handedOut, htraced.settled⟩
  have hafter : published.run after = some system := hrun
  refine System.run_induction (motive := fun after system =>
    (System.new dataset).Owned consumer (before ++ .publish dataset :: after) →
      Invalidated consumer start.cache.flights.length start.callers.length
        (System.requests (before ++ .publish dataset :: after)) system (published.events after))
    ?_ ?_ hafter howned
  · intro _
    rw [System.requests_concat, System.append_requests rfl]
    have h := of_publish horderly.numbered hmounted horderly.length
    rwa [hdataset] at h
  · intro moves system move next hmoves ih happly howned
    have hassoc : before ++ .publish dataset :: (moves ++ [move]) =
        (before ++ .publish dataset :: moves) ++ [move] := by
      rw [List.append_assoc]
      rfl
    have hall : (System.new dataset).run (before ++ .publish dataset :: moves) = some system := by
      rw [System.run_append, hstart]
      exact hmoves
    rw [hassoc] at howned ⊢
    rw [System.requests_concat, System.events_concat hmoves happly]
    exact (ih howned.append_left).step (Orderly.run hall howned.append_left) (Consistent.run hall)
      (hpublished.run hmoves) (System.step_of_apply happly) (howned.last hall)

end Invalidated

/-- A render for a consumer that begins after the dataset was published while the consumer was
mounted, and that returns a value, returns the value of a fetch that began after the publication.
The other callers, the other fetches and the other publications are arbitrary. -/
theorem render_fresh_after_publish {dataset : String} {before after : List (System.Move α)}
    {start final : System α} {consumer caller : Nat} {value : α}
    (hstart : (System.new dataset).run before = some start) (hmounted : start.Mounted consumer)
    (hfinal : start.run (.publish dataset :: after) = some final)
    (howned : (System.new dataset).Owned consumer (before ++ .publish dataset :: after))
    (hlater : start.callers.length ≤ caller)
    (hrender : (System.requests (before ++ .publish dataset :: after))[caller]? =
      some (.render consumer))
    (hvalue : final.outcome? caller = some (.ok value)) :
    Fresh (start.events (.publish dataset :: after)) value :=
  (Invalidated.run hstart hmounted hfinal howned).render caller _ hlater hrender
    (System.outcome?_eq_some_iff.mp hvalue)

def beforeChange : List (System.Move Nat) :=
  [.subscribe, .call .get, .advance 0, .advance 0]

/-- The refetch of the consumer's first render fails; its second render waits for the flight of
another caller, and the old fetch is over before that. -/
def afterChange : List (System.Move Nat) :=
  [.call (.render 0), .advance 1, .advance 1, .advance 1,
    .finishFetch 1 (.failed ⟨"colors", "down"⟩), .advance 1, .advance 1,
    .call .get, .advance 2, .call (.render 0), .advance 3, .advance 3, .advance 2,
    .finishFetch 0 (.succeeded 5), .advance 0, .advance 0,
    .finishFetch 2 (.succeeded 7), .advance 2, .advance 2, .advance 3]

theorem render_after_failed_refetch_fresh :
    ∃ start final, (System.new "colors").run beforeChange = some start ∧
      start.run (.publish "colors" :: afterChange) = some final ∧
      final.outcome? 1 = some (.error ⟨"colors", "down"⟩) ∧ final.outcome? 3 = some (.ok 7) ∧
      Fresh (start.events (.publish "colors" :: afterChange)) 7 := by
  obtain ⟨start, final, hstart, hfinal, hmounted, hcallers, hfailed, hvalue⟩ :
      ∃ start final, (System.new "colors").run beforeChange = some start ∧
        start.run (.publish "colors" :: afterChange) = some final ∧ start.Mounted 0 ∧
        start.callers.length = 1 ∧ final.outcome? 1 = some (.error ⟨"colors", "down"⟩) ∧
        final.outcome? 3 = some (.ok 7) :=
    ⟨_, _, rfl, rfl, rfl, rfl, rfl, rfl⟩
  have howned :
      (System.new "colors").Owned 0 (beforeChange ++ .publish "colors" :: afterChange) := by
    decide +kernel
  exact ⟨start, final, hstart, hfinal, hfailed, hvalue,
    render_fresh_after_publish hstart hmounted hfinal howned (by omega) (by rfl) hvalue⟩

end TagLedger.Cache
