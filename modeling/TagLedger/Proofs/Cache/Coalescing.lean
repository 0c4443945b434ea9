import TagLedger.Proofs.Cache.Waiters
import Mathlib.Data.List.Nodup
import Mathlib.Data.List.Perm.Subperm

/-!
# Calls share fetches

A call that comes to the slot either finds something there to wait for or to return with, or it
leads a flight of its own and begins one fetch for it.  So the fetches are accounted for by the
calls that found the slot empty and by those that wanted a fresh fetch.  A slot that was filled is
empty again only because its flight failed, so calls that merely ask begin one fetch more than
have failed, at most.
-/

namespace TagLedger.Cache

variable {α : Type}

/-! ## Calls at the slot -/

/-- A call that comes to the slot: whose it is, what it wants, and how it finds the slot. -/
structure Arrival where
  caller : Nat
  request : Request
  found : CacheState
  deriving DecidableEq

def Arrival.fillsEmpty (arrival : Arrival) : Bool :=
  arrival.request = .get && arrival.found = .empty

def Arrival.refetches (arrival : Arrival) : Bool :=
  arrival.request = .refetch

def Phase.arrival? (caller : Nat) (found : CacheState) : Phase α → Option Arrival
  | .requested .get => some ⟨caller, .get, found⟩
  | .requested .refetch => some ⟨caller, .refetch, found⟩
  | _ => none

def Phase.isLeading : Phase α → Bool
  | .leading _ => true
  | _ => false

/-- The fetch has failed, and the slot does not know yet. -/
def Phase.hasFailed : Phase α → Bool
  | .ended _ (.error _) => true
  | _ => false

def Phase.asks (request : Request) : Phase α → Bool
  | .requested other => other == request
  | _ => false

def Event.isBegan : Event α → Bool
  | .began _ _ => true
  | _ => false

def Event.isSuccess : Event α → Bool
  | .ended _ _ (.succeeded _) => true
  | _ => false

/-- A fetch ends in a failure or a panic. -/
def Event.isFailure : Event α → Bool
  | .ended _ _ (.failed _) | .ended _ _ (.panicked _) => true
  | _ => false

def Event.settlesFailure : Event α → Bool
  | .settled _ (.error _) => true
  | _ => false

namespace System

def arrivalOf (system : System α) : Move α → Option Arrival
  | .advance caller =>
      (system.callers[caller]?).bind (Phase.arrival? caller system.cache.state)
  | _ => none

/-- The caller whose move begins a fetch. -/
def startOf (system : System α) : Move α → Option Nat
  | .advance caller => if (system.callers[caller]?).any Phase.isLeading then some caller else none
  | _ => none

theorem arrivalOf_advance {system : System α} {caller : Nat} {phase : Phase α}
    (h : system.callers[caller]? = some phase) :
    system.arrivalOf (.advance caller) = phase.arrival? caller system.cache.state := by
  rw [arrivalOf, h, Option.bind_some]

theorem startOf_advance {system : System α} {caller : Nat} {phase : Phase α}
    (h : system.callers[caller]? = some phase) :
    system.startOf (.advance caller) = if phase.isLeading then some caller else none := by
  rw [startOf, h, Option.any_some]

def Fetching (system : System α) (caller : Nat) : Prop :=
  ∃ flight fetch, system.callers[caller]? = some (.fetching flight fetch)

/-- The calls that have come to the slot, in the order in which they did. -/
def arrivals (system : System α) (moves : List (Move α)) : List Arrival :=
  system.record arrivalOf moves

/-- The callers that have begun a fetch, in the order in which they did. -/
def starts (system : System α) (moves : List (Move α)) : List Nat :=
  system.record startOf moves

end System

/-! ## Fetches and failures are accounted for -/

/-- One if there is nothing in the slot. -/
def Derived.vacancy (cache : Derived α) : Nat :=
  match cache.slot with
  | .empty => 1
  | _ => 0

theorem Derived.vacancy_settle_le (cache : Derived α) (flight : Nat) (fetched : Fetched α) :
    (cache.settle flight fetched).vacancy ≤
      cache.vacancy + [Event.settled flight fetched].countP Event.settlesFailure := by
  by_cases hslot : cache.slot = .loading flight
  · rw [settle_of_loading hslot]
    cases fetched with
    | ok value => exact Nat.zero_le _
    | error failure => exact Nat.le_add_left ..
  · rw [settle_of_ne hslot]
    exact Nat.le_add_right ..

/-- Each call that leads has begun its fetch or is about to, each failure is settled or about to be,
and beyond the first a slot was found empty only after a failure was settled. -/
structure Accounted (system : System α) (arrivals : List Arrival) (starts : List Nat)
    (events : List (Event α)) : Prop where
  fetches : system.cache.fetches = starts.length
  led : starts.length + system.callers.countP Phase.isLeading =
    arrivals.countP Arrival.fillsEmpty + arrivals.countP Arrival.refetches
  failures : events.countP Event.settlesFailure + system.callers.countP Phase.hasFailed =
    events.countP Event.isFailure
  retries : system.cache.vacancy + arrivals.countP Arrival.fillsEmpty ≤
    events.countP Event.settlesFailure + 1

namespace Accounted

variable {system next : System α} {arrivals : List Arrival} {starts : List Nat}
  {events : List (Event α)}

theorem new (dataset : String) : Accounted (System.new dataset : System α) [] [] [] where
  fetches := rfl
  led := rfl
  failures := rfl
  retries := Nat.le_refl 1

theorem of_set (h : Accounted system arrivals starts events) {caller : Nat} {old phase : Phase α}
    (hphase : system.callers[caller]? = some old) {cache : Derived α} {bus : Bus}
    {arrival : Option Arrival} {start : Option Nat} {event : Option (Event α)}
    (hfetches : cache.fetches = system.cache.fetches + start.toList.length)
    (hled : start.toList.length + phase.isLeading.toNat = old.isLeading.toNat +
      (arrival.toList.countP Arrival.fillsEmpty + arrival.toList.countP Arrival.refetches))
    (hfailures : event.toList.countP Event.settlesFailure + phase.hasFailed.toNat =
      old.hasFailed.toNat + event.toList.countP Event.isFailure)
    (hretries : cache.vacancy + arrival.toList.countP Arrival.fillsEmpty ≤
      system.cache.vacancy + event.toList.countP Event.settlesFailure) :
    Accounted ⟨cache, bus, system.callers.set caller phase⟩ (arrivals ++ arrival.toList)
      (starts ++ start.toList) (events ++ event.toList) := by
  have hleading := countP_callers_set hphase phase Phase.isLeading
  have hfailed := countP_callers_set hphase phase Phase.hasFailed
  obtain ⟨hfetchesBefore, hledBefore, hfailuresBefore, hretriesBefore⟩ := h
  refine ⟨?_, ?_, ?_, ?_⟩ <;> simp only [List.length_append, List.countP_append] <;> omega

theorem step (h : Accounted system arrivals starts events) {move : System.Move α}
    {event : Option (Event α)} (hstep : system.Step move event next) :
    Accounted next (arrivals ++ (system.arrivalOf move).toList)
      (starts ++ (system.startOf move).toList) (events ++ event.toList) := by
  cases hstep with
  | call request =>
      have hcalled (test : Phase α → Bool) (htest : test (.requested request) = false) :
          (system.callers ++ [Phase.requested request]).countP test =
            system.callers.countP test := by
        rw [List.countP_append, List.countP_singleton, htest]
        rfl
      simp only [System.arrivalOf, System.startOf, Option.toList_none, List.append_nil]
      refine ⟨h.fetches, ?_, ?_, h.retries⟩
      · rw [hcalled Phase.isLeading rfl]
        exact h.led
      · rw [hcalled Phase.hasFailed rfl]
        exact h.failures
  | publish dataset | subscribe | unsubscribe subscriber =>
      simp only [System.arrivalOf, System.startOf, Option.toList_none, List.append_nil]
      exact ⟨h.fetches, h.led, h.failures, h.retries⟩
  | look hphase | begin hphase | handOut hphase | collect hphase =>
      rw [System.arrivalOf_advance hphase, System.startOf_advance hphase]
      exact h.of_set hphase rfl rfl rfl (Nat.le_refl _)
  | serve hphase hslot | join hphase hslot =>
      rw [System.arrivalOf_advance hphase, System.startOf_advance hphase, Derived.state, hslot]
      exact h.of_set hphase rfl rfl rfl (Nat.le_refl _)
  | place hphase hrequest =>
      rw [System.arrivalOf_advance hphase, System.startOf_advance hphase]
      rcases hrequest with rfl | ⟨rfl, hslot⟩
      · exact h.of_set hphase rfl rfl rfl (Nat.zero_le _)
      · have hvacancy : system.cache.vacancy = 1 := by rw [Derived.vacancy, hslot]
        rw [Derived.state, hslot]
        refine h.of_set hphase rfl rfl rfl ?_
        rw [hvacancy]
        exact Nat.le_refl 1
  | finish fetchEnd hphase =>
      cases fetchEnd <;> exact h.of_set hphase rfl rfl rfl (Nat.le_refl _)
  | @settle caller flight fetched hphase =>
      rw [System.arrivalOf_advance hphase, System.startOf_advance hphase]
      refine h.of_set hphase (Derived.fetches_settle ..) rfl ?_ ?_
      · cases fetched <;> rfl
      · exact system.cache.vacancy_settle_le flight fetched

theorem countP_fillsEmpty_le (h : Accounted system arrivals starts events) :
    arrivals.countP Arrival.fillsEmpty ≤ events.countP Event.isFailure + 1 := by
  have hretries := h.retries
  have hfailures := h.failures
  omega

theorem run {dataset : String} {moves : List (System.Move α)}
    (hrun : (System.new dataset).run moves = some system) :
    Accounted system ((System.new dataset).arrivals moves) ((System.new dataset).starts moves)
      ((System.new dataset).events moves) := by
  refine System.run_induction (motive := fun moves system =>
    Accounted system ((System.new dataset).arrivals moves) ((System.new dataset).starts moves)
      ((System.new dataset).events moves)) (new dataset) ?_ hrun
  intro moves system move next hrun h happly
  rw [System.events_concat hrun happly, System.arrivals, System.record_concat _ hrun happly,
    System.starts, System.record_concat _ hrun happly]
  exact h.step (System.step_of_apply happly)

end Accounted

/-! ## Each call comes once -/

/-- How far a call has come: to the slot, and past the beginning of the fetch if it leads one. -/
def Phase.progress : Phase α → Nat
  | .requested _ => 0
  | .leading _ => 1
  | _ => 2

theorem Phase.progress_of_isLeading {phase : Phase α} (h : phase.isLeading = true) :
    phase.progress < 2 := by
  cases phase <;> simp_all [isLeading, progress]

theorem Phase.progress_of_asks {request : Request} {phase : Phase α}
    (h : phase.asks request = true) : phase.progress < 2 := by
  cases phase <;> simp_all [asks, progress]

namespace System

def Reached (system : System α) (caller level : Nat) : Prop :=
  ∃ phase, system.callers[caller]? = some phase ∧ level ≤ phase.progress

instance (system : System α) (caller level : Nat) : Decidable (system.Reached caller level) :=
  decidable_of_iff (∃ phase ∈ system.callers[caller]?, level ≤ phase.progress) Iff.rfl

theorem reached_iff_of_phase {system : System α} {caller level : Nat} {phase : Phase α}
    (h : system.callers[caller]? = some phase) :
    system.Reached caller level ↔ level ≤ phase.progress := by
  simp [Reached, h]

theorem Reached.mono {system : System α} {caller level lower : Nat}
    (h : system.Reached caller level) (hle : lower ≤ level) : system.Reached caller lower := by
  obtain ⟨phase, hphase, hlevel⟩ := h
  exact ⟨phase, hphase, Nat.le_trans hle hlevel⟩

theorem reached_set_self {system : System α} {caller : Nat} {old : Phase α}
    (hphase : system.callers[caller]? = some old) (cache : Derived α) (bus : Bus)
    (phase : Phase α) :
    (⟨cache, bus, system.callers.set caller phase⟩ : System α).Reached caller phase.progress :=
  ⟨phase, List.getElem?_set_self (List.getElem?_eq_some_iff.mp hphase).1, Nat.le_refl _⟩

theorem Reached.set {system : System α} {caller other level : Nat} {old phase : Phase α}
    (h : system.Reached other level) (hphase : system.callers[caller]? = some old)
    (cache : Derived α) (bus : Bus) (hprogress : old.progress ≤ phase.progress) :
    (⟨cache, bus, system.callers.set caller phase⟩ : System α).Reached other level := by
  obtain ⟨reached, hreached, hlevel⟩ := h
  by_cases hsame : caller = other
  · subst hsame
    cases hphase.symm.trans hreached
    obtain ⟨_, hset, hle⟩ := reached_set_self hphase cache bus phase
    exact ⟨_, hset, Nat.le_trans hlevel (Nat.le_trans hprogress hle)⟩
  · exact ⟨reached, (List.getElem?_set_ne hsame).trans hreached, hlevel⟩

/-- No call goes back. -/
theorem Step.reached {system next : System α} {move : Move α} {event : Option (Event α)}
    (hstep : Step system move event next) {caller level : Nat} (h : system.Reached caller level) :
    next.Reached caller level := by
  cases hstep with
  | call request =>
      obtain ⟨phase, hphase, hlevel⟩ := h
      have hlt := (List.getElem?_eq_some_iff.mp hphase).1
      exact ⟨phase, (List.getElem?_append_left hlt).trans hphase, hlevel⟩
  | publish dataset | subscribe | unsubscribe subscriber => exact h
  | look hphase | serve hphase | join hphase | place hphase | begin hphase =>
      exact h.set hphase _ _ (by simp [Phase.progress])
  | settle hphase | handOut hphase | collect hphase => exact h.set hphase _ _ (Nat.le_refl 2)
  | finish fetchEnd hphase => exact h.set hphase _ _ (Nat.le_refl 2)

/-- A call that comes to the slot was on its way before, and is there from then on. -/
theorem Step.of_arrival {system next : System α} {move : Move α} {event : Option (Event α)}
    (hstep : Step system move event next) {arrival : Arrival}
    (h : system.arrivalOf move = some arrival) :
    ¬ system.Reached arrival.caller 1 ∧ next.Reached arrival.caller 1 := by
  -- Whoever asks has reached nothing yet.
  have hasked {caller : Nat} {request : Request}
      (hphase : system.callers[caller]? = some (.requested request)) :
      ¬ system.Reached caller 1 :=
    (reached_iff_of_phase hphase).not.mpr (Nat.not_succ_le_zero 0)
  cases hstep with
  | serve hphase hslot | join hphase hslot =>
      cases (arrivalOf_advance hphase).symm.trans h
      exact ⟨hasked hphase, (reached_set_self hphase _ _ _).mono (Nat.le_succ 1)⟩
  | place hphase hrequest =>
      rcases hrequest with rfl | ⟨rfl, hslot⟩
      · cases (arrivalOf_advance hphase).symm.trans h
        exact ⟨hasked hphase, reached_set_self hphase _ _ _⟩
      · cases (arrivalOf_advance hphase).symm.trans h
        exact ⟨hasked hphase, reached_set_self hphase _ _ _⟩
  | call | publish | subscribe | unsubscribe | finish => cases h
  | look hphase | begin hphase | settle hphase | handOut hphase | collect hphase =>
      cases (arrivalOf_advance hphase).symm.trans h

/-- A fetch is begun by a caller that leads a flight, which leads it no longer. -/
theorem Step.of_start {system next : System α} {move : Move α} {event : Option (Event α)}
    (hstep : Step system move event next) {caller : Nat} (h : system.startOf move = some caller) :
    (∃ flight, system.callers[caller]? = some (.leading flight)) ∧ next.Reached caller 2 := by
  cases hstep with
  | begin hphase =>
      cases (startOf_advance hphase).symm.trans h
      exact ⟨⟨_, hphase⟩, reached_set_self hphase _ _ _⟩
  | call | publish | subscribe | unsubscribe | finish => cases h
  | look hphase | serve hphase | join hphase | place hphase | settle hphase | handOut hphase
  | collect hphase =>
      cases (startOf_advance hphase).symm.trans h

theorem Step.leading {system next : System α} {move : Move α} {event : Option (Event α)}
    (hstep : Step system move event next) {caller flight : Nat}
    (h : next.callers[caller]? = some (.leading flight)) :
    system.callers[caller]? = some (.leading flight) ∨
      ∃ arrival, system.arrivalOf move = some arrival ∧ arrival.caller = caller ∧
        (arrival.fillsEmpty = true ∨ arrival.refetches = true) := by
  cases hstep with
  | call request =>
      rcases phase_of_concat h with ⟨-, hphase⟩ | ⟨-, hphase⟩
      · cases hphase
      · exact Or.inl hphase
  | publish dataset | subscribe | unsubscribe subscriber => exact Or.inl h
  | place hphase hrequest =>
      rcases phase_of_set h with ⟨rfl, -⟩ | ⟨-, hold⟩
      · right
        rcases hrequest with rfl | ⟨rfl, hslot⟩
        · exact ⟨_, arrivalOf_advance hphase, rfl, Or.inr rfl⟩
        · refine ⟨_, arrivalOf_advance hphase, rfl, Or.inl ?_⟩
          rw [Derived.state, hslot]
          rfl
      · exact Or.inl hold
  | look hphase | serve hphase | join hphase | begin hphase | settle hphase | handOut hphase
  | collect hphase =>
      rcases phase_of_set h with ⟨-, hnew⟩ | ⟨-, hold⟩
      · cases hnew
      · exact Or.inl hold
  | finish fetchEnd hphase =>
      rcases phase_of_set h with ⟨-, hnew⟩ | ⟨-, hold⟩
      · cases hnew
      · exact Or.inl hold

theorem countP_eq_zero_of_reached {system : System α} {test : Phase α → Bool}
    (h : ∀ caller < system.callers.length, system.Reached caller 2)
    (htest : ∀ {phase}, test phase = true → phase.progress < 2) :
    system.callers.countP test = 0 := by
  refine List.countP_eq_zero.mpr fun phase hmem hphase => ?_
  obtain ⟨caller, hlt, rfl⟩ := List.mem_iff_getElem.mp hmem
  obtain ⟨_, hreached, hlevel⟩ := h caller hlt
  cases (List.getElem?_eq_getElem hlt).symm.trans hreached
  exact absurd hlevel (Nat.not_le.mpr (htest hphase))

end System

def CameFor (arrivals : List Arrival) (request : Request) (caller : Nat) : Prop :=
  ∃ arrival ∈ arrivals, arrival.caller = caller ∧ arrival.request = request

instance (arrivals : List Arrival) (request : Request) (caller : Nat) :
    Decidable (CameFor arrivals request caller) :=
  inferInstanceAs (Decidable (∃ arrival ∈ arrivals, _))

/-- The call has come to the slot and leads a flight. -/
def Led (arrivals : List Arrival) (caller : Nat) : Prop :=
  ∃ arrival ∈ arrivals, arrival.caller = caller ∧
    (arrival.fillsEmpty = true ∨ arrival.refetches = true)

theorem Led.append {arrivals : List Arrival} {caller : Nat} (h : Led arrivals caller)
    (more : List Arrival) : Led (arrivals ++ more) caller := by
  obtain ⟨arrival, harrival, hcaller, hleads⟩ := h
  exact ⟨arrival, List.mem_append_left _ harrival, hcaller, hleads⟩

private theorem nodup_append_toList {β : Type} {values : List β} {value : Option β}
    (h : values.Nodup) (hnew : ∀ added ∈ value, added ∉ values) :
    (values ++ value.toList).Nodup := by
  cases value with
  | none => simpa using h
  | some added =>
      exact (List.perm_append_singleton added values).nodup_iff.mpr
        (List.nodup_cons.mpr ⟨hnew added rfl, h⟩)

/-- Each call comes to the slot once, and once at most it begins a fetch, which it leads. -/
structure Chronicle (system : System α) (arrivals : List Arrival) (starts : List Nat) : Prop where
  arrived : ∀ arrival ∈ arrivals, system.Reached arrival.caller 1
  distinct : (arrivals.map Arrival.caller).Nodup
  leading : ∀ {caller flight}, system.callers[caller]? = some (.leading flight) →
    Led arrivals caller
  started : ∀ caller ∈ starts, system.Reached caller 2 ∧ Led arrivals caller
  once : starts.Nodup

namespace Chronicle

variable {system next : System α} {arrivals : List Arrival} {starts : List Nat}

theorem new (dataset : String) : Chronicle (System.new dataset : System α) [] [] where
  arrived _ h := by cases h
  distinct := List.nodup_nil
  leading h := by simp [System.new] at h
  started _ h := by cases h
  once := List.nodup_nil

theorem step (h : Chronicle system arrivals starts) {move : System.Move α}
    {event : Option (Event α)} (hstep : system.Step move event next) :
    Chronicle next (arrivals ++ (system.arrivalOf move).toList)
      (starts ++ (system.startOf move).toList) where
  arrived arrival harrival := by
    rcases List.mem_append.mp harrival with hold | hnew
    · exact hstep.reached (h.arrived arrival hold)
    · exact (hstep.of_arrival (Option.mem_toList.mp hnew)).2
  distinct := by
    rw [List.map_append, ← Option.toList_map]
    refine nodup_append_toList h.distinct fun caller hcaller hold => ?_
    obtain ⟨arrival, harrival, rfl⟩ := Option.map_eq_some_iff.mp hcaller
    obtain ⟨before, hbefore, hsame⟩ := List.mem_map.mp hold
    exact (hstep.of_arrival harrival).1 (hsame ▸ h.arrived before hbefore)
  leading hleading := by
    rcases hstep.leading hleading with hold | ⟨arrival, harrival, hcaller, hleads⟩
    · exact (h.leading hold).append _
    · exact ⟨arrival, List.mem_append_right _ (Option.mem_toList.mpr harrival), hcaller, hleads⟩
  started caller hcaller := by
    rcases List.mem_append.mp hcaller with hold | hnew
    · obtain ⟨hreached, hled⟩ := h.started caller hold
      exact ⟨hstep.reached hreached, hled.append _⟩
    · obtain ⟨⟨flight, hleading⟩, hreached⟩ := hstep.of_start (Option.mem_toList.mp hnew)
      exact ⟨hreached, (h.leading hleading).append _⟩
  once := by
    refine nodup_append_toList h.once fun caller hcaller hold => ?_
    obtain ⟨⟨flight, hleading⟩, -⟩ := hstep.of_start hcaller
    exact Nat.lt_irrefl 1 ((System.reached_iff_of_phase hleading).mp (h.started caller hold).1)

theorem run {dataset : String} {moves : List (System.Move α)}
    (hrun : (System.new dataset).run moves = some system) :
    Chronicle system ((System.new dataset).arrivals moves)
      ((System.new dataset).starts moves) := by
  refine System.run_induction (motive := fun moves system =>
    Chronicle system ((System.new dataset).arrivals moves) ((System.new dataset).starts moves))
    (new dataset) ?_ hrun
  intro moves system move next hrun h happly
  rw [System.arrivals, System.record_concat _ hrun happly, System.starts,
    System.record_concat _ hrun happly]
  exact h.step (System.step_of_apply happly)

/-- A call that merely asks begins a fetch only if it has found the slot empty. -/
theorem countP_starts_le (h : Chronicle system arrivals starts) :
    starts.countP (CameFor arrivals .get) ≤ arrivals.countP Arrival.fillsEmpty := by
  rw [List.countP_eq_length_filter, List.countP_eq_length_filter,
    ← List.length_map Arrival.caller]
  refine ((List.Nodup.filter _ h.once).subperm fun caller hcaller => ?_).length_le
  obtain ⟨hstarted, hasked⟩ := List.mem_filter.mp hcaller
  obtain ⟨arrival, harrival, rfl, hget⟩ := of_decide_eq_true hasked
  obtain ⟨leader, hleader, hsame, hleads⟩ := (h.started _ hstarted).2
  obtain rfl := List.inj_on_of_nodup_map h.distinct hleader harrival hsame
  refine List.mem_map_of_mem (List.mem_filter.mpr ⟨harrival, hleads.resolve_right ?_⟩)
  simp [Arrival.refetches, hget]

end Chronicle

/-! ## Fresh fetches that were asked for -/

/-- Nobody renders, and each call for a fresh fetch has come to the slot or is on its way. -/
structure Direct (system : System α) (arrivals : List Arrival) (requests : List Request) :
    Prop where
  direct : ∀ subscriber, .requested (.render subscriber) ∉ system.callers
  refetches : arrivals.countP Arrival.refetches + system.callers.countP (Phase.asks .refetch) =
    requests.count .refetch

namespace Direct

variable {system next : System α} {arrivals : List Arrival} {asked : List Request}

theorem new (dataset : String) : Direct (System.new dataset : System α) [] [] where
  direct _ h := by cases h
  refetches := rfl

theorem of_set (h : Direct system arrivals asked) {caller : Nat} {old phase : Phase α}
    (hphase : system.callers[caller]? = some old) {cache : Derived α} {bus : Bus}
    {arrival : Option Arrival} (hdirect : ∀ subscriber, phase ≠ .requested (.render subscriber))
    (hrefetches : arrival.toList.countP Arrival.refetches + (phase.asks .refetch).toNat =
      (old.asks .refetch).toNat) :
    Direct ⟨cache, bus, system.callers.set caller phase⟩ (arrivals ++ arrival.toList)
      (asked ++ []) where
  direct subscriber hmem := by
    rcases List.mem_or_eq_of_mem_set hmem with hold | hnew
    · exact h.direct subscriber hold
    · exact hdirect subscriber hnew.symm
  refetches := by
    have hasks := countP_callers_set hphase phase (Phase.asks .refetch)
    have hbefore := h.refetches
    simp only [List.countP_append, List.append_nil]
    omega

theorem step (h : Direct system arrivals asked) {move : System.Move α}
    {event : Option (Event α)} (hstep : system.Step move event next)
    (hdirect : ∀ subscriber, .render subscriber ∉ System.requests [move]) :
    Direct next (arrivals ++ (system.arrivalOf move).toList)
      (asked ++ System.requests [move]) := by
  cases hstep with
  | call request =>
      refine ⟨fun subscriber hmem => ?_, ?_⟩
      · rcases List.mem_append.mp hmem with hold | hnew
        · exact h.direct subscriber hold
        · cases List.mem_singleton.mp hnew
          exact hdirect subscriber (List.mem_singleton_self _)
      · have hbefore := h.refetches
        simp only [System.arrivalOf, System.requests, Option.toList_none, List.append_nil,
          List.filterMap_cons, List.filterMap_nil, List.countP_append, List.count_append,
          List.countP_singleton, List.count_singleton, Phase.asks]
        rw [← Nat.add_assoc, hbefore]
        rfl
  | publish dataset | subscribe | unsubscribe subscriber =>
      exact ⟨h.direct, by simpa [System.arrivalOf, System.requests] using h.refetches⟩
  | look hphase => exact absurd (List.mem_of_getElem? hphase) (h.direct _)
  | serve hphase hslot | join hphase hslot =>
      rw [System.arrivalOf_advance hphase]
      exact h.of_set hphase (fun _ heq => by cases heq) rfl
  | place hphase hrequest =>
      rw [System.arrivalOf_advance hphase]
      rcases hrequest with rfl | ⟨rfl, -⟩
      · exact h.of_set hphase (fun _ heq => by cases heq) rfl
      · exact h.of_set hphase (fun _ heq => by cases heq) rfl
  | begin hphase | settle hphase | handOut hphase | collect hphase =>
      rw [System.arrivalOf_advance hphase]
      exact h.of_set hphase (fun _ heq => by cases heq) rfl
  | finish fetchEnd hphase =>
      exact h.of_set hphase (fun _ heq => by cases heq) rfl

theorem run {dataset : String} {moves : List (System.Move α)}
    (hrun : (System.new dataset).run moves = some system)
    (hdirect : ∀ subscriber, .render subscriber ∉ System.requests moves) :
    Direct system ((System.new dataset).arrivals moves) (System.requests moves) := by
  refine System.run_induction (motive := fun moves system =>
    (∀ subscriber, .render subscriber ∉ System.requests moves) →
      Direct system ((System.new dataset).arrivals moves) (System.requests moves))
    (fun _ => new dataset) ?_ hrun hdirect
  intro moves system move next hrun h happly hdirect
  rw [System.requests_concat] at hdirect
  rw [System.arrivals, System.record_concat _ hrun happly, System.requests_concat]
  have hbefore := h fun subscriber hmem => hdirect subscriber (List.mem_append_left _ hmem)
  exact hbefore.step (System.step_of_apply happly) fun subscriber hmem =>
    hdirect subscriber (List.mem_append_right _ hmem)

end Direct

/-! ## Without fresh fetches -/

/-- The value of a fetch is in the slot, or its leader is about to settle it. -/
def System.Delivers (system : System α) : Prop :=
  (∃ (caller flight : Nat) (value : α),
      system.callers[caller]? = some (.ended flight (.ok value))) ∨
    ∃ value, system.cache.slot = .ready value

theorem System.Delivers.set {system : System α} {caller : Nat} {old : Phase α}
    (h : system.Delivers) (hphase : system.callers[caller]? = some old)
    (hold : ∀ flight value, old ≠ .ended flight (.ok value)) {cache : Derived α}
    (hslot : cache.slot = system.cache.slot) (bus : Bus) (phase : Phase α) :
    (⟨cache, bus, system.callers.set caller phase⟩ : System α).Delivers := by
  rcases h with ⟨leader, flight, value, hleader⟩ | hready
  · refine Or.inl ⟨leader, flight, value, (List.getElem?_set_ne ?_).trans hleader⟩
    rintro rfl
    exact hold flight value (Option.some.inj (hphase.symm.trans hleader))
  · exact Or.inr (hslot ▸ hready)

/-- Whoever has yet to settle leads the flight in the slot, and after a success no fetch begins. -/
structure Alone (system : System α) (events : List (Event α)) : Prop where
  loading : ∀ {caller flight}, system.unsettled? caller = some flight →
    system.cache.slot = .loading flight
  succeeded : ∀ event ∈ events, event.isSuccess = true → system.Delivers
  ordered : events.Pairwise fun earlier later => earlier.isSuccess = true → later.isBegan = false

namespace Alone

variable {system next : System α} {events : List (Event α)}

theorem new (dataset : String) : Alone (System.new dataset : System α) [] where
  loading h := by simp [System.unsettled?, System.new] at h
  succeeded _ h := by cases h
  ordered := .nil

theorem single (h : Alone system events) (hconsistent : Consistent system events)
    {caller other flight otherFlight : Nat} (hcaller : system.unsettled? caller = some flight)
    (hother : system.unsettled? other = some otherFlight) : caller = other := by
  cases (h.loading hcaller).symm.trans (h.loading hother)
  exact hconsistent.single hcaller hother

/-- As long as some caller has yet to settle and has no value, no fetch has succeeded. -/
theorem not_delivers (h : Alone system events) (hconsistent : Consistent system events)
    {caller flight : Nat} {phase : Phase α} (hphase : system.callers[caller]? = some phase)
    (hunsettled : phase.unsettled? = some flight)
    (hvalue : ∀ flight value, phase ≠ .ended flight (.ok value)) : ¬ system.Delivers := by
  have hcaller := System.unsettled?_of_phase hphase hunsettled
  rintro (⟨leader, led, value, hleader⟩ | ⟨value, hready⟩)
  · obtain rfl := h.single hconsistent hcaller (System.unsettled?_of_phase hleader rfl)
    exact hvalue led value (Option.some.inj (hphase.symm.trans hleader))
  · cases hready.symm.trans (h.loading hcaller)

theorem of_same (h : Alone system events)
    (hunsettled : ∀ caller, next.unsettled? caller = system.unsettled? caller)
    (hslot : next.cache.slot = system.cache.slot) (hdelivers : system.Delivers → next.Delivers) :
    Alone next events := by
  refine ⟨fun {caller flight} hcaller => ?_, fun event hevent hsuccess => ?_, h.ordered⟩
  · rw [hslot]
    exact h.loading ((hunsettled caller).symm.trans hcaller)
  · exact hdelivers (h.succeeded event hevent hsuccess)

theorem concat (h : Alone system events) {event : Event α}
    (hloading : ∀ {caller flight}, next.unsettled? caller = some flight →
      next.cache.slot = .loading flight)
    (hdelivers : system.Delivers ∨ event.isSuccess = true → next.Delivers)
    (hbegan : system.Delivers → event.isBegan = false) : Alone next (events ++ [event]) := by
  refine ⟨hloading, fun other hother hsuccess => ?_, ?_⟩
  · rcases List.mem_append.mp hother with hold | hnew
    · exact hdelivers (Or.inl (h.succeeded other hold hsuccess))
    · cases List.mem_singleton.mp hnew
      exact hdelivers (Or.inr hsuccess)
  · rw [List.pairwise_append]
    refine ⟨h.ordered, List.pairwise_singleton .., fun earlier hearlier later hlater hsuccess => ?_⟩
    cases List.mem_singleton.mp hlater
    exact hbegan (h.succeeded earlier hearlier hsuccess)

theorem step (h : Alone system events) (hconsistent : Consistent system events)
    {move : System.Move α} {event : Option (Event α)} (hstep : system.Step move event next)
    (hget : ∀ arrival, system.arrivalOf move = some arrival → arrival.request ≠ .refetch) :
    Alone next (events ++ event.toList) := by
  cases hstep with
  | call request =>
      rw [Option.toList_none, List.append_nil]
      refine h.of_same (system.unsettled?_concat system.cache system.bus request) rfl ?_
      rintro (⟨leader, flight, value, hleader⟩ | hready)
      · have hlt := (List.getElem?_eq_some_iff.mp hleader).1
        exact Or.inl ⟨leader, flight, value, (List.getElem?_append_left hlt).trans hleader⟩
      · exact Or.inr hready
  | publish dataset | subscribe | unsubscribe subscriber =>
      rw [Option.toList_none, List.append_nil]
      exact h.of_same (fun _ => rfl) rfl id
  | look hphase | serve hphase | join hphase | handOut hphase | collect hphase =>
      rw [Option.toList_none, List.append_nil]
      refine h.of_same (fun _ => System.unsettled?_set_of_eq hphase (by rfl) ..) rfl ?_
      exact fun hdelivers => hdelivers.set hphase (fun _ _ heq => by cases heq) (by rfl) _ _
  | @place caller request hphase hrequest =>
      rcases hrequest with rfl | ⟨rfl, hslot⟩
      · exact absurd rfl (hget _ (System.arrivalOf_advance hphase))
      · have hidle (other flight : Nat) : system.unsettled? other ≠ some flight := by
          intro hother
          cases hslot.symm.trans (h.loading hother)
        refine h.concat (fun {other flight} hother => ?_) ?_ fun _ => rfl
        · rw [System.unsettled?_set hphase] at hother
          split at hother
          · cases hother
            rfl
          · exact absurd hother (hidle other flight)
        · rintro ((⟨leader, flight, value, hleader⟩ | ⟨value, hready⟩) | hsuccess)
          · exact absurd (System.unsettled?_of_phase hleader rfl) (hidle leader flight)
          · cases hslot.symm.trans hready
          · cases hsuccess
  | begin hphase =>
      have hnone := h.not_delivers hconsistent hphase rfl fun _ _ heq => by cases heq
      refine h.concat (fun hother => ?_) ?_ fun hdelivers => absurd hdelivers hnone
      · rw [System.unsettled?_set_of_eq hphase (by rfl)] at hother
        exact h.loading hother
      · rintro (hdelivers | hsuccess)
        · exact absurd hdelivers hnone
        · cases hsuccess
  | @finish caller flight fetch fetchEnd hphase =>
      have hnone := h.not_delivers hconsistent hphase rfl fun _ _ heq => by cases heq
      refine h.concat (fun hother => ?_) ?_ fun _ => rfl
      · rw [System.unsettled?_set_of_eq hphase (by rfl)] at hother
        exact h.loading hother
      · rintro (hdelivers | hsuccess)
        · exact absurd hdelivers hnone
        · cases fetchEnd with
          | succeeded value =>
              have hlt := (List.getElem?_eq_some_iff.mp hphase).1
              exact Or.inl ⟨caller, flight, value, List.getElem?_set_self hlt⟩
          | failed failure => cases hsuccess
          | panicked message => cases hsuccess
  | @settle caller flight fetched hphase =>
      have hcaller := System.unsettled?_of_phase hphase rfl
      refine h.concat (fun {other led} hother => ?_) ?_ fun _ => rfl
      · rw [System.unsettled?_set hphase] at hother
        split at hother
        · cases hother
        · next hne => exact absurd (h.single hconsistent hcaller hother) hne
      · rintro (hdelivers | hsuccess)
        · cases fetched with
          | ok value =>
              refine Or.inr ⟨value, ?_⟩
              dsimp only
              rw [Derived.settle_of_loading (h.loading hcaller)]
              rfl
          | error failure =>
              refine absurd hdelivers (h.not_delivers hconsistent hphase rfl ?_)
              exact fun _ _ heq => by cases heq
        · cases hsuccess

theorem run {dataset : String} {moves : List (System.Move α)}
    (hrun : (System.new dataset).run moves = some system)
    (hget : ∀ arrival ∈ (System.new dataset : System α).arrivals moves,
      arrival.request ≠ .refetch) : Alone system ((System.new dataset).events moves) := by
  refine System.run_induction (motive := fun moves system =>
    (∀ arrival ∈ (System.new dataset : System α).arrivals moves, arrival.request ≠ .refetch) →
      Alone system ((System.new dataset).events moves)) (fun _ => new dataset) ?_ hrun hget
  intro moves system move next hrun h happly hget
  rw [System.arrivals, System.record_concat _ hrun happly] at hget
  rw [System.events_concat hrun happly]
  have hbefore := h fun arrival harrival => hget arrival (List.mem_append_left _ harrival)
  exact hbefore.step (Consistent.run hrun) (System.step_of_apply happly) fun arrival harrival =>
    hget arrival (List.mem_append_right _ (Option.mem_toList.mpr harrival))

end Alone

/-- However calls interleave and fetches end: once every call is past its first steps, the fetches
are as many as the calls that found the slot empty and those that wanted a fresh fetch; of the
fetches, those begun by calls that merely ask are one more than have failed, at most; and if no
call wants a fresh fetch, there is one fetch at a time and none after a success. -/
theorem fetches_coalesced {dataset : String} {moves : List (System.Move α)} {system : System α}
    (hrun : (System.new dataset).run moves = some system) :
    let arrivals := (System.new dataset : System α).arrivals moves
    let starts := (System.new dataset : System α).starts moves
    let events := (System.new dataset).events moves
    system.cache.fetches = starts.length ∧
    ((∀ caller < system.callers.length, system.Reached caller 2) →
      system.cache.fetches =
        arrivals.countP Arrival.fillsEmpty + arrivals.countP Arrival.refetches ∧
      ((∀ subscriber, .render subscriber ∉ System.requests moves) →
        arrivals.countP Arrival.refetches = (System.requests moves).count .refetch)) ∧
    starts.countP (CameFor arrivals .get) ≤ events.countP Event.isFailure + 1 ∧
    ((∀ arrival ∈ arrivals, arrival.request ≠ .refetch) →
      (∀ caller other, system.Fetching caller → system.Fetching other → caller = other) ∧
      events.Pairwise fun earlier later =>
        earlier.isSuccess = true → later.isBegan = false) := by
  intro arrivals starts events
  have haccounted := Accounted.run hrun
  have hchronicle := Chronicle.run hrun
  refine ⟨haccounted.fetches, fun hpast => ⟨?_, fun hdirect => ?_⟩, ?_, fun hget => ⟨?_, ?_⟩⟩
  · have hled := haccounted.led
    rw [System.countP_eq_zero_of_reached hpast Phase.progress_of_isLeading, Nat.add_zero] at hled
    exact haccounted.fetches.trans hled
  · have hrefetches := (Direct.run hrun hdirect).refetches
    rwa [System.countP_eq_zero_of_reached hpast Phase.progress_of_asks, Nat.add_zero] at hrefetches
  · exact Nat.le_trans hchronicle.countP_starts_le haccounted.countP_fillsEmpty_le
  · rintro caller other ⟨flight, fetch, hcaller⟩ ⟨otherFlight, otherFetch, hother⟩
    exact (Alone.run hrun hget).single (Consistent.run hrun)
      (System.unsettled?_of_phase hcaller rfl) (System.unsettled?_of_phase hother rfl)
  · exact (Alone.run hrun hget).ordered

/-- A flight with a waiter is superseded and both fetches fail, so that one more call finds the
slot empty. -/
def retried : List (System.Move Nat) :=
  [.call .get, .call .get, .advance 0, .advance 1, .call .refetch, .advance 2, .advance 0,
    .advance 2, .finishFetch 0 (.panicked none), .advance 0,
    .finishFetch 2 (.failed ⟨"colors", "gone"⟩), .advance 2, .call .get, .advance 3, .advance 3]

/-- The fetch of the first of two calls fails, that of a third one succeeds. -/
def patient : List (System.Move Nat) :=
  [.call .get, .call .get, .advance 0, .advance 1, .advance 0, .call .get,
    .finishFetch 0 (.failed ⟨"colors", "gone"⟩), .advance 0, .advance 2, .advance 2,
    .finishFetch 2 (.succeeded 7), .advance 2]

theorem retried_counts :
    (∃ system, (System.new "colors").run retried = some system ∧
      system.cache.fetches = 2 + (System.requests retried).count .refetch) ∧
    (((System.new "colors").starts retried).countP
      (CameFor ((System.new "colors").arrivals retried) .get)) = 2 ∧
    2 ≤ ((System.new "colors").events retried).countP Event.isFailure + 1 ∧
    ((System.new "colors").events patient).Pairwise fun earlier later =>
      earlier.isSuccess = true → later.isBegan = false := by
  obtain ⟨system, hrun, hpast⟩ : ∃ system, (System.new "colors").run retried = some system ∧
      ∀ caller < system.callers.length, system.Reached caller 2 := ⟨_, rfl, by decide⟩
  obtain ⟨other, hother⟩ : ∃ other, (System.new "colors").run patient = some other := ⟨_, rfl⟩
  obtain ⟨-, hcounts, hretries, -⟩ := fetches_coalesced hrun
  obtain ⟨-, -, -, halone⟩ := fetches_coalesced hother
  obtain ⟨hfetches, hrefetches⟩ := hcounts hpast
  have hstarts : ((System.new "colors").starts retried).countP
      (CameFor ((System.new "colors").arrivals retried) .get) = 2 := by decide
  rw [hstarts] at hretries
  refine ⟨⟨system, hrun, ?_⟩, hstarts, hretries, (halone (by decide)).2⟩
  rw [hfetches, hrefetches (by simp [System.requests, retried])]
  rfl

end TagLedger.Cache
