import TagLedger.Proofs.Cache.Leaders

/-!
# Waiters and their leaders

Whoever waits for a flight is counted with it, and is given the outcome that its leader returns,
whatever becomes of the slot in the meantime.
-/

namespace TagLedger.Cache

variable {α : Type}

def Phase.waitsFor (flight : Nat) : Phase α → Bool
  | .parked other => other == flight
  | _ => false

namespace System

def Waits (system : System α) (caller flight : Nat) : Prop :=
  system.callers[caller]? = some (.parked flight)

/-- The caller has returned with the outcome of the flight. -/
def Served (system : System α) (caller flight : Nat) : Prop :=
  ∃ fetched, system.callers[caller]? = some (.returned fetched) ∧
    system.cache.handedOut? flight = some fetched

end System

/-! ## Waiting callers are counted -/

theorem countP_callers_set {callers : List (Phase α)} {caller : Nat} {old : Phase α}
    (hphase : callers[caller]? = some old) (phase : Phase α) (test : Phase α → Bool) :
    (callers.set caller phase).countP test + (test old).toNat =
      callers.countP test + (test phase).toNat := by
  obtain ⟨hlt, rfl⟩ := List.getElem?_eq_some_iff.mp hphase
  have hcounted : test callers[caller] = true → 0 < callers.countP test := fun htest =>
    List.countP_pos_iff.mpr ⟨_, List.getElem_mem hlt, htest⟩
  rw [List.countP_set hlt]
  cases hold : test callers[caller] <;> cases test phase <;> simp_all

/-- The counter of a flight is the number of callers that wait for it. -/
def Counted (system : System α) : Prop :=
  ∀ flight held, system.cache.flights[flight]? = some held →
    held.waiting = system.callers.countP (Phase.waitsFor flight)

namespace Counted

variable {system next : System α}

theorem of_set (h : Counted system) {caller : Nat} {old phase : Phase α} {cache : Derived α}
    (hphase : system.callers[caller]? = some old)
    (hflights : ∀ flight held, cache.flights[flight]? = some held →
      ∃ before, system.cache.flights[flight]? = some before ∧
        held.waiting + (old.waitsFor flight).toNat =
          before.waiting + (phase.waitsFor flight).toNat) (bus : Bus) :
    Counted ⟨cache, bus, system.callers.set caller phase⟩ := by
  intro flight held hheld
  obtain ⟨before, hbefore, hwaiting⟩ := hflights flight held hheld
  have hcount := countP_callers_set hphase phase (Phase.waitsFor flight)
  have hold := h flight before hbefore
  dsimp only
  omega

theorem waiting_pos (h : Counted system) {caller flight : Nat} (hwaits : system.Waits caller flight)
    {held : Flight α} (hheld : system.cache.flights[flight]? = some held) : 0 < held.waiting := by
  rw [h flight held hheld]
  refine List.countP_pos_iff.mpr ⟨.parked flight, List.mem_of_getElem? hwaits, ?_⟩
  simp [Phase.waitsFor]

theorem join (h : Counted system) {caller flight : Nat}
    (hphase : system.callers[caller]? = some (.requested .get)) (bus : Bus) :
    Counted ⟨system.cache.withFlight flight fun flight =>
        { flight with waiting := flight.waiting + 1 }, bus,
      system.callers.set caller (.parked flight)⟩ := by
  refine h.of_set hphase (fun other held hheld => ?_) bus
  rw [Derived.withFlight, List.getElem?_modify] at hheld
  obtain ⟨before, hbefore, rfl⟩ := Option.map_eq_some_iff.mp hheld
  refine ⟨before, hbefore, ?_⟩
  by_cases hsame : flight = other <;> simp [Phase.waitsFor, hsame]

theorem collect (h : Counted system) {caller flight : Nat} {fetched : Fetched α}
    (hphase : system.callers[caller]? = some (.parked flight)) (bus : Bus) :
    Counted ⟨system.cache.withFlight flight fun flight =>
        { flight with waiting := flight.waiting - 1 }, bus,
      system.callers.set caller (.returned fetched)⟩ := by
  refine h.of_set hphase (fun other held hheld => ?_) bus
  rw [Derived.withFlight, List.getElem?_modify] at hheld
  obtain ⟨before, hbefore, rfl⟩ := Option.map_eq_some_iff.mp hheld
  refine ⟨before, hbefore, ?_⟩
  by_cases hsame : flight = other
  · subst hsame
    have hpositive := h.waiting_pos hphase hbefore
    simp [Phase.waitsFor]
    omega
  · simp [Phase.waitsFor, hsame]

theorem place (h : Counted system) (hbounded : Bounded system) {caller : Nat} {request : Request}
    (hphase : system.callers[caller]? = some (.requested request)) (bus : Bus) :
    Counted ⟨system.cache.supersede.2, bus,
      system.callers.set caller (.leading system.cache.flights.length)⟩ := by
  intro flight held hheld
  have hcount := countP_callers_set hphase (.leading system.cache.flights.length)
    (Phase.waitsFor flight)
  simp only [Phase.waitsFor, Bool.toNat_false, Nat.add_zero] at hcount
  dsimp only
  rw [hcount]
  rcases Nat.lt_trichotomy flight system.cache.flights.length with hlt | rfl | hgt
  · rw [Derived.supersede, List.getElem?_append_left hlt] at hheld
    exact h flight held hheld
  · rw [Derived.supersede, List.getElem?_concat_length] at hheld
    cases hheld
    refine (List.countP_eq_zero.mpr fun phase hmem hwaits => ?_).symm
    obtain ⟨other, hother⟩ := List.mem_iff_getElem?.mp hmem
    cases phase <;> simp only [Phase.waitsFor, Bool.false_eq_true, beq_iff_eq] at hwaits
    exact absurd (hbounded other _ _ hother (congrArg some hwaits)) (Nat.lt_irrefl _)
  · rw [Derived.supersede, List.getElem?_eq_none (by simp; omega)] at hheld
    cases hheld

theorem step (h : Counted system) (hbounded : Bounded system) {move : System.Move α}
    {event : Option (Event α)} (hstep : system.Step move event next) : Counted next := by
  cases hstep with
  | call request =>
      intro flight held hheld
      rw [h flight held hheld, List.countP_append]
      rfl
  | publish dataset | subscribe | unsubscribe subscriber => exact h
  | look hphase => exact h.of_set hphase (fun flight held hheld => ⟨held, hheld, by rfl⟩) _
  | serve hphase | begin hphase =>
      exact h.of_set hphase (fun flight held hheld => ⟨held, hheld, by rfl⟩) system.bus
  | finish fetchEnd hphase =>
      exact h.of_set hphase (fun flight held hheld => ⟨held, hheld, by rfl⟩) system.bus
  | join hphase hslot => exact h.join hphase system.bus
  | place hphase hrequest => exact h.place hbounded hphase system.bus
  | settle hphase =>
      refine h.of_set hphase (fun flight held hheld => ?_) _
      rw [Derived.flights_settle] at hheld
      exact ⟨held, hheld, rfl⟩
  | @handOut caller flight fetched hphase =>
      refine h.of_set hphase (fun other held hheld => ?_) _
      rw [Derived.handOut, List.getElem?_modify] at hheld
      obtain ⟨before, hbefore, rfl⟩ := Option.map_eq_some_iff.mp hheld
      refine ⟨before, hbefore, ?_⟩
      by_cases hsame : flight = other <;> simp [Phase.waitsFor, hsame]
  | collect hphase houtcome => exact h.collect hphase system.bus

theorem run {dataset : String} {moves : List (System.Move α)}
    (hrun : (System.new dataset).run moves = some system) : Counted system := by
  refine System.run_induction (motive := fun _ system => Counted system) ?_ ?_ hrun
  · intro flight held hheld
    simp [System.new, Derived.new] at hheld
  · intro moves system move next hrun h happly
    exact h.step (Bounded.run hrun) (System.step_of_apply happly)

end Counted

/-! ## From waiting to returning -/

theorem exists_phase_of_set {callers : List (Phase α)} {mover caller : Nat} {old phase : Phase α}
    (hmover : callers[mover]? = some old) (hphase : callers[caller]? = some phase)
    {new : Phase α} {motive : Phase α → Prop} (hstays : motive phase)
    (hmoves : phase = old → motive new) :
    ∃ later, (callers.set mover new)[caller]? = some later ∧ motive later := by
  by_cases hsame : mover = caller
  · subst hsame
    refine ⟨new, ?_, hmoves (Option.some.inj (hphase.symm.trans hmover))⟩
    rw [List.getElem?_set_self (List.getElem?_eq_some_iff.mp hmover).1]
  · exact ⟨phase, by rwa [List.getElem?_set_ne hsame], hstays⟩

/-- What a step does to the phase of a caller: it stays as it is, or the caller goes on with its
request, goes on leading its flight, or returns with the outcome of its flight. -/
theorem System.Step.phase_cases {system next : System α} {move : System.Move α}
    {event : Option (Event α)} (hattended : Attended system)
    (hstep : system.Step move event next) {caller : Nat} {phase : Phase α}
    (hphase : system.callers[caller]? = some phase) :
    ∃ later, next.callers[caller]? = some later ∧
      (later = phase ∨ (∃ request, phase = .requested request) ∨
        (∃ flight, phase.led? = some flight ∧ later.led? = some flight) ∨
        ∃ flight fetched, (phase = .settled flight fetched ∨ phase = .parked flight) ∧
          later = .returned fetched ∧ next.cache.handedOut? flight = some fetched) := by
  cases hstep with
  | call request =>
      refine ⟨phase, ?_, Or.inl rfl⟩
      rw [List.getElem?_append_left (List.getElem?_eq_some_iff.mp hphase).1, hphase]
  | publish dataset | subscribe | unsubscribe subscriber => exact ⟨phase, hphase, Or.inl rfl⟩
  | look hmover | serve hmover | join hmover | place hmover =>
      exact exists_phase_of_set hmover hphase (Or.inl rfl) fun heq => Or.inr (Or.inl ⟨_, heq⟩)
  | begin hmover | settle hmover =>
      refine exists_phase_of_set hmover hphase (Or.inl rfl) fun heq => ?_
      exact Or.inr (Or.inr (Or.inl ⟨_, heq ▸ rfl, rfl⟩))
  | finish fetchEnd hmover =>
      refine exists_phase_of_set hmover hphase (Or.inl rfl) fun heq => ?_
      exact Or.inr (Or.inr (Or.inl ⟨_, heq ▸ rfl, rfl⟩))
  | @handOut mover flight fetched hmover =>
      refine exists_phase_of_set hmover hphase (Or.inl rfl) fun heq => ?_
      have hlt := (hattended.pending (leads_of_phase hmover rfl)).1
      exact Or.inr (Or.inr (Or.inr ⟨flight, fetched, Or.inl heq, rfl,
        Derived.handedOut?_handOut_self hlt fetched⟩))
  | @collect mover flight fetched hmover houtcome =>
      refine exists_phase_of_set hmover hphase (Or.inl rfl) fun heq => ?_
      refine Or.inr (Or.inr (Or.inr ⟨flight, fetched, Or.inr heq, rfl, ?_⟩))
      exact (Derived.handedOut?_withFlight _ _ _ (by intro; rfl)).trans houtcome

/-- An outcome that was handed out is not handed out again. -/
theorem System.Step.handedOut?_eq_some {system next : System α} {move : System.Move α}
    {event : Option (Event α)} (hattended : Attended system)
    (hstep : system.Step move event next) {flight : Nat} {fetched : Fetched α}
    (h : system.cache.handedOut? flight = some fetched) :
    next.cache.handedOut? flight = some fetched := by
  cases hstep with
  | call request | publish dataset | subscribe | unsubscribe subscriber => exact h
  | look hphase | serve hphase | begin hphase => exact h
  | finish fetchEnd hphase => exact h
  | join hphase | collect hphase =>
      exact (Derived.handedOut?_withFlight _ _ _ (by intro; rfl)).trans h
  | place hphase => exact (Derived.handedOut?_supersede _ _).trans h
  | settle hphase => rwa [Derived.handedOut?, Derived.flights_settle]
  | @handOut caller other outcome hphase =>
      have hpending := (hattended.pending (leads_of_phase hphase rfl)).2
      have hne : flight ≠ other := by
        rintro rfl
        rw [hpending] at h
        cases h
      exact (Derived.handedOut?_handOut_of_ne _ hne _).trans h

namespace System

variable {system next final : System α}

theorem Served.step {caller flight : Nat} (h : system.Served caller flight)
    (hattended : Attended system) {move : Move α} {event : Option (Event α)}
    (hstep : system.Step move event next) : next.Served caller flight := by
  obtain ⟨fetched, hphase, houtcome⟩ := h
  obtain ⟨later, hlater, hcases⟩ := hstep.phase_cases hattended hphase
  refine ⟨fetched, ?_, hstep.handedOut?_eq_some hattended houtcome⟩
  rcases hcases with rfl | ⟨_, heq⟩ | ⟨_, hled, -⟩ | ⟨_, _, heq | heq, -⟩
  · exact hlater
  · cases heq
  · cases hled
  · cases heq
  · cases heq

theorem Leads.step {caller flight : Nat} (h : system.Leads caller flight)
    (hattended : Attended system) {move : Move α} {event : Option (Event α)}
    (hstep : system.Step move event next) :
    next.Leads caller flight ∨ next.Served caller flight := by
  obtain ⟨phase, hphase, hled⟩ := exists_phase_of_leads h
  obtain ⟨later, hlater, hcases⟩ := hstep.phase_cases hattended hphase
  rcases hcases with
    rfl | ⟨_, rfl⟩ | ⟨other, hother, hlaterLed⟩ | ⟨_, fetched, rfl | rfl, rfl, hout⟩
  · exact Or.inl (leads_of_phase hlater hled)
  · cases hled
  · rw [hled] at hother
    cases hother
    exact Or.inl (leads_of_phase hlater hlaterLed)
  · cases hled
    exact Or.inr ⟨fetched, hlater, hout⟩
  · cases hled

theorem Waits.step {caller flight : Nat} (h : system.Waits caller flight)
    (hattended : Attended system) {move : Move α} {event : Option (Event α)}
    (hstep : system.Step move event next) :
    next.Waits caller flight ∨ next.Served caller flight := by
  obtain ⟨later, hlater, hcases⟩ := hstep.phase_cases hattended h
  rcases hcases with rfl | ⟨_, heq⟩ | ⟨_, hled, -⟩ | ⟨_, fetched, heq | heq, rfl, hout⟩
  · exact Or.inl hlater
  · cases heq
  · cases hled
  · cases heq
  · cases heq
    exact Or.inr ⟨fetched, hlater, hout⟩

/-- What a caller keeps until it returns with the outcome of its flight. -/
theorem run_until_served {motive : System α → Prop} {caller flight : Nat}
    (hstep : ∀ {system next : System α} {move event}, motive system → Attended system →
      system.Step move event next → motive next ∨ next.Served caller flight)
    (h : motive system) (hattended : Attended system) {moves : List (Move α)}
    (hrun : system.run moves = some final) : motive final ∨ final.Served caller flight := by
  refine (run_induction (motive := fun _ state => Attended state ∧
    (motive state ∨ state.Served caller flight)) ⟨hattended, Or.inl h⟩ ?_ hrun).2
  rintro moves state move next - ⟨hattended, hstate⟩ happly
  have hmove := step_of_apply happly
  refine ⟨hattended.step hmove, ?_⟩
  rcases hstate with hkept | hserved
  · exact hstep hkept hattended hmove
  · exact Or.inr (hserved.step hattended hmove)

theorem Leads.run {caller flight : Nat} (h : system.Leads caller flight)
    (hattended : Attended system) {moves : List (Move α)}
    (hrun : system.run moves = some final) :
    final.Leads caller flight ∨ final.Served caller flight :=
  run_until_served (motive := (·.Leads caller flight))
    (fun h hattended hstep => h.step hattended hstep) h hattended hrun

theorem Waits.run {caller flight : Nat} (h : system.Waits caller flight)
    (hattended : Attended system) {moves : List (Move α)}
    (hrun : system.run moves = some final) :
    final.Waits caller flight ∨ final.Served caller flight :=
  run_until_served (motive := (·.Waits caller flight))
    (fun h hattended hstep => h.step hattended hstep) h hattended hrun

theorem Step.lt_or_leads {move : Move α} {event : Option (Event α)}
    (hstep : system.Step move event next) {flight : Nat}
    (h : flight < next.cache.flights.length) :
    flight < system.cache.flights.length ∨ ∃ caller, next.Leads caller flight := by
  cases hstep with
  | call request | publish dataset | subscribe | unsubscribe subscriber => exact Or.inl h
  | look hphase | serve hphase | begin hphase => exact Or.inl h
  | finish fetchEnd hphase => exact Or.inl h
  | join hphase | collect hphase => exact Or.inl (Derived.length_withFlight .. ▸ h)
  | settle hphase => exact Or.inl (Derived.flights_settle .. ▸ h)
  | handOut hphase => exact Or.inl (Derived.length_withFlight .. ▸ h)
  | @place caller request hphase hrequest =>
      have hlength : system.cache.supersede.2.flights.length = system.cache.flights.length + 1 :=
        List.length_append
      rcases Nat.lt_succ_iff_lt_or_eq.mp (hlength ▸ h) with hlt | rfl
      · exact Or.inl hlt
      · exact Or.inr ⟨caller, (leads_set_iff hphase).mpr (by rw [if_pos rfl]; rfl)⟩

/-! ## Along a run -/

/-- The property holds at some point of the run. -/
def Sometime (start : System α) (moves : List (Move α)) (property : System α → Prop) : Prop :=
  ∃ earlier later state, moves = earlier ++ later ∧ start.run earlier = some state ∧ property state

theorem Sometime.append {start : System α} {moves : List (Move α)} {property : System α → Prop}
    (h : start.Sometime moves property) (more : List (Move α)) :
    start.Sometime (moves ++ more) property := by
  obtain ⟨earlier, later, state, rfl, hstate, hproperty⟩ := h
  exact ⟨earlier, later ++ more, state, List.append_assoc .., hstate, hproperty⟩

theorem sometime_of_run {start : System α} {moves : List (Move α)} {property : System α → Prop}
    (hrun : start.run moves = some system) (h : property system) :
    start.Sometime moves property :=
  ⟨moves, [], system, (List.append_nil moves).symm, hrun, h⟩

theorem run_of_append {start : System α} {earlier later : List (Move α)}
    (hearlier : start.run earlier = some system)
    (hrun : start.run (earlier ++ later) = some final) : system.run later = some final := by
  rwa [run_append, hearlier, Option.bind_some] at hrun

theorem exists_sometime_leads {dataset : String} {moves : List (Move α)}
    (hrun : (new dataset).run moves = some system) {flight : Nat}
    (h : flight < system.cache.flights.length) :
    ∃ leader, (new dataset).Sometime moves (·.Leads leader flight) := by
  refine run_induction (motive := fun moves state => flight < state.cache.flights.length →
    ∃ leader, (new dataset).Sometime moves (·.Leads leader flight)) ?_ ?_ hrun h
  · intro hlt
    exact absurd hlt (Nat.not_lt_zero flight)
  · intro moves state move next hmoves ih happly hlt
    rcases (step_of_apply happly).lt_or_leads hlt with hold | ⟨leader, hleads⟩
    · obtain ⟨leader, hleads⟩ := ih hold
      exact ⟨leader, hleads.append [move]⟩
    · refine ⟨leader, sometime_of_run ?_ hleads⟩
      rw [run_append, hmoves]
      simpa [run] using happly

theorem eq_of_leads_later {caller other flight : Nat} (hattended : Attended system)
    (hleads : system.Leads caller flight) {moves : List (Move α)}
    (hrun : system.run moves = some final) (hother : final.Leads other flight) :
    caller = other := by
  have hfinal := hattended.run hrun
  rcases hleads.run hattended hrun with hstill | ⟨_, -, hout⟩
  · exact hfinal.single hstill hother
  · rw [(hfinal.pending hother).2] at hout
    cases hout

theorem eq_of_sometime_leads {start : System α} (hattended : Attended start)
    {moves : List (Move α)} {caller other flight : Nat}
    (hleads : start.Sometime moves (·.Leads caller flight))
    (hother : start.Sometime moves (·.Leads other flight)) : caller = other := by
  obtain ⟨earlier, later, state, rfl, hstate, hleads⟩ := hleads
  obtain ⟨earlier', later', state', hsame, hstate', hother⟩ := hother
  rcases List.append_eq_append_iff.mp hsame with ⟨between, rfl, -⟩ | ⟨between, rfl, -⟩
  · exact eq_of_leads_later (hattended.run hstate) hleads (run_of_append hstate hstate') hother
  · exact (eq_of_leads_later (hattended.run hstate') hother
      (run_of_append hstate' hstate) hleads).symm

theorem Waits.lt_flights (h : Bounded system) {caller flight : Nat}
    (hwaits : system.Waits caller flight) : flight < system.cache.flights.length :=
  h caller _ flight hwaits rfl

theorem exists_advance_of_handedOut {caller flight : Nat} {fetched : Fetched α}
    (hwaits : system.Waits caller flight)
    (houtcome : system.cache.handedOut? flight = some fetched) :
    ∃ next, system.advance caller = some next ∧ next.outcome? caller = some fetched := by
  rw [Waits] at hwaits
  rw [Derived.handedOut?] at houtcome
  refine ⟨_, by simp [advance, hwaits, stepOf, Derived.collect, houtcome]; rfl, ?_⟩
  rw [outcome?_eq_some_iff, setPhase, List.getElem?_set_self]
  exact (List.getElem?_eq_some_iff.mp hwaits).1

/-- The outcome that a waiter returns with is the one that the leader of its flight returns with. -/
theorem outcome?_of_leader {dataset : String} {moves : List (Move α)}
    (hrun : (new dataset).run moves = some system) {waiter leader flight : Nat}
    (hwaits : (new dataset).Sometime moves (·.Waits waiter flight))
    (hleads : (new dataset).Sometime moves (·.Leads leader flight)) {fetched : Fetched α}
    (houtcome : system.outcome? waiter = some fetched) :
    system.outcome? leader = some fetched := by
  rw [outcome?_eq_some_iff] at houtcome ⊢
  have hattended := (Attended.new dataset).run hrun
  obtain ⟨earlier, later, state, rfl, hstate, hwaits⟩ := hwaits
  obtain ⟨earlier', later', state', hsame, hstate', hleads⟩ := hleads
  have hout : system.cache.handedOut? flight = some fetched := by
    rcases hwaits.run ((Attended.new dataset).run hstate) (run_of_append hstate hrun) with
      hstill | ⟨other, hother, hout⟩
    · rw [hstill] at houtcome
      cases houtcome
    · rw [hother] at houtcome
      cases houtcome
      exact hout
  rw [hsame] at hrun
  rcases hleads.run ((Attended.new dataset).run hstate') (run_of_append hstate' hrun) with
    hstill | ⟨other, hother, hleaderOut⟩
  · rw [(hattended.pending hstill).2] at hout
    cases hout
  · rw [hout] at hleaderOut
    cases hleaderOut
    exact hother

end System

/-- However calls interleave and fetches end, in every state that can be reached: a caller that
waits for a flight waits for one whose outcome is handed out, so that it can return with it, or
whose one leader is still at work; a waiter that has returned has returned with the outcome of the
one caller that ever led the flight; the flight counts those that wait for it; and with no leader at
work nothing is loading and no one waits in vain. -/
theorem waiters_released {dataset : String} {moves : List (System.Move α)} {system : System α}
    (hrun : (System.new dataset).run moves = some system) :
    (∀ waiter flight, system.Waits waiter flight →
      (∃ fetched next, system.cache.handedOut? flight = some fetched ∧
        system.advance waiter = some next ∧ next.outcome? waiter = some fetched) ∨
      ∃! leader, system.Leads leader flight) ∧
    (∀ waiter flight, (System.new dataset).Sometime moves (·.Waits waiter flight) →
      ∃ leader, (∀ caller, (System.new dataset).Sometime moves (·.Leads caller flight) ↔
          caller = leader) ∧
        ∀ fetched, system.outcome? waiter = some fetched →
          system.outcome? leader = some fetched) ∧
    (∀ flight held, system.cache.flights[flight]? = some held →
      held.waiting = system.callers.countP (Phase.waitsFor flight) ∧
      ∀ waiter, system.Waits waiter flight → 0 < held.waiting) ∧
    ((∀ caller flight, ¬ system.Leads caller flight) →
      system.cache.state ≠ .loading ∧ system.cache.waitingConsumers = 0 ∧
      ∀ waiter flight, system.Waits waiter flight →
        ∃ fetched, system.cache.handedOut? flight = some fetched) := by
  have hattended := (Attended.new dataset).run hrun
  have hbounded := Bounded.run hrun
  have hcounted := Counted.run hrun
  have hslot := SlotLed.run hrun
  refine ⟨fun waiter flight hwaits => ?_, fun waiter flight hwaited => ?_,
    fun flight held hheld => ?_, fun hnone => ⟨?_, ?_, fun waiter flight hwaits => ?_⟩⟩
  · cases hout : system.cache.handedOut? flight with
    | some fetched =>
        obtain ⟨next, hnext, hreturns⟩ := System.exists_advance_of_handedOut hwaits hout
        exact Or.inl ⟨fetched, next, rfl, hnext, hreturns⟩
    | none =>
        obtain ⟨leader, hleads⟩ := hattended.led (hwaits.lt_flights hbounded) hout
        exact Or.inr ⟨leader, hleads, fun other hother => hattended.single hother hleads⟩
  · obtain ⟨earlier, later, state, rfl, hstate, hwaits⟩ := hwaited
    obtain ⟨leader, hleads⟩ :=
      System.exists_sometime_leads hstate (hwaits.lt_flights (Bounded.run hstate))
    have hleads := hleads.append later
    refine ⟨leader, fun caller => ⟨fun hcaller => ?_, fun heq => heq ▸ hleads⟩, ?_⟩
    · exact System.eq_of_sometime_leads (.new dataset) hcaller hleads
    · intro fetched houtcome
      exact System.outcome?_of_leader hrun ⟨earlier, later, state, rfl, hstate, hwaits⟩ hleads
        houtcome
  · exact ⟨hcounted flight held hheld, fun waiter hwaits => hcounted.waiting_pos hwaits hheld⟩
  · intro hloading
    unfold Derived.state at hloading
    split at hloading
    · cases hloading
    · next flight hflight =>
        obtain ⟨caller, hcaller⟩ := hslot flight hflight
        exact hnone caller flight (System.leads_of_unsettled hcaller)
    · cases hloading
  · unfold Derived.waitingConsumers
    split
    · next flight hflight =>
        obtain ⟨caller, hcaller⟩ := hslot flight hflight
        exact absurd (System.leads_of_unsettled hcaller) (hnone caller flight)
    · rfl
  · refine Option.ne_none_iff_exists'.mp fun hout => ?_
    obtain ⟨leader, hleads⟩ := hattended.led (hwaits.lt_flights hbounded) hout
    exact hnone leader flight hleads

/-- A flight with a waiter is superseded, and panics while the newer one is under way. -/
def overtakenWait : List (System.Move Nat) :=
  [.call .get, .advance 0, .call .get, .advance 1, .call .refetch, .advance 2, .advance 0,
    .finishFetch 0 (.panicked none), .advance 0, .advance 0, .advance 1]

theorem overtaken_waiter_shares_panic :
    ∃ system, (System.new "colors").run overtakenWait = some system ∧
      system.outcome? 1 = some (.error ⟨"colors", "fetcher panicked"⟩) ∧
      system.outcome? 0 = system.outcome? 1 ∧ system.cache.state = .loading := by
  obtain ⟨system, hrun, hwaiter, hstate⟩ : ∃ system,
      (System.new "colors").run overtakenWait = some system ∧
        system.outcome? 1 = some (.error ⟨"colors", "fetcher panicked"⟩) ∧
        system.cache.state = .loading := ⟨_, rfl, rfl, rfl⟩
  have hleads : (System.new "colors").Sometime overtakenWait (·.Leads 0 0) :=
    ⟨overtakenWait.take 2, overtakenWait.drop 2, _, rfl, rfl, rfl⟩
  have hwaits : (System.new "colors").Sometime overtakenWait (·.Waits 1 0) :=
    ⟨overtakenWait.take 4, overtakenWait.drop 4, _, rfl, rfl, rfl⟩
  obtain ⟨-, hserved, -⟩ := waiters_released hrun
  obtain ⟨leader, honly, hshares⟩ := hserved 1 0 hwaits
  obtain rfl := (honly 0).mp hleads
  exact ⟨system, hrun, hwaiter, (hshares _ hwaiter).trans hwaiter.symm, hstate⟩

end TagLedger.Cache
