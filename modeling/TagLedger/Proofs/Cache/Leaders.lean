import TagLedger.Proofs.Cache.Freshness

/-!
# Leaders of flights

A flight has one leader, from the step that places it to the step that hands its outcome out; as
long as the flight is in the slot, its leader has yet to settle it.
-/

namespace TagLedger.Cache

variable {α : Type}

/-- The flight whose outcome is still to be handed out by the caller. -/
def Phase.led? : Phase α → Option Nat
  | .leading flight | .fetching flight _ | .ended flight _ | .settled flight _ => some flight
  | .requested _ | .parked _ | .returned _ => none

namespace System

def led? (system : System α) (caller : Nat) : Option Nat :=
  (system.callers[caller]?).bind Phase.led?

def Leads (system : System α) (caller flight : Nat) : Prop :=
  system.led? caller = some flight

theorem leads_of_phase {system : System α} {caller flight : Nat} {phase : Phase α}
    (hphase : system.callers[caller]? = some phase) (hled : phase.led? = some flight) :
    system.Leads caller flight := by
  rw [Leads, led?, hphase, Option.bind_some, hled]

theorem exists_phase_of_leads {system : System α} {caller flight : Nat}
    (h : system.Leads caller flight) :
    ∃ phase, system.callers[caller]? = some phase ∧ phase.led? = some flight :=
  Option.bind_eq_some_iff.mp h

theorem leads_of_unsettled {system : System α} {caller flight : Nat}
    (h : system.unsettled? caller = some flight) : system.Leads caller flight := by
  obtain ⟨phase, hphase, hflight⟩ := Option.bind_eq_some_iff.mp h
  refine leads_of_phase hphase ?_
  cases phase <;> cases hflight <;> rfl

theorem leads_set_iff {system : System α} {caller : Nat} {old : Phase α}
    (hphase : system.callers[caller]? = some old) {cache : Derived α} {bus : Bus} {phase : Phase α}
    {other flight : Nat} :
    (⟨cache, bus, system.callers.set caller phase⟩ : System α).Leads other flight ↔
      (if caller = other then phase.led? else system.led? other) = some flight :=
  iff_of_eq (congrArg (· = some flight) (view_of_set hphase Phase.led? phase other))

end System

/-! ## One leader for each flight -/

/-- A flight has a leader, and only one, as long as its outcome has not been handed out. -/
structure Attended (system : System α) : Prop where
  pending : ∀ {caller flight}, system.Leads caller flight →
    flight < system.cache.flights.length ∧ system.cache.handedOut? flight = none
  single : ∀ {caller other flight}, system.Leads caller flight → system.Leads other flight →
    caller = other
  led : ∀ {flight}, flight < system.cache.flights.length →
    system.cache.handedOut? flight = none → ∃ caller, system.Leads caller flight

namespace Attended

variable {system next : System α}

theorem new (dataset : String) : Attended (System.new dataset : System α) where
  pending h := by simp [System.Leads, System.led?, System.new] at h
  single h := by simp [System.Leads, System.led?, System.new] at h
  led h := by simp [System.new, Derived.new] at h

theorem of_same (h : Attended system) (hled : ∀ caller, next.led? caller = system.led? caller)
    (hhandedOut : ∀ flight, next.cache.handedOut? flight = system.cache.handedOut? flight)
    (hlength : next.cache.flights.length = system.cache.flights.length) : Attended next := by
  have hleads (caller flight : Nat) : next.Leads caller flight ↔ system.Leads caller flight := by
    rw [System.Leads, System.Leads, hled]
  refine ⟨fun {caller flight} hleader => ?_, fun {caller other flight} hleader hother => ?_,
    fun {flight} hlt hpending => ?_⟩
  · rw [hlength, hhandedOut]
    exact h.pending ((hleads caller flight).mp hleader)
  · exact h.single ((hleads caller flight).mp hleader) ((hleads other flight).mp hother)
  · rw [hlength] at hlt
    rw [hhandedOut] at hpending
    obtain ⟨caller, hleader⟩ := h.led hlt hpending
    exact ⟨caller, (hleads caller flight).mpr hleader⟩

theorem place (h : Attended system) {caller : Nat} {request : Request}
    (hphase : system.callers[caller]? = some (.requested request)) (bus : Bus) :
    Attended ⟨system.cache.supersede.2, bus,
      system.callers.set caller (.leading system.cache.flights.length)⟩ := by
  have hlength : system.cache.supersede.2.flights.length = system.cache.flights.length + 1 :=
    List.length_append
  have hnew : system.cache.handedOut? system.cache.flights.length = none := by
    rw [Derived.handedOut?, List.getElem?_eq_none (Nat.le_refl _)]
    rfl
  refine ⟨fun {other flight} hother => ?_, fun {first second flight} hfirst hsecond => ?_,
    fun {flight} hlt hpending => ?_⟩
  · rw [System.leads_set_iff hphase] at hother
    rw [Derived.handedOut?_supersede, hlength]
    split at hother
    · obtain rfl := Option.some.inj hother
      exact ⟨Nat.lt_succ_self _, hnew⟩
    · have hold := h.pending hother
      exact ⟨Nat.lt_succ_of_lt hold.1, hold.2⟩
  · rw [System.leads_set_iff hphase] at hfirst hsecond
    split at hfirst
    · obtain rfl := Option.some.inj hfirst
      split at hsecond
      · simp_all
      · exact absurd (h.pending hsecond).1 (Nat.lt_irrefl _)
    · split at hsecond
      · obtain rfl := Option.some.inj hsecond
        exact absurd (h.pending hfirst).1 (Nat.lt_irrefl _)
      · exact h.single hfirst hsecond
  · rw [hlength] at hlt
    rw [Derived.handedOut?_supersede] at hpending
    rcases Nat.lt_succ_iff_lt_or_eq.mp hlt with hold | rfl
    · obtain ⟨other, hother⟩ := h.led hold hpending
      refine ⟨other, (System.leads_set_iff hphase).mpr ?_⟩
      rw [if_neg]
      · exact hother
      · rintro rfl
        simp [System.Leads, System.led?, hphase, Phase.led?] at hother
    · exact ⟨caller, (System.leads_set_iff hphase).mpr (by rw [if_pos rfl]; rfl)⟩

theorem handOut (h : Attended system) {caller flight : Nat} {fetched : Fetched α}
    (hphase : system.callers[caller]? = some (.settled flight fetched)) (bus : Bus) :
    Attended ⟨system.cache.handOut flight fetched, bus,
      system.callers.set caller (.returned fetched)⟩ := by
  have hlength : (system.cache.handOut flight fetched).flights.length =
      system.cache.flights.length := List.length_modify ..
  have hleads : system.Leads caller flight := System.leads_of_phase hphase rfl
  have hlt := (h.pending hleads).1
  -- Whoever still leads a flight leads another one.
  have hothers {other led : Nat} (hled : (⟨system.cache.handOut flight fetched, bus,
      system.callers.set caller (.returned fetched)⟩ : System α).Leads other led) :
      system.Leads other led ∧ led ≠ flight := by
    rw [System.leads_set_iff hphase] at hled
    split at hled
    · cases hled
    · next hne =>
        refine ⟨hled, ?_⟩
        rintro rfl
        exact hne (h.single hleads hled)
  refine ⟨fun {other led} hled => ?_, fun {first second led} hfirst hsecond => ?_,
    fun {led} hledLt hpending => ?_⟩
  · obtain ⟨hold, hne⟩ := hothers hled
    rw [Derived.handedOut?_handOut_of_ne _ hne, hlength]
    exact h.pending hold
  · exact h.single (hothers hfirst).1 (hothers hsecond).1
  · rw [hlength] at hledLt
    have hne : led ≠ flight := by
      rintro rfl
      simp [Derived.handedOut?_handOut_self hlt] at hpending
    rw [Derived.handedOut?_handOut_of_ne _ hne] at hpending
    obtain ⟨other, hother⟩ := h.led hledLt hpending
    refine ⟨other, (System.leads_set_iff hphase).mpr ?_⟩
    rw [if_neg]
    · exact hother
    · rintro rfl
      exact hne (Option.some.inj (hother.symm.trans hleads))

theorem step (h : Attended system) {move : System.Move α} {event : Option (Event α)}
    (hstep : system.Step move event next) : Attended next := by
  cases hstep with
  | call request => exact h.of_same (view_of_concat system.callers rfl) (fun _ => rfl) rfl
  | publish dataset | subscribe | unsubscribe subscriber =>
      exact h.of_same (fun _ => rfl) (fun _ => rfl) rfl
  | look hphase | serve hphase | begin hphase =>
      exact h.of_same (view_of_set_of_eq hphase (by rfl)) (fun _ => rfl) rfl
  | finish fetchEnd hphase =>
      exact h.of_same (view_of_set_of_eq hphase (by rfl)) (fun _ => rfl) rfl
  | join hphase hslot =>
      exact h.of_same (view_of_set_of_eq hphase (by rfl))
        (fun _ => Derived.handedOut?_withFlight _ _ _ fun _ => rfl) (Derived.length_withFlight ..)
  | collect hphase houtcome =>
      exact h.of_same (view_of_set_of_eq hphase (by rfl))
        (fun _ => Derived.handedOut?_withFlight _ _ _ fun _ => rfl) (Derived.length_withFlight ..)
  | settle hphase =>
      refine h.of_same (view_of_set_of_eq hphase (by rfl)) (fun flight => ?_) ?_
      · simp only [Derived.handedOut?, Derived.flights_settle]
      · rw [Derived.flights_settle]
  | place hphase hrequest => exact h.place hphase system.bus
  | handOut hphase => exact h.handOut hphase system.bus

theorem run {start : System α} (h : Attended start) {moves : List (System.Move α)}
    (hrun : start.run moves = some system) : Attended system := by
  refine System.run_induction (motive := fun _ system => Attended system) h ?_ hrun
  intro moves system move next _ h happly
  exact h.step (System.step_of_apply happly)

end Attended

/-- A flight in the slot has a leader who has yet to settle it. -/
def SlotLed (system : System α) : Prop :=
  ∀ flight, system.cache.slot = .loading flight → ∃ caller, system.unsettled? caller = some flight

namespace SlotLed

variable {system next : System α}

theorem of_same (h : SlotLed system)
    (hunsettled : ∀ caller, next.unsettled? caller = system.unsettled? caller)
    (hslot : next.cache.slot = system.cache.slot) : SlotLed next := by
  intro flight hloading
  obtain ⟨caller, hcaller⟩ := h flight (hslot ▸ hloading)
  exact ⟨caller, (hunsettled caller).trans hcaller⟩

theorem settle (h : SlotLed system) {caller flight : Nat} {fetched : Fetched α}
    (hphase : system.callers[caller]? = some (.ended flight fetched)) (bus : Bus) :
    SlotLed ⟨system.cache.settle flight fetched, bus,
      system.callers.set caller (.settled flight fetched)⟩ := by
  intro other hloading
  by_cases hslot : system.cache.slot = .loading flight
  · rw [Derived.settle_of_loading hslot] at hloading
    cases fetched <;> cases hloading
  · rw [Derived.settle_of_ne hslot] at hloading
    obtain ⟨leader, hleader⟩ := h other hloading
    refine ⟨leader, ?_⟩
    rw [System.unsettled?_set hphase, if_neg]
    · exact hleader
    · rintro rfl
      rw [System.unsettled?, hphase] at hleader
      exact hslot (Option.some.inj hleader ▸ hloading)

theorem step (h : SlotLed system) {move : System.Move α} {event : Option (Event α)}
    (hstep : system.Step move event next) : SlotLed next := by
  cases hstep with
  | call request => exact h.of_same (view_of_concat system.callers rfl) rfl
  | publish dataset | subscribe | unsubscribe subscriber => exact h.of_same (fun _ => rfl) rfl
  | look hphase | serve hphase | join hphase | begin hphase | handOut hphase | collect hphase =>
      exact h.of_same (view_of_set_of_eq hphase (by rfl)) rfl
  | finish fetchEnd hphase => exact h.of_same (view_of_set_of_eq hphase (by rfl)) rfl
  | @place caller request hphase hrequest =>
      intro flight hloading
      cases hloading
      refine ⟨caller, ?_⟩
      rw [System.unsettled?_set hphase, if_pos rfl]
      rfl
  | settle hphase => exact h.settle hphase system.bus

theorem run {dataset : String} {moves : List (System.Move α)}
    (hrun : (System.new dataset).run moves = some system) : SlotLed system := by
  refine System.run_induction (motive := fun _ system => SlotLed system) ?_ ?_ hrun
  · intro flight hloading
    cases hloading
  · intro moves system move next _ h happly
    exact h.step (System.step_of_apply happly)

end SlotLed

end TagLedger.Cache
