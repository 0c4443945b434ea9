import TagLedger.Proofs.Cache.Steps

/-!
# Where outcomes come from

The outcome of a flight is how its own fetch ended, wherever the outcome is met: with its leader,
with the flight once it is handed out, or in the record of its settlement.  This is said of the
flights from some number on, with the events since then, so that it can be used from any point of a
run.
-/

namespace TagLedger.Cache

variable {α : Type}

/-- A fetch of the flight was begun and has ended with the outcome. -/
def Produced (dataset : String) (events : List (Event α)) (flight : Nat) (fetched : Fetched α) :
    Prop :=
  ∃ fetch fetchEnd, .began flight fetch ∈ events ∧ .ended flight fetch fetchEnd ∈ events ∧
    fetched = fetchEnd.fetched dataset

theorem Produced.append {dataset : String} {events : List (Event α)} {flight : Nat}
    {fetched : Fetched α} (h : Produced dataset events flight fetched) (more : List (Event α)) :
    Produced dataset (events ++ more) flight fetched := by
  obtain ⟨fetch, fetchEnd, hbegan, hended, hfetched⟩ := h
  exact ⟨fetch, fetchEnd, List.mem_append_left _ hbegan, List.mem_append_left _ hended, hfetched⟩

theorem FetchEnd.eq_succeeded_of_fetched {dataset : String} {fetchEnd : FetchEnd α} {value : α}
    (h : .ok value = fetchEnd.fetched dataset) : fetchEnd = .succeeded value := by
  cases fetchEnd <;> cases h
  rfl

def Phase.outcome? : Phase α → Option (Nat × Fetched α)
  | .ended flight fetched | .settled flight fetched => some (flight, fetched)
  | _ => none

/-- What is known of a phase: a fetch under way was begun, and an outcome was produced. -/
def Phase.Traced (dataset : String) (since : Nat) (events : List (Event α)) (phase : Phase α) :
    Prop :=
  (∀ flight fetch, phase = .fetching flight fetch → since ≤ flight →
    .began flight fetch ∈ events) ∧
  ∀ flight fetched, phase.outcome? = some (flight, fetched) → since ≤ flight →
    Produced dataset events flight fetched

/-- What is known of the flights from number `since` on. -/
structure Traced (since : Nat) (system : System α) (events : List (Event α)) : Prop where
  phase : ∀ {caller : Nat} {phase : Phase α}, system.callers[caller]? = some phase →
    phase.Traced system.cache.dataset since events
  handedOut : ∀ {flight fetched}, system.cache.handedOut? flight = some fetched →
    since ≤ flight → Produced system.cache.dataset events flight fetched
  settled : ∀ {flight fetched}, .settled flight fetched ∈ events → since ≤ flight →
    Produced system.cache.dataset events flight fetched

theorem Phase.Traced.append {dataset : String} {since : Nat} {events : List (Event α)}
    {phase : Phase α} (h : phase.Traced dataset since events) (more : List (Event α)) :
    phase.Traced dataset since (events ++ more) :=
  ⟨fun flight fetch hphase hsince => List.mem_append_left _ (h.1 flight fetch hphase hsince),
    fun flight fetched houtcome hsince => (h.2 flight fetched houtcome hsince).append more⟩

theorem Phase.traced_of_quiet {phase : Phase α}
    (hfetching : ∀ flight fetch, phase ≠ .fetching flight fetch) (houtcome : phase.outcome? = none)
    (dataset : String) (since : Nat) (events : List (Event α)) :
    phase.Traced dataset since events := by
  refine ⟨fun flight fetch hphase => absurd hphase (hfetching flight fetch), ?_⟩
  intro flight fetched hphase
  rw [houtcome] at hphase
  cases hphase

namespace Traced

variable {since : Nat} {system next : System α} {events : List (Event α)}

theorem of_set (h : Traced since system events) {caller : Nat} {phase : Phase α}
    {cache : Derived α} {bus : Bus} {event : Option (Event α)}
    (hdataset : cache.dataset = system.cache.dataset)
    (hphase : phase.Traced system.cache.dataset since (events ++ event.toList))
    (hhandedOut : ∀ flight fetched, cache.handedOut? flight = some fetched →
      system.cache.handedOut? flight = some fetched ∨
        (since ≤ flight → Produced system.cache.dataset events flight fetched))
    (hsettled : ∀ flight fetched, event = some (.settled flight fetched) → since ≤ flight →
      Produced system.cache.dataset events flight fetched) :
    Traced since ⟨cache, bus, system.callers.set caller phase⟩ (events ++ event.toList) where
  phase hother := by
    rw [hdataset]
    rcases phase_of_set hother with ⟨-, rfl⟩ | ⟨-, hold⟩
    · exact hphase
    · exact (h.phase hold).append _
  handedOut {flight fetched} hfetched hsince := by
    rw [hdataset]
    rcases hhandedOut flight fetched hfetched with hold | hnew
    · exact (h.handedOut hold hsince).append _
    · exact (hnew hsince).append _
  settled {flight fetched} hmem hsince := by
    rw [hdataset]
    rcases List.mem_append.mp hmem with hold | hnew
    · exact (h.settled hold hsince).append _
    · exact (hsettled flight fetched (Option.mem_toList.mp hnew) hsince).append _

theorem of_quiet (h : Traced since system events) {caller : Nat} {phase : Phase α}
    {cache : Derived α} {bus : Bus} {event : Option (Event α)}
    (hdataset : cache.dataset = system.cache.dataset)
    (hhandedOut : ∀ flight, cache.handedOut? flight = system.cache.handedOut? flight)
    (hfetching : ∀ flight fetch, phase ≠ .fetching flight fetch) (houtcome : phase.outcome? = none)
    (hsettled : ∀ flight fetched, event ≠ some (.settled flight fetched)) :
    Traced since ⟨cache, bus, system.callers.set caller phase⟩ (events ++ event.toList) :=
  h.of_set hdataset (phase.traced_of_quiet hfetching houtcome _ _ _)
    (fun flight _ hfetched => Or.inl (hhandedOut flight ▸ hfetched))
    fun flight fetched hevent => absurd hevent (hsettled flight fetched)

theorem step (h : Traced since system events) {move : System.Move α} {event : Option (Event α)}
    (hstep : system.Step move event next) : Traced since next (events ++ event.toList) := by
  have hidle (fetched : Fetched α) (flight fetch : Nat) :
      Phase.returned fetched ≠ .fetching flight fetch := by
    intro heq
    cases heq
  cases hstep with
  | call request =>
      rw [Option.toList_none, List.append_nil]
      refine ⟨fun {caller phase} hphase => ?_, h.handedOut, h.settled⟩
      rcases phase_of_concat hphase with ⟨-, rfl⟩ | ⟨-, hold⟩
      · exact (Phase.requested request).traced_of_quiet nofun rfl _ _ _
      · exact h.phase hold
  | publish dataset =>
      rw [Option.toList_none, List.append_nil]
      exact ⟨h.phase, h.handedOut, h.settled⟩
  | subscribe =>
      rw [Option.toList_none, List.append_nil]
      exact ⟨h.phase, h.handedOut, h.settled⟩
  | unsubscribe subscriber =>
      rw [Option.toList_none, List.append_nil]
      exact ⟨h.phase, h.handedOut, h.settled⟩
  | look hphase => exact h.of_quiet rfl (fun _ => rfl) nofun rfl nofun
  | serve hphase hslot => exact h.of_quiet rfl (fun _ => rfl) nofun rfl nofun
  | join hphase hslot =>
      exact h.of_quiet rfl (fun _ => Derived.handedOut?_withFlight _ _ _ fun _ => rfl) nofun rfl nofun
  | place hphase hrequest =>
      exact h.of_quiet rfl (Derived.handedOut?_supersede _) nofun rfl nofun
  | @begin caller flight hphase =>
      refine h.of_set rfl ⟨?_, nofun⟩ (fun _ _ => Or.inl) nofun
      intro other fetch hfetching _
      cases hfetching
      exact List.mem_append_right _ (List.mem_singleton_self _)
  | @finish caller flight fetch fetchEnd hphase =>
      refine h.of_set rfl ⟨nofun, ?_⟩ (fun _ _ => Or.inl) nofun
      intro other fetched houtcome hsince
      cases houtcome
      have hbegan := (h.phase hphase).1 flight fetch rfl hsince
      exact ⟨fetch, fetchEnd, List.mem_append_left _ hbegan,
        List.mem_append_right _ (List.mem_singleton_self _), rfl⟩
  | @settle caller flight fetched hphase =>
      have hproduced := (h.phase hphase).2 flight fetched rfl
      refine h.of_set (Derived.dataset_settle ..) ⟨nofun, ?_⟩ (fun other outcome houtcome => ?_) ?_
      · intro other outcome houtcome hsince
        cases houtcome
        exact (hproduced hsince).append _
      · refine Or.inl ?_
        rwa [Derived.handedOut?, Derived.flights_settle] at houtcome
      · intro other outcome hevent hsince
        cases hevent
        exact hproduced hsince
  | @handOut caller flight fetched hphase =>
      refine h.of_set rfl ((Phase.returned fetched).traced_of_quiet (hidle fetched) rfl _ _ _) ?_ ?_
      · intro other outcome houtcome
        rcases Derived.handedOut?_handOut houtcome with ⟨rfl, rfl⟩ | hold
        · exact Or.inr ((h.phase hphase).2 other outcome rfl)
        · exact Or.inl hold
      · intro other outcome hevent
        cases hevent
  | collect hphase houtcome =>
      exact h.of_quiet rfl (fun _ => Derived.handedOut?_withFlight _ _ _ fun _ => rfl) (hidle _) rfl
        nofun

theorem new (dataset : String) : Traced 0 (System.new dataset : System α) [] where
  phase h := by simp [System.new] at h
  handedOut h := by simp [System.new, Derived.new, Derived.handedOut?] at h
  settled h := by cases h

theorem run {start : System α} (h : Traced since start []) {moves : List (System.Move α)}
    (hrun : start.run moves = some system) : Traced since system (start.events moves) := by
  refine System.run_induction (motive := fun moves system =>
    Traced since system (start.events moves)) h ?_ hrun
  intro moves system move next hrun h happly
  rw [System.events_concat hrun happly]
  exact h.step (System.step_of_apply happly)

end Traced

end TagLedger.Cache
