import TagLedger.Proofs.Cache.Signals
import TagLedger.Proofs.Cache.Steps

/-!
# Renders of one consumer

A consumer is a mounted subscriber.  It holds the receiving end of its signals, which cannot be
shared: a render for it begins, and it is unmounted, only while it is mounted and no other render
for it is under way.  Then at most one render for it is under way in every state.
-/

namespace TagLedger.Cache

variable {α : Type}

namespace System

def Mounted (system : System α) (consumer : Nat) : Prop :=
  (system.bus.queue? consumer).isSome

/-- The consumer is mounted, and every caller that was to render for it has returned. -/
def Idle (system : System α) (asked : List Request) (consumer : Nat) : Prop :=
  system.Mounted consumer ∧
    ∀ caller < asked.length, asked[caller]? = some (.render consumer) →
      (system.outcome? caller).isSome

/-- The moves that only the owner of a consumer can make. -/
def Move.Uses (consumer : Nat) : Move α → Prop
  | .call request => request = .render consumer
  | .unsubscribe subscriber => subscriber = consumer
  | _ => False

/-- Whenever the owner of the consumer uses it, the consumer is idle. -/
def Owned (start : System α) (consumer : Nat) (moves : List (Move α)) : Prop :=
  ∀ index < moves.length, ∀ move ∈ moves[index]?, move.Uses consumer →
    ∀ system ∈ start.run (moves.take index), system.Idle (requests (moves.take index)) consumer

instance (system : System α) (consumer : Nat) : Decidable (system.Mounted consumer) :=
  inferInstanceAs (Decidable (_ = true))

instance (system : System α) (asked : List Request) (consumer : Nat) :
    Decidable (system.Idle asked consumer) :=
  inferInstanceAs (Decidable (_ ∧ _))

instance (consumer : Nat) (move : Move α) : Decidable (move.Uses consumer) :=
  match move with
  | .call request => inferInstanceAs (Decidable (request = .render consumer))
  | .unsubscribe subscriber => inferInstanceAs (Decidable (subscriber = consumer))
  | .advance _ | .finishFetch _ _ | .publish _ | .subscribe => inferInstanceAs (Decidable False)

instance (start : System α) (consumer : Nat) (moves : List (Move α)) :
    Decidable (start.Owned consumer moves) :=
  inferInstanceAs (Decidable (∀ index < moves.length, _))

theorem Owned.append_left {start : System α} {consumer : Nat} {moves more : List (Move α)}
    (h : start.Owned consumer (moves ++ more)) : start.Owned consumer moves := by
  intro index hindex move hmove huses system hrun
  have hlt : index < (moves ++ more).length := by
    rw [List.length_append]
    omega
  have hidle := h index hlt move (by rwa [List.getElem?_append_left hindex]) huses
  rw [List.take_append_of_le_length (Nat.le_of_lt hindex)] at hidle
  exact hidle system hrun

theorem Owned.last {start system : System α} {consumer : Nat} {moves : List (Move α)}
    {move : Move α} (h : start.Owned consumer (moves ++ [move]))
    (hrun : start.run moves = some system) (huses : move.Uses consumer) :
    system.Idle (requests moves) consumer := by
  have hidle := h moves.length (by simp) move (by simp) huses
  rw [List.take_left] at hidle
  exact hidle system hrun

theorem requests_concat (moves : List (Move α)) (move : Move α) :
    requests (moves ++ [move]) = requests moves ++ requests [move] :=
  List.filterMap_append ..

theorem append_requests {move : Move α} (h : requests [move] = []) (asked : List Request) :
    asked ++ requests [move] = asked := by
  rw [h, List.append_nil]

theorem outcome?_eq_some_iff {system : System α} {caller : Nat} {fetched : Fetched α} :
    system.outcome? caller = some fetched ↔ system.callers[caller]? = some (.returned fetched) := by
  unfold outcome?
  split
  · next hphase => simp [hphase]
  · next hphase => exact iff_of_false nofun (hphase fetched)

theorem outcome?_set {system : System α} {caller : Nat} {old : Phase α}
    (hphase : system.callers[caller]? = some old) (hopen : ∀ fetched, old ≠ .returned fetched)
    (cache : Derived α) (bus : Bus) (phase : Phase α) {other : Nat} {fetched : Fetched α}
    (h : system.outcome? other = some fetched) :
    (⟨cache, bus, system.callers.set caller phase⟩ : System α).outcome? other = some fetched := by
  rw [outcome?_eq_some_iff] at h ⊢
  have hne : caller ≠ other := by
    rintro rfl
    rw [hphase] at h
    exact hopen fetched (Option.some.inj h)
  rw [List.getElem?_set_ne hne]
  exact h

end System

structure Orderly (consumer : Nat) (asked : List Request) (system : System α) : Prop where
  numbered : system.bus.Numbered
  length : asked.length = system.callers.length
  render : ∀ {caller subscriber : Nat},
    system.callers[caller]? = some (.requested (.render subscriber)) →
      asked[caller]? = some (.render subscriber)
  single : ∀ {caller other : Nat}, asked[caller]? = some (.render consumer) →
    asked[other]? = some (.render consumer) → system.outcome? caller = none →
    system.outcome? other = none → caller = other

namespace Orderly

variable {consumer : Nat} {asked : List Request} {system next : System α}

theorem new (dataset : String) (consumer : Nat) :
    Orderly consumer [] (System.new dataset : System α) where
  numbered := Bus.numbered_empty
  length := rfl
  render h := by simp [System.new] at h
  single h := by simp at h

theorem of_bus (h : Orderly consumer asked system) {bus : Bus} (hbus : bus.Numbered) :
    Orderly consumer asked ⟨system.cache, bus, system.callers⟩ :=
  ⟨hbus, h.length, h.render, h.single⟩

theorem of_set (h : Orderly consumer asked system) {caller : Nat} {old phase : Phase α}
    (hphase : system.callers[caller]? = some old) (hopen : ∀ fetched, old ≠ .returned fetched)
    (hlooked : ∀ subscriber, phase ≠ .requested (.render subscriber)) {cache : Derived α}
    {bus : Bus} (hbus : bus.Numbered) :
    Orderly consumer asked ⟨cache, bus, system.callers.set caller phase⟩ := by
  have hnone {other : Nat} (hother : (⟨cache, bus, system.callers.set caller phase⟩ :
      System α).outcome? other = none) : system.outcome? other = none := by
    rw [Option.eq_none_iff_forall_ne_some] at hother ⊢
    intro fetched hfetched
    exact hother fetched (System.outcome?_set hphase hopen cache bus phase hfetched)
  refine ⟨hbus, ?_, ?_, ?_⟩
  · rw [h.length, List.length_set]
  · intro other subscriber hother
    rcases phase_of_set hother with ⟨-, heq⟩ | ⟨-, hold⟩
    · exact absurd heq.symm (hlooked subscriber)
    · exact h.render hold
  · intro first second hfirst hsecond hfirstNone hsecondNone
    exact h.single hfirst hsecond (hnone hfirstNone) (hnone hsecondNone)

theorem call (h : Orderly consumer asked system) (request : Request)
    (hidle : request = .render consumer → system.Idle asked consumer) :
    Orderly consumer (asked ++ [request])
      ⟨system.cache, system.bus, system.callers ++ [.requested request]⟩ := by
  -- An earlier caller that has yet to return is a caller of the state before.
  have hearlier {caller : Nat} (hcaller : (asked ++ [request])[caller]? = some (.render consumer))
      (hnone : (⟨system.cache, system.bus, system.callers ++ [.requested request]⟩ :
        System α).outcome? caller = none) :
      caller = asked.length ∧ request = .render consumer ∨
        asked[caller]? = some (.render consumer) ∧ system.outcome? caller = none := by
    rcases Nat.lt_trichotomy caller asked.length with hlt | rfl | hgt
    · rw [List.getElem?_append_left hlt] at hcaller
      refine Or.inr ⟨hcaller, ?_⟩
      rw [System.outcome?, List.getElem?_append_left (h.length ▸ hlt)] at hnone
      exact hnone
    · rw [List.getElem?_concat_length] at hcaller
      exact Or.inl ⟨rfl, Option.some.inj hcaller⟩
    · rw [List.getElem?_eq_none (by simp; omega)] at hcaller
      cases hcaller
  have hreturned {caller : Nat} (hrequest : request = .render consumer)
      (hcaller : asked[caller]? = some (.render consumer)) : system.outcome? caller ≠ none := by
    have hlt := (List.getElem?_eq_some_iff.mp hcaller).1
    exact Option.isSome_iff_ne_none.mp ((hidle hrequest).2 caller hlt hcaller)
  refine ⟨h.numbered, ?_, ?_, ?_⟩
  · rw [List.length_append, List.length_append, h.length]
    rfl
  · intro caller subscriber hphase
    rcases phase_of_concat hphase with ⟨rfl, heq⟩ | ⟨hlt, hold⟩
    · cases heq
      rw [← h.length, List.getElem?_concat_length]
    · rw [List.getElem?_append_left (h.length.symm ▸ hlt)]
      exact h.render hold
  · intro first second hfirst hsecond hfirstNone hsecondNone
    rcases hearlier hfirst hfirstNone with ⟨rfl, hrequest⟩ | ⟨hfirst, hfirstNone⟩
    · rcases hearlier hsecond hsecondNone with ⟨rfl, -⟩ | ⟨hsecond, hsecondNone⟩
      · rfl
      · exact absurd hsecondNone (hreturned hrequest hsecond)
    · rcases hearlier hsecond hsecondNone with ⟨-, hrequest⟩ | ⟨hsecond, hsecondNone⟩
      · exact absurd hfirstNone (hreturned hrequest hfirst)
      · exact h.single hfirst hsecond hfirstNone hsecondNone

theorem step (h : Orderly consumer asked system) {move : System.Move α} {event : Option (Event α)}
    (hstep : system.Step move event next)
    (howned : move.Uses consumer → system.Idle asked consumer) :
    Orderly consumer (asked ++ System.requests [move]) next := by
  cases hstep with
  | call request => exact h.call request howned
  | publish dataset =>
      rw [System.append_requests rfl]
      exact h.of_bus (h.numbered.publish dataset)
  | subscribe =>
      rw [System.append_requests rfl]
      exact h.of_bus h.numbered.subscribe
  | unsubscribe subscriber =>
      rw [System.append_requests rfl]
      exact h.of_bus (h.numbered.unsubscribe subscriber)
  | @look caller subscriber hphase =>
      rw [System.append_requests rfl]
      refine h.of_set hphase nofun ?_ (h.numbered.take subscriber system.cache.dataset)
      intro other
      split <;> nofun
  | serve hphase | join hphase | place hphase | begin hphase | settle hphase | handOut hphase
  | collect hphase =>
      rw [System.append_requests rfl]
      exact h.of_set hphase nofun (by nofun) h.numbered
  | finish fetchEnd hphase =>
      rw [System.append_requests rfl]
      exact h.of_set hphase nofun (by nofun) h.numbered

theorem run {dataset : String} {moves : List (System.Move α)}
    (hrun : (System.new dataset).run moves = some system)
    (howned : (System.new dataset : System α).Owned consumer moves) :
    Orderly consumer (System.requests moves) system := by
  refine System.run_induction (motive := fun moves system =>
    (System.new dataset : System α).Owned consumer moves →
      Orderly consumer (System.requests moves) system)
    (fun _ => new dataset consumer) ?_ hrun howned
  intro moves system move next hrun ih happly howned
  rw [System.requests_concat]
  exact (ih howned.append_left).step (System.step_of_apply happly) (howned.last hrun)

end Orderly

end TagLedger.Cache
