import TagLedger.Cache.Bus

/-!
# Queues of subscribers

What the operations of a bus do to the queue of each live subscriber.
-/

namespace TagLedger.Cache.Bus

private theorem find?_modify (bus : Bus) {id : Nat} {change : Subscriber → Subscriber}
    {test : Subscriber → Bool} (h : ∀ subscriber, subscriber.id = id →
      test (change subscriber) = test subscriber) :
    (bus.modify id change).subscribers.find? test =
      (bus.subscribers.find? test).map fun subscriber =>
        if subscriber.id = id then change subscriber else subscriber := by
  have hsame : test ∘ (fun subscriber =>
      if subscriber.id = id then change subscriber else subscriber) = test := by
    funext subscriber
    by_cases hid : subscriber.id = id
    · simp [hid, h subscriber hid]
    · simp [hid]
  rw [modify, List.find?_map, hsame]

private theorem id_of_found {bus : Bus} {id : Nat} {subscriber : Subscriber}
    (h : subscriber ∈
      bus.subscribers.find? fun subscriber => subscriber.id == id && subscriber.live) :
    subscriber.id = id := by
  have htest := List.find?_some h
  simp only [Bool.and_eq_true, beq_iff_eq] at htest
  exact htest.1

private theorem queue?_modify_of_ne (bus : Bus) {id other : Nat} {change : Subscriber → Subscriber}
    (hchange : ∀ subscriber, (change subscriber).id = subscriber.id) (hne : other ≠ id) :
    (bus.modify id change).queue? other = bus.queue? other := by
  rw [queue?, find?_modify, Option.map_map]
  · refine Option.map_congr fun subscriber hfound => ?_
    simp [id_of_found hfound, hne]
  · intro subscriber hid
    simp [hchange, hid, beq_false_of_ne (Ne.symm hne)]

theorem queue?_publish (bus : Bus) (dataset : String) (id : Nat) :
    (bus.publish dataset).2.queue? id = (bus.queue? id).map (· ++ [dataset]) := by
  simp only [queue?, publish, List.find?_map, List.find?_filter, Option.map_map]
  have hsame : (fun subscriber : Subscriber => decide (subscriber.live = true ∧
      ((fun subscriber => subscriber.id == id && subscriber.live) ∘
        Subscriber.receive dataset) subscriber = true)) =
      fun subscriber => subscriber.id == id && subscriber.live := by
    funext subscriber
    rw [Bool.eq_iff_iff]
    simp only [Function.comp_apply, Subscriber.receive, decide_eq_true_iff, Bool.and_eq_true]
    exact ⟨And.right, fun h => ⟨h.2, h⟩⟩
  rw [hsame]
  rfl

theorem mem_of_queue?_publish {bus : Bus} {dataset : String} {id : Nat} {queue : List String}
    (h : (bus.publish dataset).2.queue? id = some queue) :
    dataset ∈ queue ∧ (bus.queue? id).isSome := by
  rw [queue?_publish, Option.map_eq_some_iff] at h
  obtain ⟨old, hold, rfl⟩ := h
  exact ⟨by simp, by simp [hold]⟩

theorem queue?_subscribe {bus : Bus} {id : Nat} (h : id ≠ bus.next) :
    bus.subscribe.2.queue? id = bus.queue? id := by
  simp [queue?, subscribe, List.find?_append, Ne.symm h]

theorem queue?_subscribe_next {bus : Bus} (h : bus.queue? bus.next = none) :
    bus.subscribe.2.queue? bus.next = some [] := by
  rw [queue?, Option.map_eq_none_iff] at h
  simp [queue?, subscribe, List.find?_append, h]

theorem queue?_unsubscribe (bus : Bus) (id : Nat) : (bus.unsubscribe id).queue? id = none := by
  simp only [queue?, unsubscribe, modify, Option.map_eq_none_iff, List.find?_eq_none]
  intro subscriber hmem
  obtain ⟨old, -, rfl⟩ := List.mem_map.mp hmem
  split
  · simp
  · next hne => simp [hne]

theorem queue?_unsubscribe_of_ne (bus : Bus) {id other : Nat} (h : other ≠ id) :
    (bus.unsubscribe id).queue? other = bus.queue? other :=
  bus.queue?_modify_of_ne (fun _ => rfl) h

theorem queue?_take (bus : Bus) (id : Nat) (dataset : String) :
    (bus.take id dataset).2.queue? id = (bus.queue? id).map fun _ => [] := by
  simp only [take]
  rw [queue?, find?_modify, queue?, Option.map_map, Option.map_map]
  · refine Option.map_congr fun subscriber hfound => ?_
    simp [id_of_found hfound]
  · intro subscriber _
    rfl

theorem queue?_take_of_ne (bus : Bus) {id other : Nat} (dataset : String) (h : other ≠ id) :
    (bus.take id dataset).2.queue? other = bus.queue? other :=
  bus.queue?_modify_of_ne (fun _ => rfl) h

theorem take_eq_true_iff {bus : Bus} {id : Nat} {queue : List String}
    (h : bus.queue? id = some queue) (dataset : String) :
    (bus.take id dataset).1 = true ↔ dataset ∈ queue := by
  simp [take, h]

/-! ## Numbers of subscribers -/

def Numbered (bus : Bus) : Prop :=
  ∀ subscriber ∈ bus.subscribers, subscriber.id < bus.next

theorem Numbered.lt_of_queue? {bus : Bus} (h : bus.Numbered) {id : Nat}
    (hqueue : (bus.queue? id).isSome) : id < bus.next := by
  simp only [queue?, Option.isSome_map, List.find?_isSome, Bool.and_eq_true, beq_iff_eq] at hqueue
  obtain ⟨subscriber, hmem, rfl, -⟩ := hqueue
  exact h subscriber hmem

theorem numbered_empty : empty.Numbered := by
  intro subscriber hmem
  cases hmem

theorem Numbered.publish {bus : Bus} (h : bus.Numbered) (dataset : String) :
    (bus.publish dataset).2.Numbered := by
  intro subscriber hmem
  obtain ⟨old, hold, rfl⟩ := List.mem_map.mp hmem
  exact h old ((List.mem_filter.mp hold).1)

theorem Numbered.subscribe {bus : Bus} (h : bus.Numbered) : bus.subscribe.2.Numbered := by
  intro subscriber hmem
  rcases List.mem_append.mp hmem with hold | hnew
  · exact Nat.lt_succ_of_lt (h subscriber hold)
  · rw [List.mem_singleton.mp hnew]
    exact Nat.lt_succ_self _

private theorem Numbered.modify {bus : Bus} (h : bus.Numbered) (id : Nat)
    {change : Subscriber → Subscriber}
    (hchange : ∀ subscriber, (change subscriber).id = subscriber.id) :
    (bus.modify id change).Numbered := by
  intro subscriber hmem
  obtain ⟨old, hold, rfl⟩ := List.mem_map.mp hmem
  split
  · exact (hchange old).symm ▸ h old hold
  · exact h old hold

theorem Numbered.unsubscribe {bus : Bus} (h : bus.Numbered) (id : Nat) :
    (bus.unsubscribe id).Numbered :=
  h.modify id fun _ => rfl

theorem Numbered.take {bus : Bus} (h : bus.Numbered) (id : Nat) (dataset : String) :
    (bus.take id dataset).2.Numbered :=
  h.modify id fun _ => rfl

end TagLedger.Cache.Bus
