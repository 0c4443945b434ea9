import TagLedger.Proofs.Cache.Signals
import Mathlib.Data.Set.Card

/-!
# Delivery of signals

Any calls on one bus, in any order.  What a call answers is told from the calls before it alone: a
subscriber that takes its signals hears of a dataset exactly if it was published since the
subscription and since the last time the subscriber took signals, for whichever dataset that was.  A
publication reaches the subscriptions that have not been dropped, and a dropped one is listed until
the next publication.
-/

namespace TagLedger.Cache.Bus

/-- Subscriptions are numbered from 0, in the order in which they are made. -/
inductive Call where
  | subscribe
  | drop (id : Nat)
  | publish (dataset : String)
  | take (id : Nat) (dataset : String)
  deriving DecidableEq

def perform (bus : Bus) : Call → Bus
  | .subscribe => bus.subscribe.2
  | .drop id => bus.unsubscribe id
  | .publish dataset => (bus.publish dataset).2
  | .take id dataset => (bus.take id dataset).2

def afterCalls (calls : List Call) : Bus :=
  calls.foldl perform .empty

theorem afterCalls_concat (calls : List Call) (call : Call) :
    afterCalls (calls ++ [call]) = (afterCalls calls).perform call := by
  rw [afterCalls, List.foldl_append]
  rfl

/-! ## What calls have come to -/

/-- Such a call was made, at a moment when the calls before it met the condition, and no call since
then ends it. -/
def Since (condition : List Call → Prop) (made : Call) (ends : Call → Prop) (calls : List Call) :
    Prop :=
  ∃ before since, calls = before ++ made :: since ∧ condition before ∧ ∀ call ∈ since, ¬ ends call

theorem since_concat_iff {condition : List Call → Prop} {made call : Call} {ends : Call → Prop}
    {calls : List Call} : Since condition made ends (calls ++ [call]) ↔
      call = made ∧ condition calls ∨ ¬ ends call ∧ Since condition made ends calls := by
  constructor
  · rintro ⟨before, since, hcalls, hcondition, hsince⟩
    rcases List.eq_nil_or_concat since with rfl | ⟨earlier, last, rfl⟩
    · obtain ⟨rfl, hlast⟩ := List.append_inj' hcalls rfl
      exact Or.inl ⟨List.singleton_inj.mp hlast, hcondition⟩
    · rw [List.concat_eq_append, ← List.cons_append, ← List.append_assoc] at hcalls
      obtain ⟨rfl, hlast⟩ := List.append_inj' hcalls rfl
      obtain rfl := List.singleton_inj.mp hlast
      rw [List.concat_eq_append, List.forall_mem_append] at hsince
      exact Or.inr ⟨hsince.2 _ (List.mem_singleton_self _), before, earlier, rfl, hcondition,
        hsince.1⟩
  · rintro (⟨rfl, hcondition⟩ | ⟨hcall, before, since, rfl, hcondition, hsince⟩)
    · exact ⟨calls, [], rfl, hcondition, fun _ hmem => by cases hmem⟩
    · refine ⟨before, since ++ [call], by simp, hcondition, ?_⟩
      exact List.forall_mem_append.mpr ⟨hsince, List.forall_mem_singleton.mpr hcall⟩

theorem not_since_nil {condition : List Call → Prop} {made : Call} {ends : Call → Prop} :
    ¬ Since condition made ends [] := by
  rintro ⟨before, since, hcalls, -⟩
  simp at hcalls

/-- How many subscriptions were made. -/
def subscriptions (calls : List Call) : Nat :=
  calls.count .subscribe

/-- The subscription was made and has not been dropped. -/
def Live (calls : List Call) (id : Nat) : Prop :=
  Since (subscriptions · = id) .subscribe (· = .drop id) calls

/-- The dataset was published since the subscription was made and since its signals were last taken,
for whichever dataset. -/
def Signalled (calls : List Call) (id : Nat) (dataset : String) : Prop :=
  Since (id < subscriptions ·) (.publish dataset) (∃ asked, · = .take id asked) calls

/-- The subscription was dropped, and nothing has been published since. -/
def Lingers (calls : List Call) (id : Nat) : Prop :=
  Since (Live · id) (.drop id) (∃ dataset, · = .publish dataset) calls

theorem subscriptions_concat (calls : List Call) (call : Call) :
    subscriptions (calls ++ [call]) = subscriptions calls + if call = .subscribe then 1 else 0 := by
  rw [subscriptions, List.count_append, List.count_singleton]
  simp [subscriptions]

theorem Signalled.lt_subscriptions {calls : List Call} {id : Nat} {dataset : String}
    (h : Signalled calls id dataset) : id < subscriptions calls := by
  obtain ⟨before, since, rfl, hbefore, -⟩ := h
  rw [subscriptions, List.count_append]
  exact Nat.lt_of_lt_of_le hbefore (Nat.le_add_right _ _)

/-! ## Listed subscriptions -/

/-- The subscriptions that the bus lists: those that have been dropped, or those that have not. -/
def listed (bus : Bus) (live : Bool) : List Nat :=
  (bus.subscribers.filter (·.live == live)).map (·.id)

theorem mem_listed_iff {bus : Bus} {live : Bool} {id : Nat} : id ∈ bus.listed live ↔
    ∃ subscriber ∈ bus.subscribers, subscriber.live = live ∧ subscriber.id = id := by
  simp [listed, and_assoc]

theorem isSome_queue?_iff {bus : Bus} {id : Nat} :
    (bus.queue? id).isSome ↔ id ∈ bus.listed true := by
  simp [queue?, mem_listed_iff, and_comm]

theorem subscriberCount_eq (bus : Bus) :
    bus.subscriberCount = (bus.listed true).length + (bus.listed false).length := by
  have hlive : (fun subscriber : Subscriber => subscriber.live == true) =
      fun subscriber => !(subscriber.live == false) := by
    funext subscriber
    cases subscriber.live <;> rfl
  simp only [listed, List.length_map, subscriberCount, hlive]
  rw [Nat.add_comm]
  exact List.length_eq_length_filter_add _

theorem publish_fst (bus : Bus) (dataset : String) :
    (bus.publish dataset).1 = (bus.listed true).length := by
  simp [publish, listed]

theorem listed_publish_false (bus : Bus) (dataset : String) :
    (bus.publish dataset).2.listed false = [] := by
  simp only [listed, publish, List.map_eq_nil_iff, List.filter_eq_nil_iff]
  intro subscriber hmem
  obtain ⟨old, hold, rfl⟩ := List.mem_map.mp hmem
  simp [Subscriber.receive, (List.mem_filter.mp hold).2]

theorem listed_take (bus : Bus) (id : Nat) (dataset : String) (live : Bool) :
    (bus.take id dataset).2.listed live = bus.listed live := by
  simp only [listed, take, modify, List.filter_map, List.map_map]
  have hlive : (fun subscriber : Subscriber => subscriber.live == live) ∘ (fun subscriber =>
      if subscriber.id = id then { subscriber with queue := [] } else subscriber) =
        fun subscriber => subscriber.live == live := by
    funext subscriber
    by_cases hid : subscriber.id = id <;> simp [hid]
  rw [hlive]
  refine List.map_congr_left fun subscriber _ => ?_
  by_cases hid : subscriber.id = id <;> simp [hid]

theorem mem_listed_unsubscribe_true {bus : Bus} {id other : Nat} :
    other ∈ (bus.unsubscribe id).listed true ↔ other ≠ id ∧ other ∈ bus.listed true := by
  rw [← isSome_queue?_iff, ← isSome_queue?_iff]
  by_cases hid : other = id
  · simp [hid, queue?_unsubscribe]
  · simp [hid, queue?_unsubscribe_of_ne bus hid]

theorem mem_listed_unsubscribe_false {bus : Bus} {id other : Nat} :
    other ∈ (bus.unsubscribe id).listed false ↔
      other ∈ bus.listed false ∨ id = other ∧ other ∈ bus.listed true := by
  have hmem : other ∈ (bus.unsubscribe id).listed false ↔
      ∃ subscriber ∈ bus.subscribers,
        (subscriber.id = id ∨ subscriber.live = false) ∧ subscriber.id = other := by
    simp only [mem_listed_iff, unsubscribe, modify, List.mem_map, exists_exists_and_eq_and]
    refine exists_congr fun subscriber => and_congr_right fun _ => ?_
    by_cases hid : subscriber.id = id <;> simp [hid]
  rw [hmem, mem_listed_iff, mem_listed_iff]
  constructor
  · rintro ⟨subscriber, hsubscriber, hdropped, rfl⟩
    cases hlive : subscriber.live with
    | false => exact Or.inl ⟨subscriber, hsubscriber, hlive, rfl⟩
    | true =>
        have hid : subscriber.id = id := hdropped.resolve_right (by simp [hlive])
        exact Or.inr ⟨hid.symm, subscriber, hsubscriber, hlive, rfl⟩
  · rintro (⟨subscriber, hsubscriber, hlive, rfl⟩ | ⟨rfl, subscriber, hsubscriber, -, hid⟩)
    · exact ⟨subscriber, hsubscriber, Or.inr hlive, rfl⟩
    · exact ⟨subscriber, hsubscriber, Or.inl hid, hid⟩

/-- No number is given twice. -/
def Distinct (bus : Bus) : Prop :=
  (bus.subscribers.map (·.id)).Nodup

theorem Distinct.nodup_listed {bus : Bus} (h : bus.Distinct) (live : Bool) :
    (bus.listed live).Nodup :=
  h.sublist (List.filter_sublist.map _)

theorem Distinct.subscribe {bus : Bus} (h : bus.Distinct) (hnumbered : bus.Numbered) :
    bus.subscribe.2.Distinct := by
  have hnew : bus.next ∉ bus.subscribers.map (·.id) := by
    intro hmem
    obtain ⟨subscriber, hsubscriber, hid⟩ := List.mem_map.mp hmem
    exact Nat.lt_irrefl _ (hid ▸ hnumbered subscriber hsubscriber)
  simpa [Distinct, Bus.subscribe, List.nodup_append, hnew] using ⟨h, by simpa using hnew⟩

theorem Distinct.publish {bus : Bus} (h : bus.Distinct) (dataset : String) :
    (bus.publish dataset).2.Distinct := by
  have hids : (bus.publish dataset).2.subscribers.map (·.id) = bus.listed true := by
    simp [Bus.publish, listed, Subscriber.receive, Function.comp_def]
  rw [Distinct, hids]
  exact h.nodup_listed true

theorem Distinct.modify {bus : Bus} (h : bus.Distinct) (id : Nat) {change : Subscriber → Subscriber}
    (hchange : ∀ subscriber, (change subscriber).id = subscriber.id) :
    (bus.modify id change).Distinct := by
  have hids : (bus.modify id change).subscribers.map (·.id) = bus.subscribers.map (·.id) := by
    rw [Bus.modify, List.map_map]
    refine List.map_congr_left fun subscriber _ => ?_
    rw [Function.comp_apply]
    split
    · exact hchange subscriber
    · rfl
  rw [Distinct, hids]
  exact h

/-! ## What a bus lists -/

/-- The bus lists the subscriptions that the calls have come to, each with a queue of the datasets
that it has been signalled. -/
structure Follows (calls : List Call) (bus : Bus) : Prop where
  next : bus.next = subscriptions calls
  numbered : bus.Numbered
  distinct : bus.Distinct
  live : ∀ id, id ∈ bus.listed true ↔ Live calls id
  dropped : ∀ id, id ∈ bus.listed false ↔ Lingers calls id
  queued : ∀ id queue, bus.queue? id = some queue →
    ∀ dataset, dataset ∈ queue ↔ Signalled calls id dataset

namespace Follows

variable {calls : List Call} {bus : Bus}

theorem empty : Follows [] .empty where
  next := rfl
  numbered := numbered_empty
  distinct := List.nodup_nil
  live _ := iff_of_false List.not_mem_nil not_since_nil
  dropped _ := iff_of_false List.not_mem_nil not_since_nil
  queued _ _ hqueue := by cases hqueue

theorem subscribe (h : Follows calls bus) : Follows (calls ++ [.subscribe]) bus.subscribe.2 where
  next := by
    rw [subscriptions_concat, ← h.next]
    rfl
  numbered := h.numbered.subscribe
  distinct := h.distinct.subscribe h.numbered
  live id := by
    have hlisted : bus.subscribe.2.listed true = bus.listed true ++ [bus.next] := by
      simp [listed, Bus.subscribe]
    rw [hlisted, List.mem_append, h.live, List.mem_singleton, h.next, Live, Live, since_concat_iff]
    simp [or_comm, eq_comm]
  dropped id := by
    have hlisted : bus.subscribe.2.listed false = bus.listed false := by
      simp [listed, Bus.subscribe]
    rw [hlisted, h.dropped, Lingers, Lingers, since_concat_iff]
    simp
  queued id queue hqueue dataset := by
    rw [Signalled, since_concat_iff]
    by_cases hid : id = bus.next
    · subst hid
      have hunlisted : bus.queue? bus.next = none := by
        by_contra hsome
        exact Nat.lt_irrefl _ (h.numbered.lt_of_queue? (Option.isSome_iff_ne_none.mpr hsome))
      rw [queue?_subscribe_next hunlisted, Option.some.injEq] at hqueue
      subst hqueue
      refine iff_of_false List.not_mem_nil ?_
      rintro (⟨hcall, -⟩ | ⟨-, hsignalled⟩)
      · cases hcall
      · exact Nat.lt_irrefl _ (h.next ▸ Signalled.lt_subscriptions hsignalled)
    · rw [queue?_subscribe hid] at hqueue
      rw [h.queued id queue hqueue]
      simp [Signalled]

theorem drop (h : Follows calls bus) (id : Nat) :
    Follows (calls ++ [.drop id]) (bus.unsubscribe id) where
  next := by
    rw [subscriptions_concat, ← h.next]
    rfl
  numbered := h.numbered.unsubscribe id
  distinct := h.distinct.modify id fun _ => rfl
  live other := by
    rw [mem_listed_unsubscribe_true, h.live, Live, Live, since_concat_iff]
    simp [eq_comm]
  dropped other := by
    rw [mem_listed_unsubscribe_false, h.live, h.dropped, Lingers, Lingers, since_concat_iff]
    simp [or_comm]
  queued other queue hqueue dataset := by
    have hid : other ≠ id := by
      rintro rfl
      rw [queue?_unsubscribe] at hqueue
      cases hqueue
    rw [queue?_unsubscribe_of_ne bus hid] at hqueue
    rw [h.queued other queue hqueue, Signalled, Signalled, since_concat_iff]
    simp

theorem publish (h : Follows calls bus) (dataset : String) :
    Follows (calls ++ [.publish dataset]) (bus.publish dataset).2 where
  next := by
    rw [subscriptions_concat, ← h.next]
    rfl
  numbered := h.numbered.publish dataset
  distinct := h.distinct.publish dataset
  live id := by
    rw [← isSome_queue?_iff, queue?_publish, Option.isSome_map, isSome_queue?_iff, h.live, Live,
      Live, since_concat_iff]
    simp
  dropped id := by
    refine iff_of_false (fun hmem => ?_) ?_
    · rw [listed_publish_false] at hmem
      cases hmem
    · rw [Lingers, since_concat_iff]
      simp
  queued id queue hqueue other := by
    rw [queue?_publish, Option.map_eq_some_iff] at hqueue
    obtain ⟨earlier, hearlier, rfl⟩ := hqueue
    have hid : id < subscriptions calls :=
      h.next ▸ h.numbered.lt_of_queue? (Option.isSome_iff_exists.mpr ⟨earlier, hearlier⟩)
    rw [Signalled, since_concat_iff, List.mem_append, h.queued id earlier hearlier,
      List.mem_singleton]
    simp [Signalled, hid, or_comm, eq_comm]

theorem take (h : Follows calls bus) (id : Nat) (dataset : String) :
    Follows (calls ++ [.take id dataset]) (bus.take id dataset).2 where
  next := by
    rw [subscriptions_concat, ← h.next]
    rfl
  numbered := h.numbered.take id dataset
  distinct := h.distinct.modify id fun _ => rfl
  live other := by
    rw [listed_take, h.live, Live, Live, since_concat_iff]
    simp
  dropped other := by
    rw [listed_take, h.dropped, Lingers, Lingers, since_concat_iff]
    simp
  queued other queue hqueue published := by
    rw [Signalled, since_concat_iff]
    by_cases hid : other = id
    · subst hid
      rw [queue?_take, Option.map_eq_some_iff] at hqueue
      obtain ⟨-, -, rfl⟩ := hqueue
      simp
    · rw [queue?_take_of_ne bus dataset hid] at hqueue
      rw [h.queued other queue hqueue]
      simp [Signalled, Ne.symm hid]

theorem step (h : Follows calls bus) : ∀ call, Follows (calls ++ [call]) (bus.perform call)
  | .subscribe => h.subscribe
  | .drop id => h.drop id
  | .publish dataset => h.publish dataset
  | .take id dataset => h.take id dataset

theorem run (calls : List Call) : Follows calls (afterCalls calls) := by
  induction calls using List.reverseRecOn with
  | nil => exact empty
  | append_singleton calls call ih =>
      rw [afterCalls_concat]
      exact ih.step call

end Follows

/-! ## What calls are answered -/

theorem encard_eq_of_nodup {members : List Nat} {holds : Nat → Prop} (hnodup : members.Nodup)
    (h : ∀ id, id ∈ members ↔ holds id) : {id | holds id}.encard = members.length := by
  have hset : {id | holds id} = (members.toFinset : Set Nat) := by
    ext id
    simp [h]
  rw [hset, Set.encard_coe_eq_coe_finsetCard, List.toFinset_card_of_nodup hnodup]

/-- However many signals are queued, for this subscription or for others: a live subscription that
takes its signals is told exactly whether the dataset was published since it subscribed and since it
last took signals.  A publication reaches each live subscription once and is counted that often, and
those are listed whose subscription is live or was dropped after the last publication. -/
theorem calls_answered (calls : List Call) :
    (afterCalls calls).subscribe.1 = subscriptions calls ∧
    (∀ id, Live calls id → ∀ dataset,
      ((afterCalls calls).take id dataset).1 = true ↔ Signalled calls id dataset) ∧
    (∀ dataset,
      (((afterCalls calls).publish dataset).1 : ENat) = {id | Live calls id}.encard ∧
      (∀ id, Live calls id → ∃ queue, (afterCalls calls).queue? id = some queue ∧
        ((afterCalls calls).publish dataset).2.queue? id = some (queue ++ [dataset])) ∧
      ∀ id, ¬ Live calls id → ((afterCalls calls).publish dataset).2.queue? id = none) ∧
    ((afterCalls calls).subscriberCount : ENat) =
      {id | Live calls id}.encard + {id | Lingers calls id}.encard := by
  have h := Follows.run calls
  have hqueue : ∀ id, Live calls id ↔ ((afterCalls calls).queue? id).isSome := fun id =>
    (h.live id).symm.trans isSome_queue?_iff.symm
  have hlive := encard_eq_of_nodup (h.distinct.nodup_listed true) h.live
  have hdropped := encard_eq_of_nodup (h.distinct.nodup_listed false) h.dropped
  refine ⟨h.next, fun id hid dataset => ?_, fun dataset => ⟨?_, fun id hid => ?_, fun id hid => ?_⟩,
    ?_⟩
  · obtain ⟨queue, hsome⟩ := Option.isSome_iff_exists.mp ((hqueue id).mp hid)
    rw [take_eq_true_iff hsome, h.queued id queue hsome]
  · rw [publish_fst, hlive]
  · obtain ⟨queue, hsome⟩ := Option.isSome_iff_exists.mp ((hqueue id).mp hid)
    exact ⟨queue, hsome, by rw [queue?_publish, hsome]; rfl⟩
  · rw [hqueue, Option.not_isSome_iff_eq_none] at hid
    rw [queue?_publish, hid]
    rfl
  · rw [subscriberCount_eq, hlive, hdropped]
    exact Nat.cast_add _ _

/-- Taking the signals for one dataset also takes the one that was queued for another. -/
theorem taken_for_another :
    let calls : List Call :=
      [.subscribe, .subscribe, .publish "tags", .take 0 "colors", .publish "colors", .drop 1]
    Live calls 0 ∧ Signalled calls 0 "colors" ∧ ¬ Signalled calls 0 "tags" ∧
      {id | Live calls id}.encard + {id | Lingers calls id}.encard = 2 := by
  intro calls
  obtain ⟨-, htaken, -, hcount⟩ := calls_answered calls
  have hlive : Live calls 0 := ⟨[], _, rfl, rfl, by decide⟩
  refine ⟨hlive, (htaken 0 hlive "colors").mp (by decide), fun htags => ?_, hcount.symm⟩
  exact absurd ((htaken 0 hlive "tags").mpr htags) (by decide)

end TagLedger.Cache.Bus
