/-!
# The invalidation bus

Publishing a dataset's name puts a signal into the queue of every live subscriber.  A subscriber
that takes its signals empties its queue, whatever dataset it asks about.  Subscribers that were
dropped stay listed until the next publication.
-/

namespace TagLedger.Cache

structure Subscriber where
  id : Nat
  live : Bool
  queue : List String
  deriving DecidableEq, Repr

structure Bus where
  subscribers : List Subscriber
  next : Nat
  deriving DecidableEq, Repr

namespace Bus

def empty : Bus :=
  ⟨[], 0⟩

instance : Inhabited Bus := ⟨empty⟩

def subscriberCount (bus : Bus) : Nat :=
  bus.subscribers.length

def subscribe (bus : Bus) : Nat × Bus :=
  (bus.next, ⟨bus.subscribers ++ [⟨bus.next, true, []⟩], bus.next + 1⟩)

def modify (bus : Bus) (id : Nat) (change : Subscriber → Subscriber) : Bus :=
  { bus with
    subscribers := bus.subscribers.map fun subscriber =>
      if subscriber.id = id then change subscriber else subscriber }

def unsubscribe (bus : Bus) (id : Nat) : Bus :=
  bus.modify id ({ · with live := false })

def Subscriber.receive (dataset : String) (subscriber : Subscriber) : Subscriber :=
  { subscriber with queue := subscriber.queue ++ [dataset] }

/-- Signals every live subscriber, forgets the others, and counts the signals. -/
def publish (bus : Bus) (dataset : String) : Nat × Bus :=
  let reached := (bus.subscribers.filter (·.live)).map (Subscriber.receive dataset)
  (reached.length, { bus with subscribers := reached })

def queue? (bus : Bus) (id : Nat) : Option (List String) :=
  (bus.subscribers.find? fun subscriber => subscriber.id == id && subscriber.live).map (·.queue)

/-- Empties a subscriber's queue and tells whether `dataset` was signalled in it. -/
def take (bus : Bus) (id : Nat) (dataset : String) : Bool × Bus :=
  (((bus.queue? id).getD []).contains dataset, bus.modify id ({ · with queue := [] }))

end Bus

end TagLedger.Cache
