import TagLedger.Error

/-!
# Derived-data caches

A cache holds one dataset in its slot: nothing, a fetch in flight, or a snapshot.  A caller that
finds nothing becomes the leader of a new flight; one that finds a flight waits for it; one that
finds a snapshot is served.  A caller may also supersede whatever is there by a flight of its own.

A leader fetches, settles the slot, and then hands its outcome out to those who wait.  Settling
changes the slot only as long as the leader's flight is still in it: a success leaves a snapshot, a
failure leaves nothing.  Each of these steps is atomic and is a function of its own here.
-/

namespace TagLedger.Cache

abbrev Fetched (α : Type) : Type :=
  Except FetchFailure α

inductive FetchEnd (α : Type) where
  | succeeded (value : α)
  | failed (failure : FetchFailure)
  | panicked (message : Option String)

def panicText : Option String → String
  | some message => "fetcher panicked: " ++ message
  | none => "fetcher panicked"

def FetchEnd.fetched {α : Type} (dataset : String) : FetchEnd α → Fetched α
  | .succeeded value => .ok value
  | .failed failure => .error failure
  | .panicked message => .error ⟨dataset, panicText message⟩

/-- A fetch that callers may wait for: the outcome once it is handed out, and how many wait. -/
structure Flight (α : Type) where
  handedOut : Option (Fetched α)
  waiting : Nat

inductive Slot (α : Type) where
  | empty
  | loading (flight : Nat)
  | ready (value : α)

inductive CacheState where
  | empty
  | loading
  | ready
  deriving DecidableEq, Repr

def CacheState.name : CacheState → String
  | .empty => "Empty"
  | .loading => "Loading"
  | .ready => "Ready"

/-- A cache, with all flights that were ever placed in its slot, numbered from 0. -/
structure Derived (α : Type) where
  dataset : String
  slot : Slot α
  flights : List (Flight α)
  fetches : Nat

inductive Role (α : Type) where
  | served (value : α)
  | waiter (flight : Nat)
  | leader (flight : Nat)

namespace Derived

variable {α : Type}

def new (dataset : String) : Derived α :=
  ⟨dataset, .empty, [], 0⟩

def state (cache : Derived α) : CacheState :=
  match cache.slot with
  | .empty => .empty
  | .loading _ => .loading
  | .ready _ => .ready

def snapshot (cache : Derived α) : Option α :=
  match cache.slot with
  | .ready value => some value
  | _ => none

def waitingConsumers (cache : Derived α) : Nat :=
  match cache.slot with
  | .loading flight => (cache.flights[flight]?.map (·.waiting)).getD 0
  | _ => 0

def describe (cache : Derived α) : String :=
  "DerivedCache \x7b dataset: " ++ Text.quoted cache.dataset ++ ", state: " ++ cache.state.name ++
    ", fetches: " ++ toString cache.fetches ++ ", .. \x7d"

def describeConsumer (cache : Derived α) : String :=
  "Consumer \x7b dataset: " ++ Text.quoted cache.dataset ++ ", .. \x7d"

/-! ## Atomic steps -/

def supersede (cache : Derived α) : Nat × Derived α :=
  let flight := cache.flights.length
  (flight, { cache with slot := .loading flight, flights := cache.flights ++ [⟨none, 0⟩] })

def enter (cache : Derived α) : Role α × Derived α :=
  match cache.slot with
  | .ready value => (.served value, cache)
  | .loading flight =>
      (.waiter flight,
        { cache with
          flights := cache.flights.modify flight fun flight =>
            { flight with waiting := flight.waiting + 1 } })
  | .empty =>
      let (flight, cache) := cache.supersede
      (.leader flight, cache)

def beginFetch (cache : Derived α) : Nat × Derived α :=
  (cache.fetches, { cache with fetches := cache.fetches + 1 })

def settledSlot (fetched : Fetched α) : Slot α :=
  match fetched with
  | .ok value => .ready value
  | .error _ => .empty

/-- Ends a flight's stay in the slot, if it is still there. -/
def settle (cache : Derived α) (flight : Nat) (fetched : Fetched α) : Derived α :=
  match cache.slot with
  | .loading current =>
      if current = flight then { cache with slot := settledSlot fetched } else cache
  | _ => cache

def handOut (cache : Derived α) (flight : Nat) (fetched : Fetched α) : Derived α :=
  { cache with
    flights := cache.flights.modify flight ({ · with handedOut := some fetched }) }

def collect (cache : Derived α) (flight : Nat) : Option (Fetched α × Derived α) :=
  match (cache.flights[flight]?).bind (·.handedOut) with
  | some fetched =>
      some (fetched,
        { cache with
          flights := cache.flights.modify flight fun flight =>
            { flight with waiting := flight.waiting - 1 } })
  | none => none

/-! ## Undisturbed calls -/

/-- A leader's work from its fetch on, with no one else in between. -/
def lead (cache : Derived α) (flight : Nat) (fetchEnd : FetchEnd α) : Fetched α × Derived α :=
  let (_, cache) := cache.beginFetch
  let fetched := fetchEnd.fetched cache.dataset
  (fetched, (cache.settle flight fetched).handOut flight fetched)

end Derived

end TagLedger.Cache
