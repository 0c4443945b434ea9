import TagLedger.Cache.Bus
import TagLedger.Cache.Derived

/-!
# Callers at the same time

Any number of callers use one cache and one bus, each by atomic steps, and the steps of different
callers may come in any order.  A caller asks for the dataset, asks for a fresh fetch of it, or
renders for a subscriber, which asks for a fresh fetch exactly when the dataset was invalidated
since the subscriber last looked.
-/

namespace TagLedger.Cache

inductive Request where
  | get
  | refetch
  | render (subscriber : Nat)
  deriving DecidableEq, Repr

inductive Phase (α : Type) where
  | requested (request : Request)
  | leading (flight : Nat)
  | fetching (flight fetch : Nat)
  | ended (flight : Nat) (fetched : Fetched α)
  | settled (flight : Nat) (fetched : Fetched α)
  | parked (flight : Nat)
  | returned (fetched : Fetched α)

structure System (α : Type) where
  cache : Derived α
  bus : Bus
  callers : List (Phase α)

namespace System

variable {α : Type}

def new (dataset : String) : System α :=
  ⟨.new dataset, .empty, []⟩

def phaseOfRole : Role α → Phase α
  | .served value => .returned (.ok value)
  | .waiter flight => .parked flight
  | .leader flight => .leading flight

/-- The next step of a caller that is not fetching: its phase after it, and the system. -/
def stepOf (system : System α) : Phase α → Option (Phase α × System α)
  | .requested (.render subscriber) =>
      let (invalidated, bus) := system.bus.take subscriber system.cache.dataset
      some (.requested (if invalidated then .refetch else .get), { system with bus })
  | .requested .get =>
      let (role, cache) := system.cache.enter
      some (phaseOfRole role, { system with cache })
  | .requested .refetch =>
      let (flight, cache) := system.cache.supersede
      some (.leading flight, { system with cache })
  | .leading flight =>
      let (fetch, cache) := system.cache.beginFetch
      some (.fetching flight fetch, { system with cache })
  | .ended flight fetched =>
      some (.settled flight fetched, { system with cache := system.cache.settle flight fetched })
  | .settled flight fetched =>
      some (.returned fetched, { system with cache := system.cache.handOut flight fetched })
  | .parked flight =>
      (system.cache.collect flight).map fun (fetched, cache) =>
        (.returned fetched, { system with cache })
  | .fetching _ _ => none
  | .returned _ => none

def setPhase (system : System α) (caller : Nat) (phase : Phase α) : System α :=
  { system with callers := system.callers.set caller phase }

def call (system : System α) (request : Request) : Nat × System α :=
  (system.callers.length, { system with callers := system.callers ++ [.requested request] })

def advance (system : System α) (caller : Nat) : Option (System α) := do
  let phase ← system.callers[caller]?
  let (phase, system) ← system.stepOf phase
  return system.setPhase caller phase

def finishFetch (system : System α) (caller : Nat) (fetchEnd : FetchEnd α) : Option (System α) :=
  match system.callers[caller]? with
  | some (.fetching flight _) =>
      some (system.setPhase caller (.ended flight (fetchEnd.fetched system.cache.dataset)))
  | _ => none

inductive Move (α : Type) where
  | call (request : Request)
  | advance (caller : Nat)
  | finishFetch (caller : Nat) (fetchEnd : FetchEnd α)
  | publish (dataset : String)
  | subscribe
  | unsubscribe (subscriber : Nat)

def apply (system : System α) : Move α → Option (System α)
  | .call request => some (system.call request).2
  | .advance caller => system.advance caller
  | .finishFetch caller fetchEnd => system.finishFetch caller fetchEnd
  | .publish dataset => some { system with bus := (system.bus.publish dataset).2 }
  | .subscribe => some { system with bus := system.bus.subscribe.2 }
  | .unsubscribe subscriber => some { system with bus := system.bus.unsubscribe subscriber }

def run (system : System α) (moves : List (Move α)) : Option (System α) :=
  moves.foldlM apply system

/-! ## Running one caller as far as it goes -/

def driveWithin (plan : Nat → Option (FetchEnd α)) (caller : Nat) : Nat → System α → System α
  | 0, system => system
  | limit + 1, system =>
      match system.callers[caller]? with
      | some (.fetching _ fetch) =>
          match (plan fetch).bind (system.finishFetch caller) with
          | some system => driveWithin plan caller limit system
          | none => system
      | _ =>
          match system.advance caller with
          | some system => driveWithin plan caller limit system
          | none => system

/-- A caller takes six steps at most: it looks at its signals, chooses its role, begins and ends a
fetch, settles, and hands out. -/
def drive (plan : Nat → Option (FetchEnd α)) (caller : Nat) (system : System α) : System α :=
  driveWithin plan caller 6 system

def outcome? (system : System α) (caller : Nat) : Option (Fetched α) :=
  match system.callers[caller]? with
  | some (.returned fetched) => some fetched
  | _ => none

end System

end TagLedger.Cache
