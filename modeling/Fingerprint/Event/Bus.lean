import Fingerprint.Event
import Fingerprint.Fault

/-!
# The event bus

Subscribers are called with every event published, in the order in which they
subscribed. A subscriber may itself publish, subscribe others or fail while it
is called: what it publishes is suppressed with a complaint, whom it
subscribes is called from the next event on, and its failure ends the
publication.

Subscribers are known by a name, and a table says how each reacts.

* `EventBus.publish`: one publication, from outside or from a subscriber.
-/

namespace Fingerprint

/-- What a subscriber does while it is called. -/
inductive Reaction (β : Type) where
  | publish (event : Event)
  /-- Subscribes another, or one that does nothing. -/
  | subscribe (name : Option β)
  | fail (fault : Fault)

/-- The state of the bus, and what it did so far. -/
structure EventBus (β : Type) where
  /-- The subscribers that the bus begins with. -/
  initial : List (Option β) := []
  /-- In the order of subscription; `none` subscribes nothing that could be called. -/
  subscribers : List (Option β) := initial
  /-- Whether a publication is going on. -/
  publishing : Bool := false
  /-- The calls made, oldest first. -/
  calls : List (β × Event) := []
  /-- How many publications were suppressed, each with one line that complains. -/
  suppressed : Nat := 0

namespace EventBus

variable {β : Type}

/-- The complaint about a publication made within another. -/
def reentrancyComplaint : Bytes :=
  "\x7b\"event\":\"event_bus_reentrancy\",\"message\":\"recursive publish suppressed\"\x7d"

/-- Adds a subscriber behind all others. -/
def subscribe (bus : EventBus β) (name : Option β) : EventBus β :=
  { bus with subscribers := bus.subscribers ++ [name] }

/-- A bus nobody else has subscribed to, keeping the record of what was done. -/
def reset (bus : EventBus β) : EventBus β := { bus with subscribers := bus.initial }

/-- Carries out the reactions of a subscriber, `nested` being what its publications do. -/
def react (nested : Event → EventBus β → EventBus β × Except Fault Unit) :
    List (Reaction β) → EventBus β → EventBus β × Except Fault Unit
  | [], bus => (bus, .ok ())
  | .publish event :: rest, bus =>
    match nested event bus with
    | (bus, .ok ()) => react nested rest bus
    | (bus, .error fault) => (bus, .error fault)
  | .subscribe name :: rest, bus => react nested rest (bus.subscribe name)
  | .fail fault :: _, bus => (bus, .error fault)

/-- Calls subscribers one after the other until one fails. -/
def deliver (behaviour : β → Event → List (Reaction β))
    (nested : Event → EventBus β → EventBus β × Except Fault Unit) (event : Event) :
    List (Option β) → EventBus β → EventBus β × Except Fault Unit
  | [], bus => (bus, .ok ())
  | none :: rest, bus => deliver behaviour nested event rest bus
  | some name :: rest, bus =>
    match react nested (behaviour name event) { bus with calls := bus.calls ++ [(name, event)] } with
    | (bus, .ok ()) => deliver behaviour nested event rest bus
    | (bus, .error fault) => (bus, .error fault)

/-- A publication whose subscribers publish by `nested`. Within another publication
    it is suppressed; else it calls those who had subscribed when it began. -/
def publishWith (behaviour : β → Event → List (Reaction β))
    (nested : Event → EventBus β → EventBus β × Except Fault Unit) (event : Event)
    (bus : EventBus β) : EventBus β × Except Fault Unit :=
  if bus.publishing then ({ bus with suppressed := bus.suppressed + 1 }, .ok ())
  else
    let (bus, outcome) :=
      deliver behaviour nested event bus.subscribers { bus with publishing := true }
    ({ bus with publishing := false }, outcome)

/-- A publication, within at most `depth` others. -/
def publishAt (behaviour : β → Event → List (Reaction β)) :
    (depth : Nat) → Event → EventBus β → EventBus β × Except Fault Unit
  | 0 => publishWith behaviour fun _ bus => (bus, .ok ())
  | depth + 1 => publishWith behaviour (publishAt behaviour depth)

/-- Publishes an event. A publication within it never gets to call anybody, so a
    depth of one is enough. -/
def publish (behaviour : β → Event → List (Reaction β)) (event : Event) (bus : EventBus β) :
    EventBus β × Except Fault Unit :=
  publishAt behaviour 1 event bus

end EventBus

end Fingerprint
