import Fingerprint.Liveness

/-!
# Sessions

A session is one operation of a caller on the sensor: an enrollment, an
authentication or a removal. At most one of each kind is active at a time; the
`Slots` hold the active ones. A session has an identity of its own, so that it
is not confused with a later one of the same caller.

Results are handed to the session's sink, a callback surface on the side of
the caller. A session may have none.
-/

namespace Fingerprint

/-- What a session is for. -/
inductive SessionKind where
  | enroll
  | authenticate
  | remove
  deriving DecidableEq, Repr

/-- The name of a kind of session. -/
def SessionKind.name : SessionKind → String
  | enroll => "enroll"
  | authenticate => "authenticate"
  | remove => "remove"

/-- Whether a session goes on after a notification. -/
inductive SessionOutcome where
  | continuing
  | done
  deriving DecidableEq, Repr

/-- What a sink is known by. -/
abbrev SinkName := String

/-- Why the sensor gives up on an operation. Drivers may have numbers of their own, too. -/
inductive SensorError where
  | hwUnavailable
  | unableToProcess
  | timeout
  | noSpace
  | canceled
  | unableToRemove
  | lockout
  deriving DecidableEq, Repr

/-- The number of a sensor error. -/
def SensorError.code : SensorError → Int32
  | hwUnavailable => 1
  | unableToProcess => 2
  | timeout => 3
  | noSpace => 4
  | canceled => 5
  | unableToRemove => 6
  | lockout => 7

/-- What a sink is called with. -/
inductive Callback where
  | enrollResult (device : UInt64) (id : UInt32) (subject remaining : Int32)
  | acquired (device : UInt64) (info : Int32)
  | authenticated (device : UInt64) (id : UInt32) (subject : Int32)
  | error (device : UInt64) (code : Int32)
  | removed (device : UInt64) (id : UInt32) (subject : Int32)
  deriving DecidableEq, Repr

namespace Callback

/-- The name of a callback. -/
def name : Callback → String
  | enrollResult .. => "enroll_result"
  | acquired .. => "acquired"
  | authenticated .. => "authenticated"
  | error .. => "error"
  | removed .. => "removed"

/-- Whether a session goes on after a callback that was delivered: it does while results
    remain to come. -/
def outcome : Callback → SessionOutcome
  | enrollResult _ _ _ remaining => if remaining = 0 then .done else .continuing
  | acquired .. => .continuing
  | authenticated .. => .done
  | error .. => .done
  | removed _ id _ => if id = 0 then .done else .continuing

end Callback

/-- One operation of a caller. -/
structure Session where
  /-- What tells the session from all others there ever were. -/
  id : Nat
  kind : SessionKind
  caller : CallerToken
  sink : Option SinkName
  subject : Int32
  /-- The handle to the entry that waits for the caller's death. -/
  registration : Registration := {}
  deriving DecidableEq, Repr

/-- The active sessions, at most one of each kind. -/
structure Slots where
  enroll : Option Session := none
  authenticate : Option Session := none
  remove : Option Session := none
  deriving DecidableEq, Repr

namespace Slots

/-- The active session of a kind. -/
def get (slots : Slots) : SessionKind → Option Session
  | .enroll => slots.enroll
  | .authenticate => slots.authenticate
  | .remove => slots.remove

/-- Puts a session, or none, in the slot of a kind. -/
def set (slots : Slots) (kind : SessionKind) (session : Option Session) : Slots :=
  match kind with
  | .enroll => { slots with enroll := session }
  | .authenticate => { slots with authenticate := session }
  | .remove => { slots with remove := session }

@[simp] theorem get_set_self (slots : Slots) (kind : SessionKind) (session : Option Session) :
    (slots.set kind session).get kind = session := by
  cases kind <;> rfl

theorem get_set_of_ne (slots : Slots) {kind other : SessionKind} (session : Option Session)
    (h : other ≠ kind) : (slots.set kind session).get other = slots.get other := by
  cases kind <;> cases other <;> first | rfl | exact absurd rfl h

end Slots

end Fingerprint
