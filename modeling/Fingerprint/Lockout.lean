import Fingerprint.Event
import Fingerprint.Fault
import Fingerprint.TaskQueue

/-!
# Lockout

After more failed authentications in a row than are tolerated, authentication
is locked until a timer has run out. Every further failure starts the timer
anew. A success forgets the failures and leaves the timer running: what it
does when it runs out is harmless then.

The functions here are on the counter and the queue that holds the timer;
what they report is published by their callers.

* `Lockout.recordFailure`, `recordSuccess`, `expire`;
* `Lockout.isLocked`.
-/

namespace Fingerprint

/-- What a failed attempt leads to. -/
inductive LockoutResult where
  | stillOpen
  | entered
  deriving DecidableEq, Repr

/-- The failures in a row, and the timer. -/
structure Lockout where
  failed : UInt32 := 0
  /-- When the lockout ends. -/
  lockedUntil : Option Int := none
  /-- The number of the timer among the delayed tasks; zero if there is none. -/
  timer : Nat := 0
  deriving DecidableEq, Repr

namespace Lockout

/-- The limits of a lockout. -/
structure Settings where
  /-- The failures in a row that are tolerated. -/
  maxFailedAttempts : UInt32 := 5
  /-- How long a lockout lasts, in milliseconds. -/
  duration : Int := 30000
  deriving DecidableEq, Repr

/-- Whether authentication is locked. -/
def isLocked (lockout : Lockout) (settings : Settings) : Bool :=
  settings.maxFailedAttempts < lockout.failed

variable {τ : Type}

/-- Takes the timer off the queue, if there is one there. -/
def cancelTimer (lockout : Lockout) (q : TaskQueue τ) : TaskQueue τ :=
  if lockout.timer = 0 then q else (q.cancel lockout.timer).2

/-- Counts a failure at `now`. From the first beyond the limit on, each starts the
    timer anew, `expiry` being the task that it runs. -/
def recordFailure (lockout : Lockout) (settings : Settings) (now : Int) (expiry : τ) (q : TaskQueue τ) :
    LockoutResult × Lockout × TaskQueue τ :=
  let lockout := { lockout with failed := lockout.failed + 1 }
  if lockout.isLocked settings then
    let (timer, q) := (lockout.cancelTimer q).postDelayed now settings.duration expiry
    (.entered, { lockout with lockedUntil := some (now + settings.duration), timer }, q)
  else (.stillOpen, lockout, q)

theorem failed_recordFailure (lockout : Lockout) (settings : Settings) (now : Int) (expiry : τ) (q : TaskQueue τ) :
    (lockout.recordFailure settings now expiry q).2.1.failed = lockout.failed + 1 := by
  rw [recordFailure]
  dsimp only
  split <;> rfl

/-- Forgets the failures, and leaves the timer as it is. -/
def recordSuccess (lockout : Lockout) : Lockout := { lockout with failed := 0, lockedUntil := none }

/-- What the timer does when it runs out. -/
def expire : Lockout := {}

/-- What is told when a lockout is entered or lengthened. -/
def enteredEvent (lockout : Lockout) (settings : Settings) : Event where
  category := .security
  severity := .warning
  id := "fingerprint_lockout_entered"
  message := "Too many failed fingerprint attempts"
  fields := [.number "failed_count" lockout.failed.toNat, .number "lockout_ms" settings.duration]

/-- What is told when the timer has run out. -/
def resetEvent : Event where
  category := .security
  id := "fingerprint_lockout_reset"
  message := Message.lockoutReset

end Lockout

end Fingerprint
