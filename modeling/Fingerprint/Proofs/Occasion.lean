import Fingerprint.Proofs.Disguise
import Fingerprint.Proofs.Gate

/-!
# What the coordinator has to deal with

Callers ask for something, or die; the driver tells an event, or dies; others
register, or put tasks on the queue; time goes by, and those whose turn it is
run what is due. Each of these is an occasion, and something comes of each.

In disguise the same occasions are those of callers with other tokens.

* `Occasion`, `Answer`: the occasions, and what comes of them;
* `Host.meet`, `Host.course`: what is done on an occasion, and on one after the
  other;
* `Occasion.disguise`: the same occasion, with callers in disguise.
-/

namespace Fingerprint

variable {ω κ κ' : Type}

/-- What comes of an occasion. -/
inductive Answer where
  | nothing
  | flag (value : Bool)
  | number (value : UInt64)
  | count (value : Nat)
  | templates (list : List Template)
  deriving DecidableEq, Repr

/-- What the caller gets in return. -/
def ServiceCall.answer : (call : ServiceCall) → call.Reply → Answer
  | preEnroll _, value | authenticatorId .., value => .number value
  | isHardwareDetected .., value | hasEnrolledTemplates .., value => .flag value
  | enrolledTemplates .., list => .templates list
  | enroll .., _ | cancelEnrollment _, _ | authenticate .., _ | cancelAuthentication .., _ | remove .., _
  | rename .., _ => .nothing

/-- What the coordinator has to deal with. -/
inductive Occasion (κ : Type) where
  /-- A caller asks for something. -/
  | served (call : ServiceCall)
  /-- A task is performed on the spot. -/
  | performed (task : Task κ)
  | stoppedPending
  | stopped (kind : SessionKind) (caller : CallerToken) (notify : Bool)
  /-- Somebody wants to know of the death of a caller. -/
  | registered (caller : CallerToken) (onDeath : Option κ)
  | released (id : Nat)
  /-- Somebody wants to know whether there are registrations of a caller. -/
  | sought (caller : CallerToken)
  | posted (task : Task κ)
  | delayed (ms : Int) (task : Task κ)
  | reported (event : DriverEvent)
  | linkDied (generation : Nat)
  | callerDied (caller : CallerToken)
  | subjectChanged (subject : Int32)
  /-- Time goes by. -/
  | advanced (ms : Int)
  /-- What is due is run, on the spot or on the queue's own thread. -/
  | drained
  | worked
  /-- The service is started for a first subject, or stopped. -/
  | started (subject : Int32)
  | ended

namespace Host

variable (host : Host ω κ)

/-- What is done on an occasion, and what comes of it. -/
def meet : Occasion κ → Op ω κ Answer
  | .served call => do return call.answer (← host.serve call)
  | .performed task => do
    host.perform task
    return .nothing
  | .stoppedPending => do
    host.stopPendingOperations
    return .nothing
  | .stopped kind caller notify => do return .flag (← host.stopSession kind caller notify)
  | .registered caller onDeath => do return .count ((← register caller (onDeath.map .client)).id.getD 0)
  | .released id => do
    onLiveness (·.unregister id)
    return .nothing
  | .sought caller => do return .flag ((← get).liveness.isRegistered caller)
  | .posted task => do
    Op.post task
    return .nothing
  | .delayed ms task => do
    let s ← get
    let (id, queue) := s.queue.postDelayed s.clock ms task
    set { s with queue }
    return .count id
  | .reported event => do
    report event
    return .nothing
  | .linkDied generation => do
    driverLinkDied generation
    return .nothing
  | .callerDied caller => do
    notifyCallerDied caller
    return .nothing
  | .subjectChanged subject => do
    activeSubjectChanged subject
    return .nothing
  | .advanced ms => do
    modify fun s => { s with clock := s.clock + ms }
    return .nothing
  | .drained => do return .count (← host.runPending)
  | .worked => do
    host.work
    return .nothing
  | .started subject => do
    host.startService subject
    return .nothing
  | .ended => do
    stopService
    return .nothing

/-- What is done on one occasion after the other, with what comes of each. -/
def course : List (Occasion κ) → System ω κ → List (Except Fault Answer) × System ω κ
  | [], s => ([], s)
  | occasion :: rest, s =>
    let (outcome, s) := (host.meet occasion).run s
    let (outcomes, s) := course rest s
    (outcome :: outcomes, s)

end Host

/-! ## In disguise -/

namespace ServiceCall

/-- The same asked for by a caller in disguise. -/
def disguise (ρ : Disguise κ κ') : ServiceCall → ServiceCall
  | preEnroll caller => .preEnroll (ρ.caller caller)
  | enroll caller sink request => .enroll (ρ.caller caller) sink request
  | cancelEnrollment caller => .cancelEnrollment (ρ.caller caller)
  | authenticate caller sink request package => .authenticate (ρ.caller caller) sink request package
  | cancelAuthentication caller package => .cancelAuthentication (ρ.caller caller) package
  | remove caller sink request => .remove (ρ.caller caller) sink request
  | rename caller subject id label => .rename (ρ.caller caller) subject id label
  | isHardwareDetected caller package => .isHardwareDetected (ρ.caller caller) package
  | enrolledTemplates caller subject package => .enrolledTemplates (ρ.caller caller) subject package
  | hasEnrolledTemplates caller subject package => .hasEnrolledTemplates (ρ.caller caller) subject package
  | authenticatorId caller package => .authenticatorId (ρ.caller caller) package

variable (ρ : Disguise κ κ') (call : ServiceCall)

theorem caller_disguise : (call.disguise ρ).caller = ρ.caller call.caller := by cases call <;> rfl

theorem permission_disguise : (call.disguise ρ).permission = call.permission := by cases call <;> rfl

theorem package?_disguise : (call.disguise ρ).package? = call.package? := by cases call <;> rfl

theorem needsSomebody_disguise : (call.disguise ρ).needsSomebody = call.needsSomebody := by cases call <;> rfl

end ServiceCall

/-- The same occasion, with callers in disguise. -/
def Occasion.disguise (ρ : Disguise κ κ') : Occasion κ → Occasion κ'
  | served call => .served (call.disguise ρ)
  | performed task => .performed (task.disguise ρ)
  | stoppedPending => .stoppedPending
  | stopped kind caller notify => .stopped kind (ρ.caller caller) notify
  | registered caller onDeath => .registered (ρ.caller caller) (onDeath.map ρ.client)
  | released id => .released id
  | sought caller => .sought (ρ.caller caller)
  | posted task => .posted (task.disguise ρ)
  | delayed ms task => .delayed ms (task.disguise ρ)
  | reported event => .reported event
  | linkDied generation => .linkDied generation
  | callerDied caller => .callerDied (ρ.caller caller)
  | subjectChanged subject => .subjectChanged subject
  | advanced ms => .advanced ms
  | drained => .drained
  | worked => .worked
  | started subject => .started subject
  | ended => .ended

end Fingerprint
