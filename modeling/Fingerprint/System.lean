import Fingerprint.Lockout
import Fingerprint.Session
import Fingerprint.TemplateStore

/-!
# The system and its host

The state of the coordinator, and the world around it. The coordinator calls
on collaborators: a registry that hands out the sensor's driver, the driver,
the sinks of callers, the template store, the haptic feedback and the access
policy. Each call is a value of `Call`, and a `Host` says how it is answered:
with a reply of the type that belongs to the call, or with a fault. The answer
may change the whole system, since a collaborator may turn to the coordinator
again before it returns.

Tasks on the queue and what is to be done at the death of a caller are data,
too. Both leave room for what clients of the coordinator put there, of the
type `κ`. The host keeps its own state, of the type `ω`.

* `System`: the state;
* `Call`, `Call.Reply`: what collaborators are asked, and the type of answers;
* `Host`: the collaborators and the settings;
* `Op`: an operation, which ends with a result or a fault, and has changed the
  system in either case.
-/

namespace Fingerprint

/-! ## Collaborators -/

/-- What a driver is known by that the registry handed out. -/
abbrev Handle := Nat

/-- What a driver is asked. -/
inductive DriverCall where
  /-- To tell when it dies, the acquisition being the one with this number. -/
  | linkToDeath (generation : Nat)
  /-- To send its events to the coordinator. -/
  | init
  | openHal
  | preEnroll
  | enroll (token : Bytes) (subject : Int32) (timeout : UInt32)
  | cancelEnroll
  | authenticate (operation : UInt64) (subject : Int32)
  | cancelAuthenticate
  | remove (id : UInt32) (subject : Int32)
  | setActiveSubject (subject : Int32) (storage : Bytes)
  | authenticatorId
  deriving DecidableEq, Repr

/-- What a driver answers with: nothing, a number of its own, or a status, which is zero
    if it accepts. -/
def DriverCall.Reply : DriverCall → Type
  | linkToDeath _ | init => Unit
  | openHal | preEnroll | authenticatorId => UInt64
  | enroll .. | cancelEnroll | authenticate .. | cancelAuthenticate | remove .. | setActiveSubject .. => Int

/-- What a caller may be allowed to do. -/
inductive Permission where
  | manage
  | use
  deriving DecidableEq, Repr

/-- What collaborators are asked. -/
inductive Call where
  /-- The registry, to hand out the driver. -/
  | acquire
  | driver (handle : Handle) (call : DriverCall)
  | sink (name : SinkName) (callback : Callback)
  | storeAdd (subject : Int32) (id : UInt32)
  | storeRemove (subject : Int32) (id : UInt32)
  | storeRename (subject : Int32) (id : UInt32) (label : Bytes)
  | storeList (subject : Int32)
  | feedbackSuccess
  | feedbackError
  /-- The access policy, to fail unless the caller has the permission. -/
  | checkPermission (caller : CallerToken) (permission : Permission)
  /-- The access policy, whether the caller may use the sensor on behalf of a package. -/
  | canUseSensor (caller : CallerToken) (package : Bytes)
  /-- The machine, to make a directory at a path if there is nothing. -/
  | provideDirectory (path : Bytes)
  deriving DecidableEq, Repr

/-- The type of what collaborators answer with. The registry may have no driver to hand
    out, and the machine tells in words why it makes no directory. -/
def Call.Reply : Call → Type
  | acquire => Option Handle
  | driver _ call => call.Reply
  | storeList _ => List Template
  | canUseSensor .. => Bool
  | provideDirectory _ => Option Bytes
  | sink .. | storeAdd .. | storeRemove .. | storeRename .. | feedbackSuccess | feedbackError
  | checkPermission .. => Unit

/-- What the driver tells of its own accord. -/
inductive DriverEvent where
  | enrollResult (device : UInt64) (id : UInt32) (subject remaining : Int32)
  | acquired (device : UInt64) (info : Int32)
  | authenticated (device : UInt64) (id : UInt32) (subject : Int32)
  | error (device : UInt64) (code : Int32)
  | removed (device : UInt64) (id : UInt32) (subject : Int32)
  | enumerate (device : UInt64) (ids : List UInt32) (subjects : List Int32)
  deriving DecidableEq, Repr

/-! ## Tasks -/

/-- What a caller wants to enroll. -/
structure EnrollRequest where
  token : Bytes := []
  subject : Int32 := 0
  deriving DecidableEq, Repr

/-- Whom a caller wants to authenticate. -/
structure AuthenticateRequest where
  operation : UInt64 := 0
  subject : Int32 := 0
  deriving DecidableEq, Repr

/-- What a caller wants to remove. -/
structure RemoveRequest where
  id : UInt32 := 0
  subject : Int32 := 0
  deriving DecidableEq, Repr

/-- What waits on the queue. -/
inductive Task (κ : Type) where
  | startEnrollment (caller : CallerToken) (sink : Option SinkName) (request : EnrollRequest)
  | startAuthentication (caller : CallerToken) (sink : Option SinkName) (request : AuthenticateRequest)
  | startRemove (caller : CallerToken) (sink : Option SinkName) (request : RemoveRequest)
  | cancel (kind : SessionKind) (caller : CallerToken)
  | rename (subject : Int32) (id : UInt32) (label : Bytes)
  /-- The start of the service, for a first subject. -/
  | begin (subject : Int32)
  | applySubject (subject : Int32)
  | driverEvent (event : DriverEvent)
  | callerDied (caller : CallerToken)
  /-- The death of the driver that was acquired with a number. -/
  | driverDied (generation : Nat)
  | lockoutExpired
  | client (task : κ)
  deriving DecidableEq, Repr

/-- What is done at the death of a caller. -/
inductive DeathAction (κ : Type) where
  /-- The session of that identity ends, if it is still active. -/
  | endSession (kind : SessionKind) (id : Nat)
  | client (task : κ)
  deriving DecidableEq, Repr

/-! ## State -/

/-- How a request to the driver went. -/
inductive DriverOutcome where
  | ok
  | unavailable
  | rejected
  | transportError
  deriving DecidableEq, Repr

/-- The name of an outcome. -/
def DriverOutcome.name : DriverOutcome → String
  | ok => "ok"
  | unavailable => "unavailable"
  | rejected => "rejected"
  | transportError => "transport_error"

/-- How a request to the driver went, with the code that came back. -/
structure DriverStatus where
  outcome : DriverOutcome := .ok
  code : Int := 0
  deriving DecidableEq, Repr

/-- Whether the driver has accepted. -/
def DriverStatus.isOk (status : DriverStatus) : Bool := status.outcome = .ok

/-- Whose templates the driver works on, and where it keeps them. -/
structure ActiveSubject where
  subject : Int32
  storage : Bytes
  deriving DecidableEq, Repr

/-- The connection to the driver. -/
structure Connection where
  /-- Whether there still is a connection to speak of. -/
  alive : Bool := true
  /-- The driver, while there is one. -/
  handle : Option Handle := none
  /-- The device that the driver has opened; zero if there is none. -/
  device : UInt64 := 0
  /-- The number of the last acquisition. -/
  generation : Nat := 0
  /-- The subject that was last asked for. -/
  activeSubject : Option ActiveSubject := none
  /-- How the driver last took the subject. -/
  lastApplied : DriverStatus := {}
  deriving DecidableEq, Repr

/-- The state of the coordinator and of the host around it. -/
structure System (ω κ : Type) where
  /-- The time on the queue's clock, in milliseconds. -/
  clock : Int := 0
  /-- The thread that is running. -/
  thread : Thread := .client 0
  queue : TaskQueue (Task κ) := {}
  liveness : Liveness (DeathAction κ) := {}
  lockout : Lockout := {}
  connection : Connection := {}
  slots : Slots := {}
  /-- The identity of the next session. -/
  nextSession : Nat := 0
  /-- Whether events of the driver are dropped. -/
  detached : Bool := false
  /-- The identity of the session whose sink is being called. -/
  speaker : Option Nat := none
  /-- Whether a thread waits for good for what the queue will not do. What becomes of the system from
      then on is of no account. -/
  stranded : Bool := false
  /-- The state of the host. -/
  world : ω

/-- An operation. It changes the system also where it ends with a fault. -/
abbrev Op (ω κ : Type) := ExceptT Fault (StateM (System ω κ))

/-! ## The host -/

/-- What never changes: the collaborators that are there, and the settings. -/
structure Setup where
  hasRegistry : Bool := true
  hasTemplates : Bool := true
  hasFeedback : Bool := true
  hasAccess : Bool := true
  /-- Whether the driver is told where to send its events. -/
  hasEventSink : Bool := true
  lockout : Lockout.Settings := {}
  /-- How long the driver may take for an enrollment, in seconds. -/
  enrollTimeout : Int := 60
  /-- Whether a start that the driver rejects ends its session. -/
  teardownOnReject : Bool := false
  /-- The directory below which templates are kept. -/
  dataRoot : Bytes := "."
  /-- Whether the service gives its queue a thread of its own. -/
  threaded : Bool := false

/-- The settings, the collaborators and the clients around the coordinator. -/
structure Host (ω κ : Type) where
  setup : Setup
  /-- How a call is answered. -/
  answer : (call : Call) → Op ω κ call.Reply
  /-- What an event that is published in a state makes of the host's. -/
  observe : Event → System ω κ → ω
  /-- Runs a task of a client. -/
  client : κ → Op ω κ Unit
  /-- How many tasks are run at a stretch at most. -/
  patience : Nat

namespace Op

variable {ω κ α : Type}

/-- Runs an operation to its end, and gives what it ends with. -/
def attempt (op : Op ω κ α) : Op ω κ (Except Fault α) := ExceptT.mk (Except.ok <$> op.run)

/-- Ends with what an attempt ended with. -/
def settle : Except Fault α → Op ω κ α
  | .ok a => pure a
  | .error fault => throw fault

/-- Runs an operation on a thread. -/
def onThread (thread : Thread) (op : Op ω κ α) : Op ω κ α := do
  let before := (← get).thread
  modify fun s => { s with thread }
  let result ← attempt op
  modify fun s => { s with thread := before }
  settle result

/-- Runs an operation on behalf of a session. -/
def onBehalfOf (session : Nat) (op : Op ω κ α) : Op ω κ α := do
  let before := (← get).speaker
  modify fun s => { s with speaker := some session }
  let result ← attempt op
  modify fun s => { s with speaker := before }
  settle result

/-- Changes the queue. -/
def onQueue (f : TaskQueue (Task κ) → TaskQueue (Task κ)) : Op ω κ Unit :=
  modify fun s => { s with queue := f s.queue }

/-- Posts a task. -/
def post (task : Task κ) : Op ω κ Unit := onQueue (·.post task)

/-! What operations make of a state. -/

theorem run_bind {β : Type} (op : Op ω κ α) (f : α → Op ω κ β) (s : System ω κ) :
    (op >>= f).run s =
      match op.run s with
      | (.ok a, s') => (f a).run s'
      | (.error fault, s') => (.error fault, s') := by
  change (match op.run s with | (outcome, s') => ExceptT.bindCont f outcome s') = _
  rcases op.run s with ⟨_ | _, s'⟩ <;> rfl

/-- What comes after a result begins where that has led to. -/
theorem run_bind_of_ok {β : Type} {op : Op ω κ α} {s : System ω κ} {a : α} (h : (op.run s).1 = .ok a)
    (f : α → Op ω κ β) : (op >>= f).run s = (f a).run (op.run s).2 := by
  have hrun : op.run s = (.ok a, (op.run s).2) := Prod.ext h rfl
  rw [run_bind, hrun]

/-- Nothing comes after a fault. -/
theorem run_bind_of_error {β : Type} {op : Op ω κ α} {s : System ω κ} {fault : Fault}
    (h : (op.run s).1 = .error fault) (f : α → Op ω κ β) :
    (op >>= f).run s = (.error fault, (op.run s).2) := by
  have hrun : op.run s = (.error fault, (op.run s).2) := Prod.ext h rfl
  rw [run_bind, hrun]

/-- An operation that begins by looking at the state goes on from there. -/
theorem run_get_bind (f : System ω κ → Op ω κ α) (s : System ω κ) : (get >>= f).run s = (f s).run s := rfl

theorem run_attempt (op : Op ω κ α) (s : System ω κ) :
    (attempt op).run s = (.ok (op.run s).1, (op.run s).2) := rfl

theorem run_settle (outcome : Except Fault α) (s : System ω κ) :
    (settle outcome : Op ω κ α).run s = (outcome, s) := by
  cases outcome <;> rfl

theorem run_post (task : Task κ) (s : System ω κ) :
    (post task).run s = (.ok (), { s with queue := s.queue.post task }) := rfl

end Op

namespace Host

variable {ω κ : Type} (host : Host ω κ)

/-- Tells the observers of an event. -/
def publish (event : Event) : Op ω κ Unit :=
  modify fun s => { s with world := host.observe event s }

/-- Calls a driver. -/
def driver (handle : Handle) (call : DriverCall) : Op ω κ call.Reply := host.answer (.driver handle call)

end Host

end Fingerprint
