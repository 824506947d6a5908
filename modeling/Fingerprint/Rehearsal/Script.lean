import Fingerprint.System

/-!
# Scripts

A rehearsal follows a script: steps that are carried out one after the other.
A step turns to the queue, to a part of the coordinator or to the service, or
changes how a collaborator behaves from then on. Steps can hold lists of steps,
which are carried out later: as a task, while a driver is called, after a sink
was called, or at the death of a caller.

* `Step`: what can be asked for;
* `Result`: what a step gives;
* `Entry`: what is noted down meanwhile.
-/

namespace Fingerprint

namespace Rehearsal

/-! ## Steps for the parts -/

/-- Steps that turn to the connection to the driver. -/
inductive ConnectionStep where
  | getHandle
  | beginEnroll (token : Bytes) (subject : Int32) (timeout : UInt32)
  | cancelEnroll
  | beginAuthenticate (operation : UInt64) (subject : Int32)
  | cancelAuthenticate
  | beginRemove (id : UInt32) (subject : Int32)
  | setActiveSubject (subject : Int32) (storage : Bytes)
  | preEnroll
  | authenticatorId
  | handleDriverDied (generation : Nat)

/-- Steps that turn to the coordinator, the dispatcher and the lockout. -/
inductive CoordinatorStep where
  | startEnrollment (caller : CallerToken) (sink : Option SinkName) (request : EnrollRequest)
  | startAuthentication (caller : CallerToken) (sink : Option SinkName) (request : AuthenticateRequest)
  | startRemove (caller : CallerToken) (sink : Option SinkName) (request : RemoveRequest)
  | stopPending
  | stopEnrollment (caller : CallerToken) (notify : Bool)
  | stopAuthentication (caller : CallerToken) (notify : Bool)
  | cancel (kind : SessionKind) (caller : CallerToken)
  /-- The active session of a kind is to be removed, or one that never was active. -/
  | removeSession (kind : Option SessionKind) (foreign : Bool)
  | failAttempt
  | successAttempt
  | lockoutSettings
  | coordinatorSettings
  | shutdown
  | dispatch (event : DriverEvent)
  /-- Everything but the queue and the registrations comes to its end. -/
  | destroy

/-- Steps that turn to the registrations. Handles have names. -/
inductive LivenessStep where
  | notifyDied (caller : CallerToken)
  | handleDied (caller : CallerToken)
  | isRegistered (caller : CallerToken)
  | release (ref : String)
  | drop (ref : String)
  | move (source target : String)
  | info (ref : String)

/-- Steps that turn to sessions outside the coordinator. These have names. -/
inductive SessionStep where
  | create (kind : SessionKind) (caller : CallerToken) (sink : Option SinkName) (subject : Int32)
      (register : Bool)
  | send (callback : Callback)
  | detach
  | release
  | bind (caller : CallerToken)
  | drop
  | info

/-- Steps that turn to the service. -/
inductive ServiceStep where
  | start (subject : Int32)
  | stop
  | preEnroll (caller : CallerToken)
  | enroll (caller : CallerToken) (sink : Option SinkName) (request : EnrollRequest)
  | cancelEnrollment (caller : CallerToken)
  | authenticate (caller : CallerToken) (sink : Option SinkName) (request : AuthenticateRequest)
      (package : Bytes)
  | cancelAuthentication (caller : CallerToken) (package : Bytes)
  | remove (caller : CallerToken) (sink : Option SinkName) (request : RemoveRequest)
  | rename (caller : CallerToken) (subject : Int32) (id : UInt32) (label : Bytes)
  | hardware (caller : CallerToken) (package : Bytes)
  | templates (caller : CallerToken) (subject : Int32) (package : Bytes)
  | hasTemplates (caller : CallerToken) (subject : Int32) (package : Bytes)
  | authenticatorId (caller : CallerToken) (package : Bytes)
  | subjectChanged (subject : Int32)
  | callerDied (caller : CallerToken)
  | storagePath (subject : Int32)

/-! ## Changes of collaborators -/

/-- Entries to be put into a table, or with `none` taken out. -/
abbrev Updates (α : Type) := List (String × Option α)

/-- What is to change about the driver, whose reactions are lists of `σ`. Calls are known
    by their names. -/
structure DriverChange (σ : Type) where
  device : Option UInt64 := none
  challenge : Option UInt64 := none
  authenticatorId : Option UInt64 := none
  statuses : Updates Int := []
  faults : Updates Fault := []
  reactions : List (String × Option (List σ))

/-- What is to change about a sink. -/
structure SinkChange (σ : Type) where
  fault : Option (Option Fault) := none
  reactions : List (String × Option (List σ))

/-- What is to change about the access policy. -/
structure AccessChange where
  denied : Option (List (CallerToken × Permission)) := none
  deniedCallers : Option (List CallerToken) := none
  deniedPackages : Option (List Bytes) := none
  checkFault : Option (Option Fault) := none
  useFault : Option (Option Fault) := none

/-! ## Steps -/

/-- What a script asks for. -/
inductive Step where
  | advance (ms : Int)
  | run
  | post (steps : List Step)
  | postDelayed (ms : Int) (steps : List Step)
  /-- A task that is empty is not posted. -/
  | postNothing
  | postNothingDelayed (ms : Int)
  | cancelTask (id : Nat)
  | start
  | stop
  | onQueue
  | now
  | pending
  | mark (label : String)
  | throw (fault : Option Fault)
  /-- Steps to be carried out on the queue, and waited for; whether they are counted. -/
  | invoke (counted : Bool) (steps : List Step)
  | setDriver (change : DriverChange Step)
  | setRegistry (available : Option Bool) (fault : Option (Option Fault))
  | setSink (name : SinkName) (change : SinkChange Step)
  | setStore (faults : Updates Fault)
  | setFeedback (fault : Option (Option Fault))
  | setAccess (change : AccessChange)
  | list (subject : Int32)
  /-- The driver dies as far as one of its links is concerned, by default the last. -/
  | die (link : Option Nat)
  | emit (event : DriverEvent)
  | connection (step : ConnectionStep)
  | coordinator (step : CoordinatorStep)
  /-- A registration whose steps are carried out at the death of the caller. -/
  | register (ref : String) (caller : CallerToken) (steps : Option (List Step))
  | liveness (step : LivenessStep)
  | session (ref : String) (step : SessionStep)
  | service (step : ServiceStep)

/-- What a client puts on the queue, or has waiting for a death: steps, behind a note of
    the death that is waited for. -/
structure Errand where
  death : Option String := none
  steps : List Step := []

/-- What a step gives. -/
inductive Result where
  | nothing
  | flag (b : Bool)
  | number (n : Int)
  /-- A number that may be too large for most readers. -/
  | wide (n : Nat)
  | word (w : String)
  | path (path : Bytes)
  | status (status : DriverStatus)
  | templates (templates : List Template)
  | registration (registration : Registration)
  | session (session : Session)
  | lockoutSettings (settings : Lockout.Settings)
  | coordinatorSettings (enrollTimeout : Int) (teardownOnReject : Bool)

/-- What is noted down. -/
inductive Entry where
  | event (event : Event)
  | call (call : Call)
  | mark (label : String)
  | death (ref : String)
  /-- A step within a step has come to its end. -/
  | returned (name : String) (result : Result)

/-! ## Names -/

/-- The name of a step in notes. -/
def ConnectionStep.name : ConnectionStep → String
  | getHandle => "get_handle"
  | beginEnroll .. => "begin_enroll"
  | cancelEnroll => "cancel_enroll"
  | beginAuthenticate .. => "begin_authenticate"
  | cancelAuthenticate => "cancel_authenticate"
  | beginRemove .. => "driver_remove"
  | setActiveSubject .. => "set_active_subject"
  | preEnroll => "pre_enroll"
  | authenticatorId => "get_authenticator_id"
  | handleDriverDied _ => "handle_driver_died"

/-- The name of a step in notes. -/
def CoordinatorStep.name : CoordinatorStep → String
  | startEnrollment .. => "start_enroll"
  | startAuthentication .. => "start_auth"
  | startRemove .. => "start_remove"
  | stopPending => "stop_pending"
  | stopEnrollment .. => "stop_enroll"
  | stopAuthentication .. => "stop_auth"
  | cancel .. => "cancel"
  | removeSession .. => "remove_session"
  | failAttempt => "fail_attempt"
  | successAttempt => "success_attempt"
  | lockoutSettings => "lockout_settings"
  | coordinatorSettings => "coordinator_settings"
  | shutdown => "shutdown"
  | dispatch _ => "dispatch"
  | destroy => "destroy_stack"

/-- The name of a step in notes. -/
def LivenessStep.name : LivenessStep → String
  | notifyDied _ => "notify_died"
  | handleDied _ => "handle_died"
  | isRegistered _ => "is_registered"
  | release _ => "reg_release"
  | drop _ => "reg_drop"
  | move .. => "reg_move"
  | info _ => "reg_info"

/-- The name of a step in notes. -/
def SessionStep.name : SessionStep → String
  | create .. => "session_new"
  | send callback => "session_" ++ callback.name
  | detach => "session_detach"
  | release => "session_release"
  | bind _ => "session_bind"
  | drop => "session_drop"
  | info => "session_info"

/-- The name of a step in notes. -/
def ServiceStep.name : ServiceStep → String
  | start _ => "svc_start"
  | stop => "svc_stop"
  | preEnroll _ => "svc_pre_enroll"
  | enroll .. => "svc_enroll"
  | cancelEnrollment _ => "svc_cancel_enroll"
  | authenticate .. => "svc_auth"
  | cancelAuthentication .. => "svc_cancel_auth"
  | remove .. => "svc_remove"
  | rename .. => "svc_rename"
  | hardware .. => "svc_hardware"
  | templates .. => "svc_list"
  | hasTemplates .. => "svc_has"
  | authenticatorId .. => "svc_auth_id"
  | subjectChanged _ => "svc_subject"
  | callerDied _ => "svc_caller_died"
  | storagePath _ => "svc_path"

/-- The name of a step in notes. -/
def Step.name : Step → String
  | advance _ => "advance"
  | run => "run"
  | post _ => "post"
  | postDelayed .. => "post_delayed"
  | postNothing => "post_null"
  | postNothingDelayed _ => "post_delayed_null"
  | cancelTask _ => "cancel_task"
  | start => "start"
  | stop => "stop"
  | onQueue => "on_queue"
  | now => "now"
  | pending => "pending"
  | mark _ => "mark"
  | throw _ => "throw"
  | invoke counted _ => if counted then "invoke" else "invoke_void"
  | setDriver _ => "driver"
  | setRegistry .. => "registry"
  | setSink .. => "sink"
  | setStore _ => "store"
  | setFeedback _ => "feedback"
  | setAccess _ => "access"
  | list _ => "list"
  | die _ => "die"
  | emit _ => "emit"
  | connection step => step.name
  | coordinator step => step.name
  | register .. => "reg"
  | liveness step => step.name
  | session _ step => step.name
  | service step => step.name

end Rehearsal

end Fingerprint
