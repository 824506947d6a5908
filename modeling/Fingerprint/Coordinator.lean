import Fingerprint.Connection

/-!
# The session coordinator

There is at most one active session of each kind. A new enrollment or
authentication ends the active one of either kind first, a new removal the
active removal; each session ended that way is told so. A session is
registered for the death of its caller as long as it is active.

* `Host.startEnrollment`, `startAuthentication`, `startRemove`;
* `Host.stopSession`, `cancel`, `stopPendingOperations`;
* `Host.removeSession`: empties a slot;
* `Host.callerDied`: ends the sessions of a caller.
-/

namespace Fingerprint

namespace Host

variable {ω κ : Type} (host : Host ω κ)

/-! ## Deliveries -/

/-- What is told about a callback that was not delivered. -/
def deliveryFailedEvent (session : Session) (callback : Callback) (fault : Fault) : Event where
  severity := .warning
  id := "session_delivery_failed"
  message := Message.sinkUnreachable
  fields :=
    [.text "kind" session.kind.name, .text "callback" callback.name, .caller session.caller,
     .text "reason" fault.message]

/-- Calls the sink of a session; whether that was delivered. -/
def deliver (session : Session) (callback : Callback) : Op ω κ Bool := do
  match session.sink with
  | none => return false
  | some sink =>
    match ← (Op.onBehalfOf session.id (host.answer (.sink sink callback))).attempt with
    | .ok _ => return true
    | .error fault =>
      host.publish (deliveryFailedEvent session callback fault)
      return false

/-- Calls the sink of a session; whether the session goes on. It does not if nothing was
    delivered. -/
def send (session : Session) (callback : Callback) : Op ω κ SessionOutcome := do
  if ← host.deliver session callback then return callback.outcome else return .done

/-- Tells the sink of a session of an error, on behalf of the device that is open. -/
def sendError (session : Session) (error : SensorError) : Op ω κ Unit := do
  let device := (← get).connection.device
  let _ ← host.send session (.error device error.code)

/-! ## Slots -/

/-- What is told about a session. -/
def sessionEvent (severity : Severity) (id message : Bytes) (kind : SessionKind) (caller : CallerToken)
    (subject : Option Int32) : Event where
  category := .lifecycle
  severity
  id
  message
  fields :=
    [.text "kind" kind.name, .caller caller] ++
    (match subject with
      | some subject => [.hashed "subject" (Bytes.ofInt subject.toInt)]
      | none => [])

/-- The active session of a kind. -/
def active (kind : SessionKind) : Op ω κ (Option Session) := return (← get).slots.get kind

/-- Changes the table of registrations. -/
def onLiveness (f : Liveness (DeathAction κ) → Liveness (DeathAction κ)) : Op ω κ Unit :=
  modify fun s => { s with liveness := f s.liveness }

/-- Registers for the death of a caller, who must be somebody. -/
def register (caller : CallerToken) (onDeath : Option (DeathAction κ)) : Op ω κ Registration := do
  match (← get).liveness.register caller onDeath with
  | .error error => throw (.coded error)
  | .ok (registration, liveness) =>
    modify fun s => { s with liveness }
    return registration

/-- The table without the entry of a session, if there is a session. -/
def releaseSession (session : Option Session) (liveness : Liveness (DeathAction κ)) :
    Liveness (DeathAction κ) :=
  match session with
  | some session => (session.registration.release liveness).2
  | none => liveness

/-- An identity for a new session. -/
def freshSession : Op ω κ Nat := do
  let id := (← get).nextSession
  modify fun s => { s with nextSession := id + 1 }
  return id

/-- Puts a new session in the slot of its kind, registered for the death of its caller. A
    session that is still there loses its slot and its registration. -/
def slotNew (kind : SessionKind) (caller : CallerToken) (sink : Option SinkName) (subject : Int32) :
    Op ω κ Unit := do
  let id ← freshSession
  let registration ← register caller (some (.endSession kind id))
  modify fun s =>
    { s with
      slots := s.slots.set kind (some ⟨id, kind, caller, sink, subject, registration⟩)
      liveness := releaseSession (s.slots.get kind) s.liveness }

/-- Empties the slot of a kind, if it holds the session of that identity, and releases its
    registration. -/
def removeSession (kind : SessionKind) (id : Nat) : Op ω κ Unit := do
  match (← get).slots.get kind with
  | none => return
  | some session =>
    if session.id = id then
      modify fun s =>
        { s with
          slots := s.slots.set kind none
          liveness := releaseSession (some session) s.liveness }
      host.publish (sessionEvent .debug "session_removed" "Session torn down" session.kind session.caller none)

/-! ## Ending sessions -/

/-- The request by which a driver is told to give up the operation of a kind. Removals
    cannot be given up. -/
def cancelDriver : SessionKind → Op ω κ Unit
  | .enroll => do let _ ← host.cancelEnroll
  | .authenticate => do let _ ← host.cancelAuthenticate
  | .remove => return

/-- Ends the active session of a kind, if it is the caller's: the driver gives up, the sink
    is told if `notify` says so, and the slot is emptied. Without a driver the session
    stays. Whether a session was ended. -/
def stopSession (kind : SessionKind) (caller : CallerToken) (notify : Bool) : Op ω κ Bool := do
  match ← active kind with
  | none => return false
  | some session =>
    if session.caller != caller then return false
    if (← host.acquire).isNone then
      host.publish (sessionEvent .warning "session_stop_skipped" Message.driverUnavailable kind caller none)
      return false
    host.cancelDriver kind
    if notify then host.sendError session .canceled
    host.removeSession kind session.id
    return true

def stopEnrollment (caller : CallerToken) (notify : Bool) : Op ω κ Bool :=
  host.stopSession .enroll caller notify

def stopAuthentication (caller : CallerToken) (notify : Bool) : Op ω κ Bool :=
  host.stopSession .authenticate caller notify

/-- Tells a removal that it is cancelled, and empties its slot. The driver is not asked. -/
def dismissRemove (session : Session) : Op ω κ Unit := do
  host.sendError session .canceled
  host.removeSession .remove session.id

/-- Ends the active session of a kind at the wish of a caller, if it is the caller's. -/
def cancel (kind : SessionKind) (caller : CallerToken) : Op ω κ Unit := do
  match kind with
  | .enroll => let _ ← host.stopEnrollment caller true
  | .authenticate => let _ ← host.stopAuthentication caller true
  | .remove =>
    if let some session ← active .remove then
      if session.caller = caller then host.dismissRemove session

/-- Ends the active session of a kind in favour of another. -/
def preempt (kind : SessionKind) : Op ω κ Unit := do
  if let some session ← active kind then
    let _ ← host.stopSession kind session.caller true

/-- Ends the active enrollment or authentication. -/
def stopPendingOperations : Op ω κ Unit := do
  host.preempt .enroll
  host.preempt .authenticate

/-! ## Starting sessions -/

/-- What becomes of the active session of a kind that the driver did not start. By the
    settings it stays, or is told so and ends. -/
def handleStartRejected (kind : SessionKind) (status : DriverStatus) : Op ω κ Unit := do
  if let some session ← active kind then
    let fate : Bytes := if host.setup.teardownOnReject then "torn down" else "kept"
    host.publish
      (sessionEvent .warning "session_start_rejected"
        (("Driver rejected start (status " : Bytes) ++ Bytes.ofInt status.code ++ ("); session " : Bytes) ++ fate)
        kind session.caller none)
    if host.setup.teardownOnReject then
      host.sendError session .hwUnavailable
      host.removeSession kind session.id

/-- Tells that a session could not start since there is no driver. -/
def abortStart (kind : SessionKind) (caller : CallerToken) : Op ω κ Unit :=
  host.publish (sessionEvent .warning "session_start_aborted" Message.driverUnavailable kind caller none)

/-- Makes a session active and asks the driver to start its operation. -/
def launch (kind : SessionKind) (message : Bytes) (caller : CallerToken) (sink : Option SinkName)
    (subject : Int32) (ask : Op ω κ DriverStatus) : Op ω κ Unit := do
  slotNew kind caller sink subject
  host.publish (sessionEvent .info "session_started" message kind caller (some subject))
  let status ← ask
  if !status.isOk then host.handleStartRejected kind status

/-- The number of seconds that the driver is given for an enrollment. -/
def enrollTimeout : UInt32 := UInt32.ofInt host.setup.enrollTimeout

/-- Starts an enrollment, if there is a driver. -/
def startEnrollment (caller : CallerToken) (sink : Option SinkName) (request : EnrollRequest) :
    Op ω κ Unit := do
  if (← host.acquire).isNone then host.abortStart .enroll caller
  else
    host.stopPendingOperations
    host.launch .enroll "Enrollment started" caller sink request.subject
      (host.beginEnroll request.token request.subject host.enrollTimeout)

/-- Tells a caller that authentication is locked. The session for that never becomes active. -/
def refuseLocked (caller : CallerToken) (sink : Option SinkName) (subject : Int32) : Op ω κ Unit := do
  let rejected : Session := { id := ← freshSession, kind := .authenticate, caller, sink, subject }
  host.publish
    (sessionEvent .warning "authentication_locked_out" Message.lockoutActive .authenticate caller (some subject))
  if sink.isNone then
    host.publish
      (sessionEvent .warning "lockout_delivery_failed" Message.lockoutDeliveryFailed .authenticate caller none)
  else host.sendError rejected .lockout

/-- Whether authentication is locked. -/
def isLocked : Op ω κ Bool := return (← get).lockout.isLocked host.setup.lockout

/-- Starts an authentication, if there is a driver and authentication is not locked. -/
def startAuthentication (caller : CallerToken) (sink : Option SinkName) (request : AuthenticateRequest) :
    Op ω κ Unit := do
  if (← host.acquire).isNone then host.abortStart .authenticate caller
  else
    host.stopPendingOperations
    if ← host.isLocked then host.refuseLocked caller sink request.subject
    else
      host.launch .authenticate "Authentication started" caller sink request.subject
        (host.beginAuthenticate request.operation request.subject)

/-- Starts a removal, if there is a driver. -/
def startRemove (caller : CallerToken) (sink : Option SinkName) (request : RemoveRequest) : Op ω κ Unit := do
  if (← host.acquire).isNone then host.abortStart .remove caller
  else
    if let some previous ← active .remove then host.dismissRemove previous
    host.launch .remove "Removal started" caller sink request.subject
      (host.beginRemove request.id request.subject)

/-! ## Death of callers -/

/-- Ends a session whose caller has died, if it is still active. Nobody is left to be told. -/
def endSession (kind : SessionKind) (id : Nat) : Op ω κ Unit := do
  if let some session ← active kind then
    if session.id = id then
      host.publish
        (sessionEvent .info "session_peer_gone" "Caller died; session torn down" kind session.caller none)
      host.removeSession kind id

/-- Does what was to be done at the death of a caller. -/
def runDeathAction : DeathAction κ → Op ω κ Unit
  | .endSession kind id => host.endSession kind id
  | .client task => host.client task

/-- What is told about the death of a caller that had registrations. -/
def callerDiedEvent (caller : CallerToken) (registrations : Nat) : Event where
  category := .lifecycle
  id := "caller_died"
  message := "Caller died; tearing down its sessions"
  fields := [.caller caller, .number "sessions" registrations]

/-- Does what the entries with given numbers wait for, in order, as far as they are still
    there when their turn comes. -/
def runWatches : List Nat → Op ω κ Unit
  | [] => return
  | id :: rest => do
    if let some watch := (← get).liveness.find? id then
      if let some action := watch.onDeath then host.runDeathAction action
    runWatches rest

/-- Does what the registrations of a caller who has died wait for. -/
def callerDied (caller : CallerToken) : Op ω κ Unit := do
  let ids := (← get).liveness.entriesOf caller
  if !ids.isEmpty then
    host.publish (callerDiedEvent caller ids.length)
    host.runWatches ids

end Host

end Fingerprint
