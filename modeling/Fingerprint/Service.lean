import Fingerprint.Configuration
import Fingerprint.Execution

/-!
# The fingerprint service

What callers see. Every request is checked against the access policy on the
thread of the caller, and what it wants done is then posted, or asked for on
the queue where an answer is wanted. Without an access policy nobody may do
anything.

* `Host.checkPermission`, `Host.canUseSensor`: the gates;
* `Host.requestEnroll` and the other requests;
* `Host.startService`, `Host.stopService`.
-/

namespace Fingerprint

/-- The setup for a configuration, with all collaborators there. -/
def Setup.ofConfiguration (configuration : Configuration) : Setup where
  lockout := ⟨configuration.maxFailedAttempts, configuration.lockoutSeconds * 1000⟩
  enrollTimeout := configuration.enrollTimeoutSeconds
  teardownOnReject := configuration.teardownOnReject
  dataRoot := configuration.dataRoot

/-- The name of a permission in events. -/
def Permission.name : Permission → String
  | manage => "manage_fingerprint"
  | use => "use_fingerprint"

namespace Host

variable {ω κ : Type} (host : Host ω κ)

/-! ## Gates -/

/-- What is told about a request that is denied. -/
def deniedEvent (id message : Bytes) (caller : CallerToken) (detail : Bytes) : Event where
  category := .security
  severity := .warning
  id
  message
  fields := [.caller caller, .text "detail" detail]

/-- Tells that the access policy has refused a permission, if it has. -/
def reportDenied (caller : CallerToken) (permission : Permission) : Fault → Op ω κ Unit
  | .coded _ => host.publish (deniedEvent "permission_denied" Message.permissionDenied caller permission.name)
  | .plain _ => return

/-- Fails unless the caller has a permission. -/
def checkPermission (caller : CallerToken) (permission : Permission) : Op ω κ Unit := do
  if !host.setup.hasAccess then throw (.coded .permissionDenied)
  match ← (host.answer (.checkPermission caller permission)).attempt with
  | .ok _ => return
  | .error fault =>
    host.reportDenied caller permission fault
    throw fault

/-- Whether the caller may use the sensor on behalf of a package. Fails without the
    permission to use it at all. -/
def canUseSensor (caller : CallerToken) (package : Bytes) : Op ω κ Bool := do
  host.checkPermission caller .use
  let allowed : Bool ← host.answer (.canUseSensor caller package)
  if allowed then return true
  host.publish (deniedEvent "sensor_use_denied" Message.sensorUseDenied caller package)
  return false

/-- Fails for the caller token that names nobody. -/
def requireCaller (caller : CallerToken) : Op ω κ Unit := do
  if caller = 0 then throw (.coded .invalidCaller)

/-! ## Requests -/

def requestPreEnroll (caller : CallerToken) : Op ω κ UInt64 := do
  host.checkPermission caller .manage
  host.invoke host.preEnroll

def requestEnroll (caller : CallerToken) (sink : Option SinkName) (request : EnrollRequest) : Op ω κ Unit := do
  host.checkPermission caller .manage
  requireCaller caller
  Op.post (.startEnrollment caller sink request)

def requestCancelEnrollment (caller : CallerToken) : Op ω κ Unit := do
  host.checkPermission caller .manage
  Op.post (.cancel .enroll caller)

def requestAuthenticate (caller : CallerToken) (sink : Option SinkName) (request : AuthenticateRequest)
    (package : Bytes) : Op ω κ Unit := do
  if ← host.canUseSensor caller package then
    requireCaller caller
    Op.post (.startAuthentication caller sink request)

def requestCancelAuthentication (caller : CallerToken) (package : Bytes) : Op ω κ Unit := do
  if ← host.canUseSensor caller package then Op.post (.cancel .authenticate caller)

def requestRemove (caller : CallerToken) (sink : Option SinkName) (request : RemoveRequest) : Op ω κ Unit := do
  host.checkPermission caller .manage
  requireCaller caller
  Op.post (.startRemove caller sink request)

def requestRename (caller : CallerToken) (subject : Int32) (id : UInt32) (label : Bytes) : Op ω κ Unit := do
  host.checkPermission caller .manage
  Op.post (.rename subject id label)

/-- Whether the driver has opened a device. -/
def isHardwareDetected (caller : CallerToken) (package : Bytes) : Op ω κ Bool := do
  if ← host.canUseSensor caller package then
    host.invoke do return (← get).connection.device != 0
  else return false

/-- The templates of a subject. They are read off the store directly. -/
def enrolledTemplates (caller : CallerToken) (subject : Int32) (package : Bytes) : Op ω κ (List Template) := do
  if !(← host.canUseSensor caller package) || !host.setup.hasTemplates then return []
  host.answer (.storeList subject)

/-- Whether a subject has templates. -/
def hasEnrolledTemplates (caller : CallerToken) (subject : Int32) (package : Bytes) : Op ω κ Bool :=
  return !(← host.enrolledTemplates caller subject package).isEmpty

def requestAuthenticatorId (caller : CallerToken) (package : Bytes) : Op ω κ UInt64 := do
  if ← host.canUseSensor caller package then host.invoke host.authenticatorId else return 0

/-- What the machine does when another subject becomes active. -/
def activeSubjectChanged (subject : Int32) : Op ω κ Unit := Op.post (.applySubject subject)

/-- What the machine does when a caller dies. -/
def notifyCallerDied (caller : CallerToken) : Op ω κ Unit := Op.post (.callerDied caller)

/-! ## Life of the service -/

/-- What is told about the start of the service. -/
def startedEvent : Event where
  category := .lifecycle
  id := "service_started"
  message := "Fingerprint service started"
  fields := [.text "mode" (if host.setup.threaded then "worker" else "manual")]

/-- Starts the service for a first subject. -/
def startService (subject : Int32) : Op ω κ Unit := do
  Op.post (.begin subject)
  if host.setup.threaded then startQueue
  host.publish host.startedEvent

/-- Drops events of the driver from now on. -/
def shutdown : Op ω κ Unit := modify fun s => { s with detached := true }

/-- Stops the service. -/
def stopService : Op ω κ Unit := do
  shutdown
  stopQueue

end Host

end Fingerprint
