import Fingerprint.System

/-!
# The connection to the driver

The driver is acquired when it is first needed, and again after it has died.
An acquisition has a number, its generation, and takes these steps: the driver
is linked, so that its death is told under that number; it is told where to
send events; its device is opened; and the subject that was last asked for is
applied. A driver that fails in the first three is dropped again, and the next
request starts anew.

Requests never fail: what the driver throws becomes a status.

* `Host.acquire`: the driver, acquired if need be;
* `Host.forward`: one request to the driver, and its status;
* `Host.driverLinkDied`, `Host.handleDriverDied`: what happens at its death.
-/

namespace Fingerprint

namespace Host

variable {ω κ : Type} (host : Host ω κ)

/-- What is told about the driver: the operation it is about, the status or code that came
    back, and the reason given, as far as there are any. -/
def driverEvent (severity : Severity) (id message operation : Bytes) (code : Option Int) (reason : Bytes) :
    Event where
  severity
  id
  message
  fields :=
    (if operation.isEmpty then [] else [.text "operation" operation]) ++
    (match code with
      | some code => [.number "status" code]
      | none => []) ++
    (if reason.isEmpty then [] else [.text "reason" reason])

/-- Changes the connection. -/
def onConnection (f : Connection → Connection) : Op ω κ Unit :=
  modify fun s => { s with connection := f s.connection }

/-- Makes a request to the driver, and turns a fault into a status. -/
def guarded {α : Type} (operation : Bytes) (request : Op ω κ α) : Op ω κ (Except DriverStatus α) := do
  match ← request.attempt with
  | .ok reply => return .ok reply
  | .error fault =>
    host.publish
      (driverEvent .error "driver_transport_failed" Message.driverTransportFailed operation fault.code? fault.message)
    let code := match fault with
      | .coded error => error.native.getD error.code
      | .plain _ => CodedError.driverTransportCode
    return .error ⟨.transportError, code⟩

/-- The status of a request that the driver has answered with a status of its own. -/
def judge (operation : Bytes) : Except DriverStatus Int → Op ω κ DriverStatus
  | .error status => return status
  | .ok code => do
    if code = 0 then return {}
    host.publish (driverEvent .warning "driver_rejected" Message.driverRejected operation (some code) [])
    return ⟨.rejected, code⟩

/-- Tells a driver the subject that was last asked for. -/
def applyActiveSubject (handle : Handle) (active : ActiveSubject) : Op ω κ DriverStatus := do
  let operation : Bytes := "set_active_subject"
  host.judge operation
    (← host.guarded operation (host.driver handle (.setActiveSubject active.subject active.storage)))

/-- Applies the subject that was last asked for, if there is one, and keeps the status. -/
def reapply (handle : Handle) : Op ω κ Unit := do
  if let some active := (← get).connection.activeSubject then
    let status ← host.applyActiveSubject handle active
    onConnection ({ · with lastApplied := status })

/-- Tells a driver where to send events, and opens its device. -/
def openDevice (handle : Handle) : Op ω κ Unit := do
  if host.setup.hasEventSink then host.driver handle .init
  let device ← host.driver handle .openHal
  onConnection ({ · with device })

/-- What is told when the driver is connected. -/
def connectedEvent (generation : Nat) (device : UInt64) : Event where
  category := .lifecycle
  id := "driver_connected"
  message := "Fingerprint driver acquired"
  fields := [.number "generation" generation, .hashed "device_id" (Bytes.ofNat device.toNat)]

/-- Takes a driver into use that was handed out for an acquisition. -/
def connect (handle : Handle) (generation : Nat) : Op ω κ Bool := do
  match ← (host.driver handle (.linkToDeath generation)).attempt with
  | .error fault =>
    host.publish
      (driverEvent .warning "driver_death_link_failed" Message.deathLinkFailed "link_to_death" fault.code?
        fault.message)
    return false
  | .ok _ =>
    match ← (host.openDevice handle).attempt with
    | .error fault =>
      host.publish
        (driverEvent .error "driver_open_failed" Message.driverTransportFailed "open_hal" fault.code? fault.message)
      onConnection ({ · with device := 0 })
      return false
    | .ok _ =>
      onConnection ({ · with handle := some handle })
      let device := (← get).connection.device
      if device = 0 then
        host.publish (driverEvent .warning "driver_hal_missing" "Driver reported no sensor hardware" "open_hal" none [])
      host.publish (connectedEvent generation device)
      host.reapply handle
      return true

/-- The driver, acquired if there is none and one is to be had. -/
def acquire : Op ω κ (Option Handle) := do
  if let some handle := (← get).connection.handle then return some handle
  if !host.setup.hasRegistry then return none
  match ← (host.answer .acquire).attempt with
  | .error fault =>
    host.publish
      (driverEvent .warning "driver_acquire_failed" Message.driverUnavailable "acquire" fault.code? fault.message)
    return none
  | .ok none => return none
  | .ok (some handle) =>
    let generation := (← get).connection.generation + 1
    onConnection ({ · with generation })
    if ← host.connect handle generation then return (← get).connection.handle
    else return none

/-- A driver that is there need not be acquired. -/
theorem run_acquire_of_handle {s : System ω κ} {handle : Handle} (h : s.connection.handle = some handle) :
    host.acquire.run s = (.ok (some handle), s) := by
  rw [acquire, Op.run_get_bind, h]
  rfl

/-- Tells that a request found no driver, and gives the status for that. -/
def unavailable (operation : Bytes) : Op ω κ DriverStatus := do
  host.publish (driverEvent .warning "driver_unavailable" Message.driverUnavailable operation none [])
  return ⟨.unavailable, 0⟩

/-- Makes a request to the driver, if there is one. -/
def request {α : Type} (operation : Bytes) (call : Handle → Op ω κ α) : Op ω κ (Except DriverStatus α) := do
  match ← host.acquire with
  | none => return .error (← host.unavailable operation)
  | some handle => host.guarded operation (call handle)

/-- Makes a request to the driver that it answers with a status. -/
def forward (operation : Bytes) (call : Handle → Op ω κ Int) : Op ω κ DriverStatus := do
  host.judge operation (← host.request operation call)

/-- Asks the driver for a number; zero if there is no answer. -/
def query (operation : Bytes) (call : Handle → Op ω κ UInt64) : Op ω κ UInt64 := do
  match ← host.request operation call with
  | .ok number => return number
  | .error _ => return 0

/-! ## Requests -/

def beginEnroll (token : Bytes) (subject : Int32) (timeout : UInt32) : Op ω κ DriverStatus :=
  host.forward "enroll" (host.driver · (.enroll token subject timeout))

def cancelEnroll : Op ω κ DriverStatus :=
  host.forward "cancel_enrollment" (host.driver · .cancelEnroll)

def beginAuthenticate (operation : UInt64) (subject : Int32) : Op ω κ DriverStatus :=
  host.forward "authenticate" (host.driver · (.authenticate operation subject))

def cancelAuthenticate : Op ω κ DriverStatus :=
  host.forward "cancel_authentication" (host.driver · .cancelAuthenticate)

def beginRemove (id : UInt32) (subject : Int32) : Op ω κ DriverStatus :=
  host.forward "remove" (host.driver · (.remove id subject))

def preEnroll : Op ω κ UInt64 := host.query "pre_enroll" (host.driver · .preEnroll)

def authenticatorId : Op ω κ UInt64 := host.query "get_authenticator_id" (host.driver · .authenticatorId)

/-- Remembers a subject and tells it the driver. One that has to be acquired first is told
    in the course of that. -/
def setActiveSubject (subject : Int32) (storage : Bytes) : Op ω κ DriverStatus := do
  onConnection ({ · with activeSubject := some ⟨subject, storage⟩ })
  match (← get).connection.handle with
  | some handle => host.reapply handle
  | none =>
    if (← host.acquire).isNone then return ← host.unavailable "set_active_subject"
  return (← get).connection.lastApplied

/-! ## Death -/

/-- What the driver does when it dies that was linked in an acquisition. -/
def driverLinkDied (generation : Nat) : Op ω κ Unit := do
  if (← get).connection.alive then Op.post (.driverDied generation)

/-- Lets go of the driver, if it is the one of an acquisition. -/
def handleDriverDied (generation : Nat) : Op ω κ Unit := do
  let connection := (← get).connection
  if generation = connection.generation && connection.handle.isSome then
    onConnection ({ · with handle := none, device := 0 })
    host.publish (driverEvent .warning "driver_died" Message.driverDied [] none [])

/-- What the queue does about the death of a driver. -/
def driverDied (generation : Nat) : Op ω κ Unit := do
  if (← get).connection.alive then host.handleDriverDied generation

end Host

end Fingerprint
