import Fingerprint.Coordinator

/-!
# Events of the driver

What the driver tells of its own accord is put on the queue, and from there
routed to the active session that it belongs to. An event from a device other
than the open one is noted, and routed all the same.

* `Host.report`: what the driver does;
* `Host.dispatch`: what the queue does about it.
-/

namespace Fingerprint

namespace DriverEvent

/-- The device that an event comes from. -/
def device : DriverEvent → UInt64
  | enrollResult device .. | acquired device .. | authenticated device .. | error device ..
  | removed device .. | enumerate device .. => device

/-- The name of an event. -/
def name : DriverEvent → String
  | enrollResult .. => "enroll_result"
  | acquired .. => "acquired"
  | authenticated .. => "authenticated"
  | error .. => "error"
  | removed .. => "removed"
  | enumerate .. => "enumerate"

end DriverEvent

namespace Host

variable {ω κ : Type} (host : Host ω κ)

/-- What the driver does to tell an event. -/
def report (event : DriverEvent) : Op ω κ Unit := do
  if !(← get).detached then Op.post (.driverEvent event)

/-- A warning about an event of the driver. -/
def dispatchWarning (id message : Bytes) (fields : List Field) : Event where
  severity := .warning
  id
  message
  fields

/-- Notes an event that comes from a device other than the open one. -/
def checkDevice (event : DriverEvent) : Op ω κ Unit := do
  let expected := (← get).connection.device
  if expected != 0 && event.device != expected then
    host.publish
      (dispatchWarning "driver_device_mismatch" "Driver event from unexpected device"
        [.text "event" event.name, .hashed "device_id" (Bytes.ofNat event.device.toNat),
         .hashed "expected" (Bytes.ofNat expected.toNat)])

/-! ## Helpers that may fail -/

/-- Makes a call whose failure is no more than worth a warning. -/
def bestEffort (call : Op ω κ Unit) (id : Bytes) (fields : List Field) : Op ω κ Unit := do
  match ← call.attempt with
  | .ok _ => return
  | .error fault => host.publish (dispatchWarning id fault.message fields)

/-- The fields of a warning about a template. -/
def templateFields (subject : Int32) (id : UInt32) : List Field :=
  [.hashed "subject" (Bytes.ofInt subject.toInt), .number "template_id" id.toNat]

/-- Adds a template to the store, if there is one. -/
def addTemplate (subject : Int32) (id : UInt32) : Op ω κ Unit := do
  if host.setup.hasTemplates then
    host.bestEffort (host.answer (.storeAdd subject id)) "template_add_failed" (templateFields subject id)

/-- Takes a template out of the store, if there is one. -/
def removeTemplate (subject : Int32) (id : UInt32) : Op ω κ Unit := do
  if host.setup.hasTemplates then
    host.bestEffort (host.answer (.storeRemove subject id)) "template_remove_failed" (templateFields subject id)

/-- Confirms a success to whoever touches the sensor. -/
def feedbackSuccess : Op ω κ Unit := do
  if host.setup.hasFeedback then host.bestEffort (host.answer .feedbackSuccess) "feedback_failed" []

/-- Signals a failure to whoever touches the sensor. -/
def feedbackError : Op ω κ Unit := do
  if host.setup.hasFeedback then host.bestEffort (host.answer .feedbackError) "feedback_failed" []

/-! ## Lockout -/

/-- Counts a failed attempt. -/
def recordFailure : Op ω κ LockoutResult := do
  let s ← get
  let (result, lockout, queue) := s.lockout.recordFailure host.setup.lockout s.clock .lockoutExpired s.queue
  set { s with lockout, queue }
  if result = .entered then host.publish (lockout.enteredEvent host.setup.lockout)
  return result

/-- Forgets the failed attempts. -/
def recordSuccess : Op ω κ Unit := modify fun s => { s with lockout := s.lockout.recordSuccess }

/-- What the queue does when the lockout timer has run out. -/
def lockoutExpired : Op ω κ Unit := do
  modify fun s => { s with lockout := Lockout.expire }
  host.publish Lockout.resetEvent

/-! ## Routing -/

/-- Ends a session for which the driver gives up, also if there is no driver to be told. -/
def finish (session : Session) : Op ω κ Unit := do
  if !(← host.stopSession session.kind session.caller false) then
    host.removeSession session.kind session.id

/-- An enrollment has made progress, or is complete: then the template is stored. -/
def dispatchEnrollResult (device : UInt64) (id : UInt32) (subject remaining : Int32) : Op ω κ Unit := do
  if let some session ← active .enroll then
    if session.sink.isSome then host.feedbackSuccess
    let outcome ← host.send session (.enrollResult device id subject remaining)
    if remaining = 0 then host.addTemplate session.subject id
    if outcome = .done then
      if remaining = 0 then host.removeSession .enroll session.id else host.finish session

/-- Hands an acquisition to a session, which ends if it is not delivered. -/
def deliverAcquired (session : Session) (device : UInt64) (info : Int32) : Op ω κ Unit := do
  if (← host.send session (.acquired device info)) = .done then host.removeSession session.kind session.id

/-- The sensor has taken an image, for the enrollment if there is one, else for the
    authentication. -/
def dispatchAcquired (device : UInt64) (info : Int32) : Op ω κ Unit := do
  match ← active .enroll with
  | some session => host.deliverAcquired session device info
  | none => if let some session ← active .authenticate then host.deliverAcquired session device info

/-- An authentication has come to its result. Zero stands for no match, which is counted. -/
def dispatchAuthenticated (device : UInt64) (id : UInt32) (subject : Int32) : Op ω κ Unit := do
  if let some session ← active .authenticate then
    let _ ← host.send session (.authenticated device id subject)
    if id = 0 then
      host.feedbackError
      if (← host.recordFailure) = .entered then
        if session.sink.isNone then
          host.publish (dispatchWarning "lockout_delivery_failed" Message.lockoutDeliveryFailed [])
        else
          let _ ← host.send session (.error device SensorError.lockout.code)
    else
      host.feedbackSuccess
      recordSuccess
    host.finish session

/-- The driver has given up on the enrollment if there is one, else on the authentication,
    else on the removal. -/
def dispatchError (device : UInt64) (code : Int32) : Op ω κ Unit := do
  match ← active .enroll with
  | some session =>
    let _ ← host.send session (.error device code)
    host.finish session
  | none =>
    match ← active .authenticate with
    | some session =>
      let _ ← host.send session (.error device code)
      host.finish session
    | none =>
      if let some session ← active .remove then
        let _ ← host.send session (.error device code)
        host.removeSession .remove session.id

/-- A template was removed, or, with zero, all are. -/
def dispatchRemoved (device : UInt64) (id : UInt32) (subject : Int32) : Op ω κ Unit := do
  let current ← active .remove
  if id != 0 then host.removeTemplate ((current.map (·.subject)).getD subject) id
  if let some session := current then
    if (← host.send session (.removed device id subject)) = .done then
      host.removeSession .remove session.id

/-- The text of a list of numbers. -/
def listText (numerals : List Bytes) : Bytes :=
  ("[" : Bytes) ++ Bytes.joinWith "," numerals ++ ("]" : Bytes)

/-- What is told about the templates that the driver knows of. -/
def enumerateEvent (ids : List UInt32) (subjects : List Int32) : Event :=
  let idText := listText (ids.map fun id => Bytes.ofNat id.toNat)
  if ids.length = subjects.length then
    { severity := .debug
      id := "driver_enumerate"
      message := "Driver enumerated templates"
      fields := [.number "count" ids.length, .text "template_ids" idText] }
  else
    dispatchWarning "enumerate_length_mismatch" Message.enumerateLengthMismatch
      [.text "template_ids" idText, .hashed "subjects" (listText (subjects.map fun s => Bytes.ofInt s.toInt))]

/-- What the queue does about an event of the driver. -/
def dispatch (event : DriverEvent) : Op ω κ Unit := do
  host.checkDevice event
  match event with
  | .enrollResult device id subject remaining => host.dispatchEnrollResult device id subject remaining
  | .acquired device info => host.dispatchAcquired device info
  | .authenticated device id subject => host.dispatchAuthenticated device id subject
  | .error device code => host.dispatchError device code
  | .removed device id subject => host.dispatchRemoved device id subject
  | .enumerate _ ids subjects => host.publish (enumerateEvent ids subjects)

end Host

end Fingerprint
