import Fingerprint.FileSystem
import Fingerprint.Service
import Fingerprint.Simulator.Command

/-!
# The simulated machine

The collaborators of a service whose sensor is moved by commands. The driver
prints what it is asked for and accepts everything; the registry starts one if
none is running; sinks and haptic feedback print what they are called with;
everybody may do everything; templates are kept in memory.

* `Simulator.host`: the collaborators;
* `Simulator.execute`: what a command does.
-/

namespace Fingerprint

namespace Simulator

/-- The driver that is running. -/
structure RunningDriver where
  handle : Handle
  /-- Whether it was told where to send its events. -/
  attached : Bool := false
  /-- The acquisition under which it tells its death. -/
  linked : Option Nat := none
  /-- The last challenge it has handed out. -/
  challenge : UInt64 := 0
  deriving DecidableEq, Repr

/-- The device of the simulated sensor. -/
def device : UInt64 := 0x5EA5

/-- The machine around the service. -/
structure Machine where
  driver : Option RunningDriver := none
  /-- How many drivers were started. -/
  driversStarted : Nat := 0
  templates : TemplateStore := { device }
  files : FileSystem := .fresh
  /-- Directories that are not to be had, with the reasons. -/
  refused : List (Bytes × Bytes) := []
  /-- The caller on whose behalf requests are made. -/
  caller : CallerToken := 1
  /-- The subject that is active. -/
  subject : Int32 := 0
  /-- The number of the last authentication. -/
  operation : UInt64 := 0
  /-- The lines printed since the output was last taken. -/
  printed : List Bytes := []
  /-- The events published since they were last taken. -/
  events : List Event := []

/-- What happens on the simulated machine. -/
abbrev Act := Op Machine Empty

/-- Changes the machine. -/
def onMachine (f : Machine → Machine) : Act Unit := modify fun s => { s with world := f s.world }

/-- Prints a line that consists of the given parts. -/
def print (parts : List Bytes) : Act Unit :=
  onMachine fun machine => { machine with printed := machine.printed ++ [parts.flatten] }

/-- The numeral of a signed number. -/
def signed (n : Int32) : Bytes := Bytes.ofInt n.toInt

/-- The numeral of an unsigned number. -/
def unsigned (n : UInt32) : Bytes := Bytes.ofNat n.toNat

/-! ## The driver -/

/-- Changes what is known of a driver, if it is the one that is running. -/
def onDriver (handle : Handle) (f : RunningDriver → RunningDriver) : Act Unit :=
  onMachine fun machine =>
    { machine with driver := machine.driver.map fun driver => if driver.handle = handle then f driver else driver }

/-- The driver that is running. One is started if there is none. -/
def acquireDriver : Act (Option Handle) := do
  let machine := (← get).world
  match machine.driver with
  | some driver => return some driver.handle
  | none =>
    let handle := machine.driversStarted
    onMachine fun machine => { machine with driver := some { handle }, driversStarted := handle + 1 }
    print ["[registry] driver started"]
    return some handle

/-- How a driver answers. -/
def answerDriver (handle : Handle) : (call : DriverCall) → Act call.Reply
  | .linkToDeath generation => onDriver handle ({ · with linked := some generation })
  | .init => onDriver handle ({ · with attached := true })
  | .openHal => return device
  | .preEnroll => do
    onDriver handle fun driver => { driver with challenge := driver.challenge + 1 }
    let challenges : List UInt64 := (← get).world.driver.toList.map (·.challenge)
    return challenges.headD 0
  | .enroll _ subject timeout => do
    print ["[driver] enroll subject=", signed subject, " timeout=", unsigned timeout, "s"]
    return (0 : Int)
  | .cancelEnroll => do
    print ["[driver] cancel enrollment"]
    return (0 : Int)
  | .authenticate _ subject => do
    print ["[driver] authenticate subject=", signed subject]
    return (0 : Int)
  | .cancelAuthenticate => do
    print ["[driver] cancel authentication"]
    return (0 : Int)
  | .remove id subject => do
    print ["[driver] remove id=", unsigned id, " subject=", signed subject]
    return (0 : Int)
  | .setActiveSubject subject storage => do
    print ["[driver] active subject=", signed subject, " path=", storage]
    return (0 : Int)
  | .authenticatorId => return (0xA11CE : UInt64)

/-! ## Sinks -/

/-- The word for an error number. -/
def errorName (code : Int32) : Bytes :=
  if code = SensorError.hwUnavailable.code then "hw_unavailable"
  else if code = SensorError.unableToProcess.code then "unable_to_process"
  else if code = SensorError.timeout.code then "timeout"
  else if code = SensorError.noSpace.code then "no_space"
  else if code = SensorError.canceled.code then "canceled"
  else if code = SensorError.unableToRemove.code then "unable_to_remove"
  else if code = SensorError.lockout.code then "lockout"
  else "vendor"

/-- What a sink prints when it is called. -/
def callbackText : Callback → Bytes
  | .enrollResult _ id subject remaining =>
    List.flatten ["enroll_result id=", unsigned id, " subject=", signed subject, " remaining=", signed remaining]
  | .acquired _ info => List.flatten ["acquired info=", signed info]
  | .authenticated _ id subject => List.flatten ["authenticated id=", unsigned id, " subject=", signed subject]
  | .error _ code => List.flatten ["error ", errorName code, " (", signed code, ")"]
  | .removed _ id subject => List.flatten ["removed id=", unsigned id, " subject=", signed subject]

/-! ## The host -/

/-- Makes a directory at a path if there is nothing. -/
def provideDirectory (path : Bytes) : Act (Option Bytes) := do
  let machine := (← get).world
  match machine.refused.lookup path with
  | some reason => return some reason
  | none =>
    let (files, errno) := machine.files.provideDirectory path
    onMachine ({ · with files })
    return errno.map (·.message)

/-- Changes the templates. -/
def onTemplates (f : TemplateStore → TemplateStore) : Act Unit :=
  onMachine fun machine => { machine with templates := f machine.templates }

/-- How the machine answers. -/
def answer : (call : Call) → Act call.Reply
  | .acquire => acquireDriver
  | .driver handle call => answerDriver handle call
  | .sink name callback => print ["[", name, "] ", callbackText callback]
  | .storeAdd subject id => onTemplates (·.add subject id)
  | .storeRemove subject id => onTemplates (·.remove subject id)
  | .storeRename subject id label => onTemplates (·.rename subject id label)
  | .storeList subject => return (← get).world.templates.list subject
  | .feedbackSuccess => print ["[haptic] success"]
  | .feedbackError => print ["[haptic] error"]
  | .checkPermission _ _ => return ()
  | .canUseSensor _ _ => return true
  | .provideDirectory path => provideDirectory path

/-- The simulated machine as the host of a service, whose queue has a thread of its own. -/
def host (configuration : Configuration) : Host Machine Empty where
  setup := { Setup.ofConfiguration configuration with threaded := true }
  answer := answer
  observe event s := { s.world with events := s.world.events ++ [event] }
  client task := nomatch task
  patience := 1000000

/-! ## Commands -/

/-- The package on whose behalf requests are made. -/
def package : Bytes := "fpc-sim"

/-- The token that enrollments are requested with. -/
def token : Bytes := List.replicate 8 0

variable (host : Host Machine Empty)

/-- Lets the sensor report events, if a driver is running that knows where to. -/
def emit (events : List DriverEvent) : Act Unit := do
  match (← get).world.driver with
  | some driver =>
    if driver.attached then events.forM Host.report else print ["[sim] driver is not running"]
  | none => print ["[sim] driver is not running"]

/-- Ends the driver that is running. -/
def killDriver : Act Unit := do
  if let some driver := (← get).world.driver then
    onMachine ({ · with driver := none })
    if let some generation := driver.linked then Host.driverLinkDied generation
    print ["[registry] driver killed"]

/-- Lets the caller die, and goes on on behalf of another. -/
def killCaller : Act Unit := do
  let caller := (← get).world.caller
  Host.notifyCallerDied caller
  print ["[sim] caller ", Bytes.ofNat caller.toNat, " died"]
  onMachine fun machine => { machine with caller := machine.caller + 1 }

/-- Prints the templates of a subject. -/
def listTemplates (caller : CallerToken) (subject : Int32) : Act Unit := do
  let templates ← host.enrolledTemplates caller subject package
  print ["[sim] ", Bytes.ofNat templates.length, " template(s)"]
  templates.forM fun template =>
    print ["  id=", unsigned template.id, " label=\"", template.label, "\""]

/-- What a command does. -/
def execute (command : Command) : Act Unit := do
  let machine := (← get).world
  match command with
  | .skip | .help | .quit => return
  | .enroll subject => host.requestEnroll machine.caller (some "enroll") ⟨token, subject⟩
  | .authenticate subject =>
    onMachine fun machine => { machine with operation := machine.operation + 1 }
    host.requestAuthenticate machine.caller (some "auth") ⟨machine.operation + 1, subject⟩ package
  | .remove subject id => host.requestRemove machine.caller (some "remove") ⟨id, subject⟩
  | .cancelEnrollment => host.requestCancelEnrollment machine.caller
  | .cancelAuthentication => host.requestCancelAuthentication machine.caller package
  | .touch id => emit [.acquired device 0, .authenticated device id machine.subject]
  | .progress id remaining => emit [.acquired device 0, .enrollResult device id machine.subject remaining]
  | .error code => emit [.error device code]
  | .removed id subject => emit [.removed device id subject]
  | .killDriver => killDriver
  | .killCaller => killCaller
  | .switchTo subject =>
    onMachine ({ · with subject })
    Host.activeSubjectChanged subject
  | .list subject => listTemplates host machine.caller subject
  | .unrecognized => print ["[sim] unrecognized command; type 'help' for usage"]

/-- Executes a command. One that ends with a fault says so. -/
def executeOrSay (command : Command) : Act Unit := do
  if let .error fault ← (execute host command).attempt then
    print ["[sim] request failed: ", fault.message]

end Simulator

end Fingerprint
