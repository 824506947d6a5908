import Fingerprint.FileSystem
import Fingerprint.Rehearsal.Script

/-!
# The stage

The collaborators of a rehearsal and how they behave, which steps can change
at any time. Each notes down that it was called, fails if it is to fail, and
does what it is there for. While the driver is called, steps may be carried
out; after a sink was called, steps may be posted.

* `Stage`: the state of the collaborators, and the notes taken;
* `Stage.answer`: how they answer.
-/

namespace Fingerprint

namespace Rehearsal

/-- Puts entries into a table, and takes entries out. -/
def update {α : Type} (table : List (String × α)) : List (String × Option α) → List (String × α)
  | [] => table
  | (key, value) :: rest =>
    let others := table.filter (·.1 != key)
    update (match value with
      | some value => (key, value) :: others
      | none => others) rest

/-- How the driver behaves, and what it was told. -/
structure DriverPart where
  device : UInt64 := 209
  challenge : UInt64 := 4660
  authenticatorId : UInt64 := 171
  /-- The statuses that it does not accept calls with. -/
  statuses : List (String × Int) := []
  faults : List (String × Fault) := []
  /-- What is carried out while it is called. -/
  reactions : List (String × List Step) := []
  /-- Whether it was told where to send its events. -/
  attached : Bool := false
  /-- The acquisitions under which it tells its death, oldest first. -/
  links : List Nat := []

/-- How a sink behaves. -/
structure SinkPart where
  fault : Option Fault := none
  /-- What is posted after it was called. -/
  reactions : List (String × List Step) := []

/-- How the registry behaves. -/
structure RegistryPart where
  available : Bool := true
  fault : Option Fault := none

/-- How the access policy behaves. -/
structure AccessPart where
  denied : List (CallerToken × Permission) := []
  deniedCallers : List CallerToken := []
  deniedPackages : List Bytes := []
  checkFault : Option Fault := none
  useFault : Option Fault := none

/-- The collaborators, what scripts have named, and the notes taken. -/
structure Stage where
  driver : DriverPart := {}
  registry : RegistryPart := {}
  sinks : List (SinkName × SinkPart) := []
  templates : TemplateStore := {}
  storeFaults : List (String × Fault) := []
  feedbackFault : Option Fault := none
  access : AccessPart := {}
  files : FileSystem := .fresh
  /-- The handles that scripts have named. -/
  registrations : List (String × Registration) := []
  /-- The sessions that scripts have named. -/
  sessions : List (String × Session) := []
  /-- Whether everything but the queue and the registrations has come to its end. -/
  destroyed : Bool := false
  /-- What was noted down by the thread of the script, oldest first. -/
  notes : List Entry := []
  /-- What was noted down by the queue's own thread. -/
  workerNotes : List Entry := []

/-- What happens in a rehearsal. -/
abbrev Play := Op Stage Errand

namespace Stage

/-- Notes something down that happens on a thread. -/
def jot (thread : Thread) (entry : Entry) (stage : Stage) : Stage :=
  if thread = .worker then { stage with workerNotes := stage.workerNotes ++ [entry] }
  else { stage with notes := stage.notes ++ [entry] }

/-- The sink of a name. One that is not known yet just notes its calls. -/
def sink (stage : Stage) (name : SinkName) : SinkPart := (stage.sinks.lookup name).getD {}

/-- The handle of a name. -/
def registration (stage : Stage) (ref : String) : Registration := (stage.registrations.lookup ref).getD {}

end Stage

/-- Changes the stage. -/
def onStage (f : Stage → Stage) : Play Unit := modify fun s => { s with world := f s.world }

/-- Notes something down. -/
def note (entry : Entry) : Play Unit := modify fun s => { s with world := s.world.jot s.thread entry }

/-- Fails, if there is a fault to fail with. -/
def failWith : Option Fault → Play Unit
  | none => return
  | some fault => throw fault

/-- The name of a call in scripts. -/
def driverCallName : DriverCall → String
  | .linkToDeath _ => "link_to_death"
  | .init => "init"
  | .openHal => "open_hal"
  | .preEnroll => "pre_enroll"
  | .enroll .. => "enroll"
  | .cancelEnroll => "cancel_enroll"
  | .authenticate .. => "authenticate"
  | .cancelAuthenticate => "cancel_authenticate"
  | .remove .. => "remove"
  | .setActiveSubject .. => "set_active_subject"
  | .authenticatorId => "get_authenticator_id"

/-- What the driver remembers of a call. -/
def DriverPart.remember (driver : DriverPart) : DriverCall → DriverPart
  | .linkToDeath generation => { driver with links := driver.links ++ [generation] }
  | .init => { driver with attached := true }
  | _ => driver

/-- The status that a call is answered with. -/
def DriverPart.status (driver : DriverPart) (call : DriverCall) : Int :=
  (driver.statuses.lookup (driverCallName call)).getD 0

/-- What the driver gives for a call. -/
def DriverPart.reply (driver : DriverPart) : (call : DriverCall) → call.Reply
  | .linkToDeath _ | .init => ()
  | .openHal => driver.device
  | .preEnroll => driver.challenge
  | .authenticatorId => driver.authenticatorId
  | .enroll token subject timeout => driver.status (.enroll token subject timeout)
  | .cancelEnroll => driver.status .cancelEnroll
  | .authenticate operation subject => driver.status (.authenticate operation subject)
  | .cancelAuthenticate => driver.status .cancelAuthenticate
  | .remove id subject => driver.status (.remove id subject)
  | .setActiveSubject subject storage => driver.status (.setActiveSubject subject storage)

namespace Stage

variable (nested : List Step → Play Unit)

/-- How the driver answers, `nested` being how steps are carried out. -/
def answerDriver (call : DriverCall) : Play call.Reply := do
  let name := driverCallName call
  failWith ((← get).world.driver.faults.lookup name)
  onStage fun stage => { stage with driver := stage.driver.remember call }
  nested (((← get).world.driver.reactions.lookup name).getD [])
  return (← get).world.driver.reply call

/-- How a sink answers. -/
def answerSink (name : SinkName) (callback : Callback) : Play Unit := do
  let sink := (← get).world.sink name
  if let some steps := sink.reactions.lookup callback.name then Op.post (.client { steps })
  failWith sink.fault

/-- Changes the templates, unless the store is to fail in that. -/
def changeTemplates (name : String) (f : TemplateStore → TemplateStore) : Play Unit := do
  failWith ((← get).world.storeFaults.lookup name)
  onStage fun stage => { stage with templates := f stage.templates }

/-- Whether a permission is granted. -/
def answerPermission (caller : CallerToken) (permission : Permission) : Play Unit := do
  let access := (← get).world.access
  failWith access.checkFault
  if access.denied.contains (caller, permission) then throw (.coded .permissionDenied)

/-- Whether the sensor may be used. -/
def answerUse (caller : CallerToken) (package : Bytes) : Play Bool := do
  let access := (← get).world.access
  failWith access.useFault
  return !(access.deniedCallers.contains caller || access.deniedPackages.contains package)

/-- Whether the registry has the driver to hand out. -/
def answerRegistry : Play (Option Handle) := do
  let registry := (← get).world.registry
  failWith registry.fault
  return if registry.available then some 0 else none

/-- How the collaborators do what they are there for. -/
def serve : (call : Call) → Play call.Reply
  | .acquire => answerRegistry
  | .driver _ call => answerDriver nested call
  | .sink name callback => answerSink name callback
  | .storeAdd subject id => changeTemplates "add" (·.add subject id)
  | .storeRemove subject id => changeTemplates "remove" (·.remove subject id)
  | .storeRename subject id label => changeTemplates "rename" (·.rename subject id label)
  | .storeList subject => return (← get).world.templates.list subject
  | .feedbackSuccess => do failWith (← get).world.feedbackFault
  | .feedbackError => do failWith (← get).world.feedbackFault
  | .checkPermission caller permission => answerPermission caller permission
  | .canUseSensor caller package => answerUse caller package
  | .provideDirectory path => do
    let (files, errno) := (← get).world.files.provideDirectory path
    onStage ({ · with files })
    return errno.map (·.message)

/-- Whether a call is noted down. -/
def noted : Call → Bool
  | .storeList _ | .provideDirectory _ => false
  | _ => true

/-- How the collaborators answer. -/
def answer (call : Call) : Play call.Reply := do
  if noted call then note (.call call)
  serve nested call

end Stage

end Rehearsal

end Fingerprint
