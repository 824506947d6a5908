import Fingerprint.Rehearsal.Stage
import Fingerprint.Service

/-!
# Carrying out steps

What each step of a script does, on a host whose collaborators are those of
the stage. Steps within steps are carried out until one fails; each that does
not fail is noted down with what it gave.

* `perform`: one step;
* `follow`: steps within a step;
* `scripted`: the host.
-/

namespace Fingerprint

namespace Rehearsal

variable (host : Host Stage Errand)

/-! ## The parts -/

/-- What a step for the connection does. -/
def performConnection : ConnectionStep → Play Result
  | .getHandle => return .flag (← host.acquire).isSome
  | .beginEnroll token subject timeout => return .status (← host.beginEnroll token subject timeout)
  | .cancelEnroll => return .status (← host.cancelEnroll)
  | .beginAuthenticate operation subject => return .status (← host.beginAuthenticate operation subject)
  | .cancelAuthenticate => return .status (← host.cancelAuthenticate)
  | .beginRemove id subject => return .status (← host.beginRemove id subject)
  | .setActiveSubject subject storage => return .status (← host.setActiveSubject subject storage)
  | .preEnroll => return .wide (← host.preEnroll).toNat
  | .authenticatorId => return .wide (← host.authenticatorId).toNat
  | .handleDriverDied generation => do
    host.handleDriverDied generation
    return .nothing

/-- Ends everything but the queue and the registrations. -/
def destroy : Play Unit :=
  modify fun s =>
    { s with
      queue := s.lockout.cancelTimer s.queue
      lockout := {}
      liveness :=
        Host.releaseSession s.slots.enroll
          (Host.releaseSession s.slots.authenticate (Host.releaseSession s.slots.remove s.liveness))
      slots := {}
      connection := { alive := false }
      detached := true
      world := { s.world with destroyed := true, driver := { s.world.driver with attached := false } } }

/-- What a step for the coordinator, the dispatcher or the lockout does. -/
def performCoordinator : CoordinatorStep → Play Result
  | .startEnrollment caller sink request => do
    host.startEnrollment caller sink request
    return .nothing
  | .startAuthentication caller sink request => do
    host.startAuthentication caller sink request
    return .nothing
  | .startRemove caller sink request => do
    host.startRemove caller sink request
    return .nothing
  | .stopPending => do
    host.stopPendingOperations
    return .nothing
  | .stopEnrollment caller notify => return .flag (← host.stopEnrollment caller notify)
  | .stopAuthentication caller notify => return .flag (← host.stopAuthentication caller notify)
  | .cancel kind caller => do
    host.cancel kind caller
    return .nothing
  | .removeSession kind foreign => do
    if let some kind := kind then
      if !foreign then
        if let some session ← Host.active kind then host.removeSession kind session.id
    return .nothing
  | .failAttempt => do
    match ← host.recordFailure with
    | .entered => return .word "lockout_entered"
    | .stillOpen => return .word "still_open"
  | .successAttempt => do
    Host.recordSuccess
    return .nothing
  | .lockoutSettings => return .lockoutSettings host.setup.lockout
  | .coordinatorSettings => return .coordinatorSettings host.setup.enrollTimeout host.setup.teardownOnReject
  | .shutdown => do
    Host.shutdown
    return .nothing
  | .dispatch event => do
    host.dispatch event
    return .nothing
  | .destroy => do
    destroy
    return .nothing

/-! ## Registrations -/

/-- Gives a name to a handle, which takes the place of the one that had it. -/
def keepRegistration (ref : String) (registration : Registration) : Play Unit :=
  modify fun s =>
    let (kept, liveness) := registration.moveTo (s.world.registration ref) s.liveness
    { s with
      liveness
      world := { s.world with registrations := update s.world.registrations [(ref, some kept)] } }

/-- Releases the handle of a name; the name then stands for what is left of it, or if it
    is to be forgotten for nothing. -/
def releaseRegistration (ref : String) (forget : Bool) : Play Unit :=
  modify fun s =>
    let (left, liveness) := (s.world.registration ref).release s.liveness
    { s with
      liveness
      world :=
        { s.world with
          registrations := update s.world.registrations [(ref, if forget then none else some left)] } }

/-- What a step for the registrations does. -/
def performLiveness : LivenessStep → Play Result
  | .notifyDied caller => do
    Host.notifyCallerDied caller
    return .nothing
  | .handleDied caller => do
    host.callerDied caller
    return .nothing
  | .isRegistered caller => return .flag ((← get).liveness.isRegistered caller)
  | .release ref => do
    releaseRegistration ref false
    return .nothing
  | .drop ref => do
    releaseRegistration ref true
    return .nothing
  | .move source target => do
    if source != target then
      let registration := (← get).world.registration source
      keepRegistration target registration
      onStage fun stage => { stage with registrations := update stage.registrations [(source, none)] }
    return .nothing
  | .info ref => return .registration ((← get).world.registration ref)

/-! ## Sessions -/

/-- Gives a name to a session, or takes it away. The session that had the name is
    released. -/
def keepSession (ref : String) (session : Option Session) : Play Unit :=
  modify fun s =>
    { s with
      liveness := Host.releaseSession (s.world.sessions.lookup ref) s.liveness
      world := { s.world with sessions := update s.world.sessions [(ref, session)] } }

/-- Makes a session that has a name another one, registrations being settled already. -/
def changeSession (ref : String) (session : Session) : Play Unit :=
  onStage fun stage => { stage with sessions := update stage.sessions [(ref, some session)] }

/-- The handle for a session of a name. Its caller's death is noted down. -/
def registerSession (ref : String) (caller : CallerToken) : Play Registration :=
  Host.register caller (some (.client { death := some ref }))

/-- What a step for a session does that is there. -/
def performOnSession (ref : String) (session : Session) : SessionStep → Play Result
  | .create .. => return .nothing
  | .send callback => do
    match ← host.send session callback with
    | .done => return .word "done"
    | .continuing => return .word "continuing"
  | .detach => do
    changeSession ref { session with sink := none }
    return .nothing
  | .release => do
    let (registration, liveness) := session.registration.release (← get).liveness
    modify fun s => { s with liveness }
    changeSession ref { session with registration }
    return .nothing
  | .bind caller => do
    let registration ← registerSession ref caller
    let (registration, liveness) := registration.moveTo session.registration (← get).liveness
    modify fun s => { s with liveness }
    changeSession ref { session with registration }
    return .nothing
  | .drop => do
    keepSession ref none
    return .nothing
  | .info => return .session session

/-- What a step for a session does. -/
def performSession (ref : String) : SessionStep → Play Result
  | .create kind caller sink subject register => do
    let id ← Host.freshSession
    let registration ← if register then registerSession ref caller else pure {}
    keepSession ref (some { id, kind, caller, sink, subject, registration })
    return .nothing
  | step => do
    match (← get).world.sessions.lookup ref with
    | some session => performOnSession host ref session step
    | none => return .nothing

/-! ## The service -/

/-- What a step for the service does. -/
def performService : ServiceStep → Play Result
  | .start subject => do
    host.startService subject
    return .nothing
  | .stop => do
    Host.stopService
    return .nothing
  | .preEnroll caller => return .wide (← host.requestPreEnroll caller).toNat
  | .enroll caller sink request => do
    host.requestEnroll caller sink request
    return .nothing
  | .cancelEnrollment caller => do
    host.requestCancelEnrollment caller
    return .nothing
  | .authenticate caller sink request package => do
    host.requestAuthenticate caller sink request package
    return .nothing
  | .cancelAuthentication caller package => do
    host.requestCancelAuthentication caller package
    return .nothing
  | .remove caller sink request => do
    host.requestRemove caller sink request
    return .nothing
  | .rename caller subject id label => do
    host.requestRename caller subject id label
    return .nothing
  | .hardware caller package => return .flag (← host.isHardwareDetected caller package)
  | .templates caller subject package => return .templates (← host.enrolledTemplates caller subject package)
  | .hasTemplates caller subject package => return .flag (← host.hasEnrolledTemplates caller subject package)
  | .authenticatorId caller package => return .wide (← host.requestAuthenticatorId caller package).toNat
  | .subjectChanged subject => do
    Host.activeSubjectChanged subject
    return .nothing
  | .callerDied caller => do
    Host.notifyCallerDied caller
    return .nothing
  | .storagePath subject => return .path (host.storagePath subject)

/-! ## Collaborators -/

/-- The driver after a change. -/
def DriverPart.change (driver : DriverPart) (change : DriverChange Step) : DriverPart :=
  { driver with
    device := change.device.getD driver.device
    challenge := change.challenge.getD driver.challenge
    authenticatorId := change.authenticatorId.getD driver.authenticatorId
    statuses := update driver.statuses change.statuses
    faults := update driver.faults change.faults
    reactions := update driver.reactions change.reactions }

/-- A sink after a change. -/
def SinkPart.change (sink : SinkPart) (change : SinkChange Step) : SinkPart where
  fault := change.fault.getD sink.fault
  reactions := update sink.reactions change.reactions

/-- The access policy after a change. -/
def AccessPart.change (access : AccessPart) (change : AccessChange) : AccessPart where
  denied := change.denied.getD access.denied
  deniedCallers := change.deniedCallers.getD access.deniedCallers
  deniedPackages := change.deniedPackages.getD access.deniedPackages
  checkFault := change.checkFault.getD access.checkFault
  useFault := change.useFault.getD access.useFault

/-- Changes the stage, and gives nothing. -/
def arrange (f : Stage → Stage) : Play Result := do
  onStage f
  return .nothing

/-- The driver dies as far as one of its links is concerned. -/
def die (link : Option Nat) : Play Result := do
  let links := (← get).world.driver.links
  match links[link.getD (links.length - 1)]? with
  | none => return .word "no_link"
  | some generation =>
    Host.driverLinkDied generation
    return .nothing

/-- The driver tells an event, if it was told where to. -/
def emit (event : DriverEvent) : Play Result := do
  if (← get).world.driver.attached then
    Host.report event
    return .nothing
  else return .word "no_sink"

/-! ## Steps -/

/-- What a step does. -/
def perform : Step → Play Result
  | .advance ms => do
    modify fun s => { s with clock := s.clock + ms }
    return .nothing
  | .run => return .number (← host.runPending)
  | .post steps => do
    Op.post (.client { steps })
    return .nothing
  | .postDelayed ms steps => do
    let s ← get
    let (id, queue) := s.queue.postDelayed s.clock ms (.client { steps })
    set { s with queue }
    return .wide id
  | .postNothing => return .nothing
  | .postNothingDelayed _ => return .wide 0
  | .cancelTask id => do
    let s ← get
    let (found, queue) := s.queue.cancel id
    set { s with queue }
    return .flag found
  | .start => do
    Host.startQueue
    return .nothing
  | .stop => do
    Host.stopQueue
    return .nothing
  | .onQueue => return .flag (← Host.onQueueThread)
  | .now => return .number (← get).clock
  | .pending => return .number (← get).queue.pending
  | .mark label => do
    note (.mark label)
    return .nothing
  | .throw fault => do
    failWith fault
    return .nothing
  | .invoke counted steps => do
    host.invoke (host.client { steps })
    return if counted then .number steps.length else .nothing
  | .setDriver change => arrange fun stage => { stage with driver := stage.driver.change change }
  | .setRegistry available fault =>
    arrange fun stage =>
      { stage with
        registry := ⟨available.getD stage.registry.available, fault.getD stage.registry.fault⟩ }
  | .setSink name change =>
    arrange fun stage =>
      { stage with sinks := update stage.sinks [(name, some ((stage.sink name).change change))] }
  | .setStore faults => arrange fun stage => { stage with storeFaults := update stage.storeFaults faults }
  | .setFeedback fault => arrange fun stage => { stage with feedbackFault := fault.getD stage.feedbackFault }
  | .setAccess change => arrange fun stage => { stage with access := stage.access.change change }
  | .list subject => return .templates ((← get).world.templates.list subject)
  | .die link => die link
  | .emit event => emit event
  | .connection step => performConnection host step
  | .coordinator step => performCoordinator host step
  | .register ref caller steps => do
    let registration ← Host.register caller (steps.map fun steps => .client { death := some ref, steps })
    keepRegistration ref registration
    return .nothing
  | .liveness step => performLiveness host step
  | .session ref step => performSession host ref step
  | .service step => performService host step

/-- Carries out steps within a step. -/
def follow : List Step → Play Unit
  | [] => return
  | step :: rest => do
    let result ← perform host step
    note (.returned step.name result)
    follow rest

/-- Does an errand. -/
def runErrand (nested : List Step → Play Unit) (errand : Errand) : Play Unit := do
  if let some ref := errand.death then note (.death ref)
  nested errand.steps

/-- A host for the settings `setup`, whose collaborators are those of the stage. Steps
    within steps are carried out to a depth of at most `depth`. -/
def scripted (setup : Setup) : (depth : Nat) → Host Stage Errand
  | 0 =>
    { setup
      answer := Stage.answer fun _ => pure ()
      observe := fun event s => s.world.jot s.thread (.event event)
      client := runErrand fun _ => pure ()
      patience := 0 }
  | depth + 1 =>
    { setup
      answer := Stage.answer fun steps => follow (scripted setup depth) steps
      observe := fun event s => s.world.jot s.thread (.event event)
      client := runErrand fun steps => follow (scripted setup depth) steps
      patience := 1000000 }

end Rehearsal

end Fingerprint
