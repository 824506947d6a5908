import Fingerprint.Proofs.Composition
import Fingerprint.Proofs.Disguise
import Fingerprint.Proofs.Parallel
import Fingerprint.Proofs.View

/-!
# The coordinator and its likeness

Two hosts, one the likeness of the other: asked for the same by callers in
disguise, they answer the same. They need not do so where the coordinator does
not listen, and sinks may be told of another device, if they make nothing of
it.

Then whatever the coordinator does with the one it does with the other, in
disguise.

* `System.Disguised`: one state is the other in disguise;
* `Op.Likewise`: operations that do the same in disguise;
* `Host.Likeness`: a host and its likeness;
* `Host.Likeness.acquire` and others, one for each operation;
* `Host.Likeness.dispatch`: events of the driver, the device being up to the host.
-/

namespace Fingerprint

variable {ω ω' κ κ' α : Type}

/-! ## Devices -/

namespace Callback

/-- The device that a callback tells of. -/
def device : Callback → UInt64
  | enrollResult device .. | acquired device _ | authenticated device .. | error device _ | removed device .. => device

/-- The same callback about another device. -/
def fromDevice (device : UInt64) : Callback → Callback
  | enrollResult _ id subject remaining => .enrollResult device id subject remaining
  | acquired _ info => .acquired device info
  | authenticated _ id subject => .authenticated device id subject
  | error _ code => .error device code
  | removed _ id subject => .removed device id subject

theorem name_fromDevice (callback : Callback) (device : UInt64) : (callback.fromDevice device).name = callback.name := by
  cases callback <;> rfl

theorem fromDevice_device (callback : Callback) : callback.fromDevice callback.device = callback := by
  cases callback <;> rfl

theorem outcome_fromDevice (callback : Callback) (device : UInt64) :
    (callback.fromDevice device).outcome = callback.outcome := by
  cases callback <;> rfl

end Callback

namespace DriverEvent

/-- The same event from another device. -/
def fromDevice (device : UInt64) : DriverEvent → DriverEvent
  | enrollResult _ id subject remaining => .enrollResult device id subject remaining
  | acquired _ info => .acquired device info
  | authenticated _ id subject => .authenticated device id subject
  | error _ code => .error device code
  | removed _ id subject => .removed device id subject
  | enumerate _ ids subjects => .enumerate device ids subjects

theorem fromDevice_device (event : DriverEvent) : event.fromDevice event.device = event := by
  cases event <;> rfl

end DriverEvent

/-- Whether the same is asked on either side, and the answer is listened to. -/
def Call.isPlain : Call → Bool
  | acquire | driver .. | storeRename .. | storeList _ | provideDirectory _ => true
  | _ => false

theorem Call.isForPolicy_of_isPlain {call : Call} (h : call.isPlain) : call.isForPolicy = false := by
  cases call <;> first | rfl | cases h

theorem Call.isSink_of_isPlain {call : Call} (h : call.isPlain) : call.isSink = false := by
  cases call <;> first | rfl | cases h

/-! ## Operations in disguise -/

/-- One state is the other in disguise, and the worlds are related. -/
inductive System.Disguised (ρ : Disguise κ κ') (W : ω → ω' → Prop) : System ω κ → System ω' κ' → Prop
  | intro {s : System ω κ} (world : ω') (h : W s.world world) : Disguised ρ W s (s.disguise ρ world)

variable {ρ : Disguise κ κ'} {W : ω → ω' → Prop}

/-- In no disguise, states differ in their worlds alone. -/
theorem System.disguised_id_iff {W : ω → ω → Prop} {s s' : System ω κ} :
    s.Disguised (.id κ) W s' ↔ ∃ world, W s.world world ∧ s' = { s with world } := by
  constructor
  · rintro ⟨world, hworld⟩
    exact ⟨world, hworld, s.disguise_id world⟩
  · rintro ⟨world, hworld, rfl⟩
    rw [← s.disguise_id world]
    exact .intro world hworld

/-- Two operations do the same in disguise, and have the same result. -/
abbrev Op.Likewise (ρ : Disguise κ κ') (W : ω → ω' → Prop) (op : Op ω κ α) (op' : Op ω' κ' α) : Prop :=
  Op.Parallel (System.Disguised ρ W) Eq op op'

/-- To look at the state first. -/
theorem Op.Parallel.look {β β' : Type} {Q : β → β' → Prop} {f : System ω κ → Op ω κ β}
    {f' : System ω' κ' → Op ω' κ' β'}
    (hf : ∀ s world, W s.world world →
      Op.Parallel (System.Disguised ρ W) Q (f s) (f' (s.disguise ρ world))) :
    Op.Parallel (System.Disguised ρ W) Q (get >>= f) (get >>= f') := by
  refine .get_bind ?_
  rintro s _ ⟨world, hworld⟩
  exact hf s world hworld

/-- To change what belongs to the coordinator. -/
theorem Op.Likewise.changed {f : System ω κ → System ω κ} {f' : System ω' κ' → System ω' κ'}
    (hworld : ∀ s, (f s).world = s.world) (hf : ∀ s world, f' (s.disguise ρ world) = (f s).disguise ρ world) :
    Op.Likewise ρ W (modify f) (modify f') := by
  refine .modified ?_
  rintro s _ ⟨world, h⟩
  rw [hf]
  exact .intro world (hworld s ▸ h)

/-- To change the world alone, and end with an outcome. -/
theorem Op.Likewise.settled {f : System ω κ → ω} {f' : System ω' κ' → ω'} (outcome : Except Fault α)
    (h : ∀ s world, W s.world world → W (f s) (f' (s.disguise ρ world))) :
    Op.Likewise ρ W
      (do
        modify fun s => { s with world := f s }
        Op.settle outcome)
      (do
        modify fun s => { s with world := f' s }
        Op.settle outcome) := by
  refine (Op.Parallel.modified ?_).andThen fun _ => .settle outcome
  rintro s _ ⟨world, hworld⟩
  exact .intro _ (h s world hworld)

/-- To run on behalf of a session. -/
theorem Op.Likewise.onBehalfOf {op : Op ω κ α} {op' : Op ω' κ' α} (h : op.Likewise ρ W op') (session : Nat) :
    (op.onBehalfOf session).Likewise ρ W (op'.onBehalfOf session) := by
  have hspeak (speaker : Option Nat) :
      Op.Likewise ρ W (modify fun s => { s with speaker }) (modify fun s => { s with speaker }) :=
    .changed (fun _ => rfl) fun _ _ => rfl
  refine .look fun s world _ => ?_
  refine (hspeak _).andThen fun _ => h.attempt.andThen fun outcome => ?_
  exact (hspeak _).andThen fun _ => .settle outcome

/-- To run on a thread. -/
theorem Op.Likewise.onThread {op : Op ω κ α} {op' : Op ω' κ' α} (h : op.Likewise ρ W op') (thread : Thread) :
    (op.onThread thread).Likewise ρ W (op'.onThread thread) := by
  have hthread (thread : Thread) :
      Op.Likewise ρ W (modify fun s => { s with thread }) (modify fun s => { s with thread }) :=
    .changed (fun _ => rfl) fun _ _ => rfl
  refine .look fun s world _ => ?_
  refine (hthread _).andThen fun _ => h.attempt.andThen fun outcome => ?_
  exact (hthread _).andThen fun _ => .settle outcome

/-- To change the queue. -/
theorem Op.Likewise.onQueue {f : TaskQueue (Task κ) → TaskQueue (Task κ)}
    {f' : TaskQueue (Task κ') → TaskQueue (Task κ')}
    (hf : ∀ q, f' (q.map (Task.disguise ρ)) = (f q).map (Task.disguise ρ)) :
    Op.Likewise ρ W (Op.onQueue f) (Op.onQueue f') :=
  .changed (fun _ => rfl) fun s world => by simp only [System.disguise, hf]

/-- To put a task on the queue. -/
theorem Op.Likewise.post (task : Task κ) : Op.Likewise ρ W (Op.post task) (Op.post (task.disguise ρ)) :=
  .onQueue fun q => (TaskQueue.map_post (Task.disguise ρ) q task).symm

/-! ## Likenesses -/

/-- One host is the likeness of the other. Of what may fail without harm it is enough that it does no
    more harm in the one than in the other. -/
structure Host.Likeness (host : Host ω κ) (host' : Host ω' κ') (ρ : Disguise κ κ') (D : UInt64 → UInt64 → Prop)
    (W : ω → ω' → Prop) : Prop where
  setup : host'.setup = host.setup
  publish {event event' : Event} (h : event.Disguised ρ event') :
    (host.publish event).Likewise ρ W (host'.publish event')
  answer (call : Call) (h : call.isPlain) : (host.answer call).Likewise ρ W (host'.answer call)
  /-- The device that is open is the same on either side. -/
  device (device : UInt64) : D device device
  sink (name : SinkName) (callback : Callback) {device : UInt64} (h : D callback.device device) :
    Op.Likewise ρ W (host.answer (.sink name callback)) (host'.answer (.sink name (callback.fromDevice device)))
  addTemplate (subject : Int32) (id : UInt32) :
    (host.addTemplate subject id).Likewise ρ W (host'.addTemplate subject id)
  removeTemplate (subject : Int32) (id : UInt32) :
    (host.removeTemplate subject id).Likewise ρ W (host'.removeTemplate subject id)
  feedbackSuccess : host.feedbackSuccess.Likewise ρ W host'.feedbackSuccess
  feedbackError : host.feedbackError.Likewise ρ W host'.feedbackError

/-- What may fail does no harm. -/
theorem Op.Likewise.bestEffort {host : Host ω κ} {host' : Host ω' κ'}
    (hpublish : ∀ event, (host.publish event).Likewise ρ W (host'.publish event))
    {request : Op ω κ Unit} {request' : Op ω' κ' Unit} (hrequest : request.Likewise ρ W request') (id : Bytes)
    (fields : List Field) : (host.bestEffort request id fields).Likewise ρ W (host'.bestEffort request' id fields) := by
  refine hrequest.attempt.andThen fun outcome => ?_
  cases outcome with
  | ok => exact .result ()
  | error fault => exact hpublish _

/-- If all that is asked is answered alike, one host is the likeness of the other. -/
theorem Host.Likeness.of_answer {host : Host ω κ} {host' : Host ω' κ'} {D : UInt64 → UInt64 → Prop}
    (hsetup : host'.setup = host.setup)
    (hpublish : ∀ {event event'}, event.Disguised ρ event' →
      (host.publish event).Likewise ρ W (host'.publish event'))
    (hanswer : ∀ call, call.isForPolicy = false → call.isSink = false →
      (host.answer call).Likewise ρ W (host'.answer call))
    (hdevice : ∀ device, D device device)
    (hsink : ∀ (name : SinkName) (callback : Callback) {device : UInt64}, D callback.device device →
      Op.Likewise ρ W (host.answer (.sink name callback)) (host'.answer (.sink name (callback.fromDevice device)))) :
    host.Likeness host' ρ D W := by
  have hbest {request : Op ω κ Unit} {request' : Op ω' κ' Unit} (hrequest : request.Likewise ρ W request')
      (c : Bool) (id : Bytes) (fields : List Field) :
      Op.Likewise ρ W (if c then host.bestEffort request id fields else pure ())
        (if c then host'.bestEffort request' id fields else pure ()) :=
    .either (Op.Likewise.bestEffort (fun event => hpublish (.same event)) hrequest id fields) (.result ())
  refine ⟨hsetup, hpublish, fun call hcall => ?_, hdevice, hsink, fun subject id => ?_, fun subject id => ?_, ?_, ?_⟩
  · exact hanswer call (Call.isForPolicy_of_isPlain hcall) (Call.isSink_of_isPlain hcall)
  · rw [Host.addTemplate, Host.addTemplate, hsetup]
    exact hbest (hanswer (.storeAdd subject id) rfl rfl) _ _ _
  · rw [Host.removeTemplate, Host.removeTemplate, hsetup]
    exact hbest (hanswer (.storeRemove subject id) rfl rfl) _ _ _
  · rw [Host.feedbackSuccess, Host.feedbackSuccess, hsetup]
    exact hbest (hanswer .feedbackSuccess rfl rfl) _ _ _
  · rw [Host.feedbackError, Host.feedbackError, hsetup]
    exact hbest (hanswer .feedbackError rfl rfl) _ _ _

namespace Host.Likeness

open Op.Parallel

variable {host : Host ω κ} {host' : Host ω' κ'} {D : UInt64 → UInt64 → Prop} (h : host.Likeness host' ρ D W)

include h

/-- What names no caller is told in the same words. -/
theorem tell (event : Event) : (host.publish event).Likewise ρ W (host'.publish event) := h.publish (.same event)

theorem driver (handle : Handle) (call : DriverCall) :
    (host.driver handle call).Likewise ρ W (host'.driver handle call) :=
  h.answer (.driver handle call) rfl

omit h in
theorem onConnection (f : Connection → Connection) :
    Op.Likewise ρ W (Host.onConnection f) (Host.onConnection f) :=
  .changed (fun _ => rfl) fun _ _ => rfl

/-! ## The connection -/

theorem guarded (operation : Bytes) {op : Op ω κ α} {op' : Op ω' κ' α} (hop : op.Likewise ρ W op') :
    (host.guarded operation op).Likewise ρ W (host'.guarded operation op') := by
  refine hop.attempt.andThen fun outcome => ?_
  cases outcome with
  | ok reply => exact result _
  | error fault => exact (h.tell _).andThen fun _ => result _

theorem judge (operation : Bytes) (reply : Except DriverStatus Int) :
    (host.judge operation reply).Likewise ρ W (host'.judge operation reply) := by
  cases reply with
  | error status => exact result status
  | ok code => exact either (result _) ((h.tell _).andThen fun _ => result _)

theorem reapply (handle : Handle) : (host.reapply handle).Likewise ρ W (host'.reapply handle) := by
  refine look fun s world _ => ?_
  rw [System.disguise_connection]
  cases s.connection.activeSubject with
  | none => exact result ()
  | some active =>
    refine andThen ?_ fun status => onConnection _
    exact (h.guarded _ (h.driver handle _)).andThen fun reply => h.judge _ reply

theorem openDevice (handle : Handle) : (host.openDevice handle).Likewise ρ W (host'.openDevice handle) := by
  have hopen : Op.Likewise ρ W (do
      let device ← host.driver handle .openHal
      Host.onConnection ({ · with device })) (do
      let device ← host'.driver handle .openHal
      Host.onConnection ({ · with device })) :=
    (h.driver handle .openHal).andThen fun device => onConnection _
  unfold Host.openDevice
  rw [h.setup]
  exact either ((h.driver handle .init).andThen fun _ => hopen) hopen

theorem connect (handle : Handle) (generation : Nat) :
    (host.connect handle generation).Likewise ρ W (host'.connect handle generation) := by
  refine (h.driver handle _).attempt.andThen fun outcome => ?_
  cases outcome with
  | error fault => exact (h.tell _).andThen fun _ => result _
  | ok _ =>
    refine (h.openDevice handle).attempt.andThen fun outcome => ?_
    cases outcome with
    | error fault => exact (h.tell _).andThen fun _ => (onConnection _).andThen fun _ => result _
    | ok _ =>
      refine (onConnection _).andThen fun _ => look fun s world _ => ?_
      have hrest : Op.Likewise ρ W (do
          host.publish (connectedEvent generation s.connection.device)
          host.reapply handle
          return true) (do
          host'.publish (connectedEvent generation s.connection.device)
          host'.reapply handle
          return true) :=
        (h.tell _).andThen fun _ => (h.reapply handle).andThen fun _ => result _
      exact either ((h.tell _).andThen fun _ => hrest) hrest

theorem acquire : host.acquire.Likewise ρ W host'.acquire := by
  refine look fun s world _ => ?_
  rw [System.disguise_connection, h.setup]
  cases s.connection.handle with
  | some handle => exact result _
  | none =>
    refine either (result _) ((h.answer .acquire rfl).attempt.andThen fun outcome => ?_)
    rcases outcome with fault | _ | handle
    · exact (h.tell _).andThen fun _ => result _
    · exact result _
    · refine look fun s world _ => ?_
      refine (onConnection _).andThen fun _ => (h.connect handle _).andThen fun connected => either ?_ (result _)
      refine look fun s world _ => ?_
      exact result _

theorem unavailable (operation : Bytes) : (host.unavailable operation).Likewise ρ W (host'.unavailable operation) :=
  (h.tell _).andThen fun _ => result _

theorem request (operation : Bytes) {ask : Handle → Op ω κ α} {ask' : Handle → Op ω' κ' α}
    (hask : ∀ handle, (ask handle).Likewise ρ W (ask' handle)) :
    (host.request operation ask).Likewise ρ W (host'.request operation ask') := by
  refine h.acquire.andThen fun found => ?_
  cases found with
  | none => exact (h.unavailable operation).andThen fun _ => result _
  | some handle => exact h.guarded operation (hask handle)

theorem forward (operation : Bytes) {ask : Handle → Op ω κ Int} {ask' : Handle → Op ω' κ' Int}
    (hask : ∀ handle, (ask handle).Likewise ρ W (ask' handle)) :
    (host.forward operation ask).Likewise ρ W (host'.forward operation ask') :=
  (h.request operation hask).andThen fun reply => h.judge operation reply

theorem query (operation : Bytes) {ask : Handle → Op ω κ UInt64} {ask' : Handle → Op ω' κ' UInt64}
    (hask : ∀ handle, (ask handle).Likewise ρ W (ask' handle)) :
    (host.query operation ask).Likewise ρ W (host'.query operation ask') := by
  refine (h.request operation hask).andThen fun reply => ?_
  cases reply <;> exact result _

theorem preEnroll : host.preEnroll.Likewise ρ W host'.preEnroll := h.query _ fun handle => h.driver handle .preEnroll

theorem authenticatorId : host.authenticatorId.Likewise ρ W host'.authenticatorId :=
  h.query _ fun handle => h.driver handle .authenticatorId

theorem setActiveSubject (subject : Int32) (storage : Bytes) :
    (host.setActiveSubject subject storage).Likewise ρ W (host'.setActiveSubject subject storage) := by
  have hlast : Op.Likewise ρ W (do return (← get).connection.lastApplied)
      (do return (← get).connection.lastApplied) := by
    refine look fun s world _ => ?_
    exact result _
  refine (onConnection _).andThen fun _ => look fun s world _ => ?_
  rw [System.disguise_connection]
  cases s.connection.handle with
  | some handle => exact (h.reapply handle).andThen fun _ => hlast
  | none => exact h.acquire.andThen fun found => either (h.unavailable _) hlast

theorem handleDriverDied (generation : Nat) :
    (host.handleDriverDied generation).Likewise ρ W (host'.handleDriverDied generation) := by
  refine look fun s world _ => ?_
  exact either ((onConnection _).andThen fun _ => h.tell _) (result ())

theorem driverDied (generation : Nat) : (host.driverDied generation).Likewise ρ W (host'.driverDied generation) := by
  refine look fun s world _ => ?_
  exact either (h.handleDriverDied generation) (result ())

/-! ## Deliveries -/

omit h in
theorem disguised_deliveryFailedEvent (x : Session) (callback : Callback) (device : UInt64) (fault : Fault) :
    (deliveryFailedEvent x callback fault).Disguised ρ
      (deliveryFailedEvent (x.disguise ρ) (callback.fromDevice device) fault) where
  category := rfl
  severity := rfl
  id := rfl
  message := rfl
  fields := by
    rw [deliveryFailedEvent, deliveryFailedEvent, callback.name_fromDevice]
    exact .cons (.same _) (.cons (.same _) (.cons (.caller _) (.cons (.same _) .nil)))

theorem deliver (x : Session) (callback : Callback) {device : UInt64} (hdevice : D callback.device device) :
    (host.deliver x callback).Likewise ρ W (host'.deliver (x.disguise ρ) (callback.fromDevice device)) := by
  have hsink : (x.disguise ρ).sink = x.sink := rfl
  unfold Host.deliver
  rw [hsink]
  cases x.sink with
  | none => exact result _
  | some sink =>
    refine (attempt (Op.Likewise.onBehalfOf (h.sink sink callback hdevice) _)).andThen fun outcome => ?_
    cases outcome with
    | ok => exact result _
    | error fault => exact (h.publish (disguised_deliveryFailedEvent x callback device fault)).andThen fun _ => result _

theorem send (x : Session) (callback : Callback) {device : UInt64} (hdevice : D callback.device device) :
    (host.send x callback).Likewise ρ W (host'.send (x.disguise ρ) (callback.fromDevice device)) := by
  unfold Host.send
  rw [callback.outcome_fromDevice]
  exact (h.deliver x callback hdevice).andThen fun _ => either (result _) (result _)

theorem sendError (x : Session) (error : SensorError) :
    (host.sendError x error).Likewise ρ W (host'.sendError (x.disguise ρ) error) := by
  refine look fun s world _ => ?_
  exact (h.send x (.error s.connection.device error.code) (h.device _)).andThen fun _ => result ()

/-! ## Sessions -/

omit h in
theorem active (kind : SessionKind) :
    Op.Parallel (System.Disguised ρ W) (fun found found' => found' = found.map (·.disguise ρ))
      (Host.active kind) (Host.active kind) := by
  refine look fun s world _ => ?_
  exact pure (s.slots.get_disguise ρ kind)

omit h in
theorem freshSession : Op.Likewise ρ W Host.freshSession Host.freshSession := by
  refine look fun s world _ => ?_
  have hnext : Op.Likewise ρ W (modify fun s' => { s' with nextSession := s.nextSession + 1 })
      (modify fun s' => { s' with nextSession := s.nextSession + 1 }) :=
    .changed (fun _ => rfl) fun _ _ => rfl
  exact hnext.andThen fun _ => result _

omit h in
theorem register (caller : CallerToken) (onDeath : Option (DeathAction κ)) :
    Op.Parallel (System.Disguised ρ W) (fun r r' => r' = r.disguise ρ)
      (Host.register caller onDeath) (Host.register (ρ.caller caller) (onDeath.map (·.disguise ρ))) := by
  refine look fun s world _ => ?_
  rw [System.disguise_liveness, s.liveness.register_disguise ρ]
  cases s.liveness.register caller onDeath with
  | error error => exact throw _
  | ok made =>
    have hmade : Op.Likewise ρ W (modify fun s => { s with liveness := made.2 })
        (modify fun s => { s with liveness := made.2.disguise ρ }) :=
      .changed (fun _ => rfl) fun _ _ => rfl
    exact hmade.andThen fun _ => pure rfl

omit h in
theorem slotNew (kind : SessionKind) (caller : CallerToken) (sink : Option SinkName) (subject : Int32) :
    Op.Likewise ρ W (Host.slotNew kind caller sink subject) (Host.slotNew kind (ρ.caller caller) sink subject) := by
  refine freshSession.andThen fun id => (register caller (some (.endSession kind id))).bind ?_
  rintro registration _ rfl
  refine Op.Likewise.changed (fun _ => rfl) fun s world => ?_
  have hset := s.slots.set_disguise ρ kind (some ⟨id, kind, caller, sink, subject, registration⟩)
  have hrelease := s.liveness.releaseSession_disguise ρ (s.slots.get kind)
  simp only [System.disguise, ← hset, ← hrelease, Slots.get_disguise]
  rfl

omit h in
theorem disguised_sessionEvent (severity : Severity) (id message : Bytes) (kind : SessionKind) (caller : CallerToken)
    (subject : Option Int32) :
    (sessionEvent severity id message kind caller subject).Disguised ρ
      (sessionEvent severity id message kind (ρ.caller caller) subject) where
  category := rfl
  severity := rfl
  id := rfl
  message := rfl
  fields := .cons (.same _) (.cons (.caller _) (List.forall₂_same.2 fun field _ => .same field))

/-- What is told of a session is told in disguise. -/
theorem tellOf (severity : Severity) (id message : Bytes) (kind : SessionKind) (caller : CallerToken)
    (subject : Option Int32) :
    (host.publish (sessionEvent severity id message kind caller subject)).Likewise ρ W
      (host'.publish (sessionEvent severity id message kind (ρ.caller caller) subject)) :=
  h.publish (disguised_sessionEvent ..)

theorem removeSession (kind : SessionKind) (id : Nat) :
    (host.removeSession kind id).Likewise ρ W (host'.removeSession kind id) := by
  refine look fun s world _ => ?_
  rw [System.disguise_slots, Slots.get_disguise]
  cases s.slots.get kind with
  | none => exact result ()
  | some x =>
    have hvacated : Op.Likewise ρ W
        (modify fun s => { s with
          slots := s.slots.set kind none
          liveness := releaseSession (some x) s.liveness })
        (modify fun s => { s with
          slots := s.slots.set kind none
          liveness := releaseSession (some (x.disguise ρ)) s.liveness }) := by
      refine .changed (fun _ => rfl) fun s world => ?_
      have hset := s.slots.set_disguise ρ kind none
      have hrelease := s.liveness.releaseSession_disguise ρ (some x)
      simp only [System.disguise, ← hset, ← hrelease]
      rfl
    exact either (hvacated.andThen fun _ => h.tellOf _ _ _ _ _ _) (result ())

theorem cancelDriver (kind : SessionKind) : (host.cancelDriver kind).Likewise ρ W (host'.cancelDriver kind) := by
  cases kind with
  | enroll | authenticate => exact (h.forward _ fun handle => h.driver handle _).andThen fun _ => result ()
  | remove => exact result ()

theorem stopSession (kind : SessionKind) (caller : CallerToken) (notify : Bool) :
    (host.stopSession kind caller notify).Likewise ρ W (host'.stopSession kind (ρ.caller caller) notify) := by
  refine (active kind).bind ?_
  rintro (_ | x) _ rfl
  · exact result false
  · have hremove : Op.Likewise ρ W (do
        host.removeSession kind x.id
        return true) (do
        host'.removeSession kind x.id
        return true) :=
      (h.removeSession kind x.id).andThen fun _ => result true
    have hcaller : ((x.disguise ρ).caller != ρ.caller caller) = (x.caller != caller) := ρ.caller_bne _ _
    simp only [Option.map_some, hcaller]
    refine either (result false) (h.acquire.andThen fun found => ?_)
    refine either ((h.tellOf _ _ _ _ _ _).andThen fun _ => result false) ((h.cancelDriver kind).andThen fun _ => ?_)
    exact either ((h.sendError x _).andThen fun _ => hremove) hremove

theorem dismissRemove (x : Session) : (host.dismissRemove x).Likewise ρ W (host'.dismissRemove (x.disguise ρ)) :=
  (h.sendError x _).andThen fun _ => h.removeSession _ _

theorem cancel (kind : SessionKind) (caller : CallerToken) :
    (host.cancel kind caller).Likewise ρ W (host'.cancel kind (ρ.caller caller)) := by
  cases kind with
  | enroll | authenticate => exact (h.stopSession _ _ _).andThen fun _ => result ()
  | remove =>
    refine (active .remove).bind ?_
    rintro (_ | x) _ rfl
    · exact result ()
    · exact either_of_iff ρ.injective.eq_iff (h.dismissRemove x) (result ())

theorem preempt (kind : SessionKind) : (host.preempt kind).Likewise ρ W (host'.preempt kind) := by
  refine (active kind).bind ?_
  rintro (_ | x) _ rfl
  · exact result ()
  · exact (h.stopSession kind x.caller true).andThen fun _ => result ()

theorem stopPendingOperations : host.stopPendingOperations.Likewise ρ W host'.stopPendingOperations :=
  (h.preempt .enroll).andThen fun _ => h.preempt .authenticate

/-! ## Starts -/

theorem handleStartRejected (kind : SessionKind) (status : DriverStatus) :
    (host.handleStartRejected kind status).Likewise ρ W (host'.handleStartRejected kind status) := by
  unfold Host.handleStartRejected
  rw [h.setup]
  refine (active kind).bind ?_
  rintro (_ | x) _ rfl
  · exact result ()
  · refine (h.tellOf _ _ _ _ _ _).andThen fun _ => either ?_ (result ())
    exact (h.sendError x _).andThen fun _ => h.removeSession kind x.id

theorem launch (kind : SessionKind) (message : Bytes) (caller : CallerToken) (sink : Option SinkName)
    (subject : Int32) {ask : Op ω κ DriverStatus} {ask' : Op ω' κ' DriverStatus} (hask : ask.Likewise ρ W ask') :
    (host.launch kind message caller sink subject ask).Likewise ρ W
      (host'.launch kind message (ρ.caller caller) sink subject ask') := by
  refine (slotNew kind caller sink subject).andThen fun _ => (h.tellOf _ _ _ _ _ _).andThen fun _ => ?_
  exact hask.andThen fun status => either (h.handleStartRejected kind status) (result ())

theorem startEnrollment (caller : CallerToken) (sink : Option SinkName) (request : EnrollRequest) :
    (host.startEnrollment caller sink request).Likewise ρ W
      (host'.startEnrollment (ρ.caller caller) sink request) := by
  have htimeout : host'.enrollTimeout = host.enrollTimeout := by
    rw [Host.enrollTimeout, Host.enrollTimeout, h.setup]
  unfold Host.startEnrollment
  rw [htimeout]
  refine h.acquire.andThen fun found => either (h.tellOf _ _ _ _ _ _) (h.stopPendingOperations.andThen fun _ => ?_)
  exact h.launch _ _ _ _ _ (h.forward _ fun handle => h.driver handle _)

theorem refuseLocked (caller : CallerToken) (sink : Option SinkName) (subject : Int32) :
    (host.refuseLocked caller sink subject).Likewise ρ W (host'.refuseLocked (ρ.caller caller) sink subject) := by
  refine freshSession.andThen fun id => (h.tellOf _ _ _ _ _ _).andThen fun _ => either (h.tellOf _ _ _ _ _ _) ?_
  -- The session is never registered: its handle names nobody, in disguise as well.
  have hrejected : (⟨id, .authenticate, ρ.caller caller, sink, subject, {}⟩ : Session) =
      (⟨id, .authenticate, caller, sink, subject, {}⟩ : Session).disguise ρ := by
    simp only [Session.disguise, Registration.disguise, ρ.nobody]
  rw [hrejected]
  exact h.sendError _ .lockout

theorem startAuthentication (caller : CallerToken) (sink : Option SinkName) (request : AuthenticateRequest) :
    (host.startAuthentication caller sink request).Likewise ρ W
      (host'.startAuthentication (ρ.caller caller) sink request) := by
  have hlocked : host.isLocked.Likewise ρ W host'.isLocked := by
    unfold Host.isLocked
    rw [h.setup]
    refine look fun s world _ => ?_
    exact result _
  refine h.acquire.andThen fun found => either (h.tellOf _ _ _ _ _ _) (h.stopPendingOperations.andThen fun _ => ?_)
  refine hlocked.andThen fun locked => either (h.refuseLocked _ _ _) ?_
  exact h.launch _ _ _ _ _ (h.forward _ fun handle => h.driver handle _)

theorem startRemove (caller : CallerToken) (sink : Option SinkName) (request : RemoveRequest) :
    (host.startRemove caller sink request).Likewise ρ W (host'.startRemove (ρ.caller caller) sink request) := by
  have hlaunch : Op.Likewise ρ W
      (host.launch .remove "Removal started" caller sink request.subject
        (host.beginRemove request.id request.subject))
      (host'.launch .remove "Removal started" (ρ.caller caller) sink request.subject
        (host'.beginRemove request.id request.subject)) :=
    h.launch _ _ _ _ _ (h.forward _ fun handle => h.driver handle _)
  refine h.acquire.andThen fun found => either (h.tellOf _ _ _ _ _ _) ((active .remove).bind ?_)
  rintro (_ | x) _ rfl
  · exact hlaunch
  · exact (h.dismissRemove x).andThen fun _ => hlaunch

/-! ## Death of callers -/

theorem endSession (kind : SessionKind) (id : Nat) :
    (host.endSession kind id).Likewise ρ W (host'.endSession kind id) := by
  refine (active kind).bind ?_
  rintro (_ | x) _ rfl
  · exact result ()
  · exact either ((h.tellOf _ _ _ _ _ _).andThen fun _ => h.removeSession kind id) (result ())

/-! ## Events of the driver -/

/-- An event that is from the same device on either side. -/
theorem checkDevice (event : DriverEvent) : (host.checkDevice event).Likewise ρ W (host'.checkDevice event) := by
  refine look fun s world _ => ?_
  exact either (h.tell _) (result ())

omit h in
theorem recordSuccess : Op.Likewise ρ W Host.recordSuccess Host.recordSuccess := .changed (fun _ => rfl) fun _ _ => rfl

theorem recordFailure : host.recordFailure.Likewise ρ W host'.recordFailure := by
  refine look fun s world hworld => ?_
  have hcount : s.lockout.recordFailure host.setup.lockout s.clock .lockoutExpired (s.queue.map (Task.disguise ρ)) = _ :=
    s.lockout.recordFailure_map (Task.disguise ρ) host.setup.lockout s.clock .lockoutExpired s.queue
  have hcounted (lockout : Lockout) (queue : TaskQueue (Task κ)) :
      Op.Likewise ρ W (MonadStateOf.set { s with lockout, queue })
        (MonadStateOf.set { s.disguise ρ world with lockout, queue := queue.map (Task.disguise ρ) }) :=
    .set (.intro world hworld)
  simp only [h.setup, System.disguise_lockout, System.disguise_clock, System.disguise_queue, hcount]
  exact (hcounted _ _).andThen fun _ => either ((h.tell _).andThen fun _ => result _) (result _)

theorem lockoutExpired : host.lockoutExpired.Likewise ρ W host'.lockoutExpired := by
  have hexpired : Op.Likewise ρ W (modify fun s => { s with lockout := Lockout.expire })
      (modify fun s => { s with lockout := Lockout.expire }) :=
    .changed (fun _ => rfl) fun _ _ => rfl
  exact hexpired.andThen fun _ => h.tell _

theorem finish (x : Session) : (host.finish x).Likewise ρ W (host'.finish (x.disguise ρ)) :=
  (h.stopSession x.kind x.caller false).andThen fun _ => either (h.removeSession _ _) (result ())

section

variable {device device' : UInt64} (hdevice : D device device')

include hdevice

theorem dispatchEnrollResult (id : UInt32) (subject remaining : Int32) :
    (host.dispatchEnrollResult device id subject remaining).Likewise ρ W
      (host'.dispatchEnrollResult device' id subject remaining) := by
  refine (active .enroll).bind ?_
  rintro (_ | x) _ rfl
  · exact result ()
  · have hend (outcome : SessionOutcome) : Op.Likewise ρ W
        (if outcome = .done then
          if remaining = 0 then host.removeSession .enroll x.id else host.finish x
        else Pure.pure ())
        (if outcome = .done then
          if remaining = 0 then host'.removeSession .enroll x.id else host'.finish (x.disguise ρ)
        else Pure.pure ()) :=
      either (either (h.removeSession _ _) (h.finish x)) (result ())
    have hsend : Op.Likewise ρ W (do
        let outcome ← host.send x (.enrollResult device id subject remaining)
        if remaining = 0 then host.addTemplate x.subject id
        if outcome = .done then
          if remaining = 0 then host.removeSession .enroll x.id else host.finish x) (do
        let outcome ← host'.send (x.disguise ρ) (.enrollResult device' id subject remaining)
        if remaining = 0 then host'.addTemplate x.subject id
        if outcome = .done then
          if remaining = 0 then host'.removeSession .enroll x.id else host'.finish (x.disguise ρ)) :=
      (h.send x (.enrollResult device id subject remaining) hdevice).andThen fun outcome =>
        either ((h.addTemplate x.subject id).andThen fun _ => hend outcome) (hend outcome)
    exact either (h.feedbackSuccess.andThen fun _ => hsend) hsend

theorem deliverAcquired (x : Session) (info : Int32) :
    (host.deliverAcquired x device info).Likewise ρ W (host'.deliverAcquired (x.disguise ρ) device' info) :=
  (h.send x (.acquired device info) hdevice).andThen fun _ => either (h.removeSession _ _) (result ())

theorem dispatchAcquired (info : Int32) :
    (host.dispatchAcquired device info).Likewise ρ W (host'.dispatchAcquired device' info) := by
  refine (active .enroll).bind ?_
  rintro (_ | x) _ rfl
  · refine (active .authenticate).bind ?_
    rintro (_ | x) _ rfl
    · exact result ()
    · exact h.deliverAcquired hdevice x info
  · exact h.deliverAcquired hdevice x info

theorem dispatchAuthenticated (id : UInt32) (subject : Int32) :
    (host.dispatchAuthenticated device id subject).Likewise ρ W (host'.dispatchAuthenticated device' id subject) := by
  refine (active .authenticate).bind ?_
  rintro (_ | x) _ rfl
  · exact result ()
  · refine (h.send x (.authenticated device id subject) hdevice).andThen fun _ => either ?_ ?_
    · refine h.feedbackError.andThen fun _ => h.recordFailure.andThen fun counted => ?_
      refine either (either ?_ ?_) (h.finish x)
      · exact (h.tell _).andThen fun _ => h.finish x
      · exact (h.send x (.error device SensorError.lockout.code) hdevice).andThen fun _ => h.finish x
    · exact h.feedbackSuccess.andThen fun _ => recordSuccess.andThen fun _ => h.finish x

theorem dispatchError (code : Int32) :
    (host.dispatchError device code).Likewise ρ W (host'.dispatchError device' code) := by
  have hsend (x : Session) := h.send x (.error device code) hdevice
  refine (active .enroll).bind ?_
  rintro (_ | x) _ rfl
  · refine (active .authenticate).bind ?_
    rintro (_ | x) _ rfl
    · refine (active .remove).bind ?_
      rintro (_ | x) _ rfl
      · exact result ()
      · exact (hsend x).andThen fun _ => h.removeSession _ _
    · exact (hsend x).andThen fun _ => h.finish x
  · exact (hsend x).andThen fun _ => h.finish x

theorem dispatchRemoved (id : UInt32) (subject : Int32) :
    (host.dispatchRemoved device id subject).Likewise ρ W (host'.dispatchRemoved device' id subject) := by
  refine (active .remove).bind ?_
  rintro (_ | x) _ rfl
  · exact either ((h.removeTemplate _ id).andThen fun _ => result ()) (result ())
  · have hsend : Op.Likewise ρ W (do
        if (← host.send x (.removed device id subject)) = .done then host.removeSession .remove x.id) (do
        if (← host'.send (x.disguise ρ) (.removed device' id subject)) = .done then
          host'.removeSession .remove x.id) :=
      (h.send x (.removed device id subject) hdevice).andThen fun _ => either (h.removeSession _ _) (result ())
    exact either ((h.removeTemplate _ id).andThen fun _ => hsend) hsend

end

/-- What becomes of an event is the same from another device, provided that this may be noticed. -/
theorem dispatch (event : DriverEvent) (device : UInt64) (hdevice : D event.device device)
    (hcheck : (host.checkDevice event).Likewise ρ W (host'.checkDevice (event.fromDevice device))) :
    (host.dispatch event).Likewise ρ W (host'.dispatch (event.fromDevice device)) := by
  refine hcheck.andThen fun _ => ?_
  cases event with
  | enrollResult _ id subject remaining => exact h.dispatchEnrollResult hdevice id subject remaining
  | acquired _ info => exact h.dispatchAcquired hdevice info
  | authenticated _ id subject => exact h.dispatchAuthenticated hdevice id subject
  | error _ code => exact h.dispatchError hdevice code
  | removed _ id subject => exact h.dispatchRemoved hdevice id subject
  | enumerate _ ids subjects => exact h.tell _

/-! ## Subjects -/

theorem applySubject (subject : Int32) : (host.applySubject subject).Likewise ρ W (host'.applySubject subject) := by
  have hpath : host'.storagePath subject = host.storagePath subject := by
    rw [Host.storagePath, Host.storagePath, h.setup]
  unfold Host.applySubject
  rw [hpath]
  refine andThen (h.answer (.provideDirectory _) rfl) fun reason => ?_
  cases reason with
  | some reason => exact h.tell _
  | none => exact (h.setActiveSubject _ _).andThen fun _ => result ()

theorem begin (subject : Int32) : (host.begin subject).Likewise ρ W (host'.begin subject) :=
  h.acquire.andThen fun _ => either ((h.tell _).andThen fun _ => h.applySubject subject) (h.applySubject subject)

end Host.Likeness

end Fingerprint
