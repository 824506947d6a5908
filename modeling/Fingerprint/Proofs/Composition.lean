import Fingerprint.Execution
import Fingerprint.Proofs.Queue

/-!
# What operations are composed of

The coordinator does few things of its own: it looks at its state and changes
it, tells observers of events, and asks its collaborators. All else is
composed of these, with faults being caught here and there.

So a property of operations need only be looked at there. There are two, in
fact, as a property may be one of whole operations only, `P`, and what is
caught has less to satisfy, `Q`. Where they are the same, `Q` adds nothing.

What fills a slot is left to whoever uses this: to start a session is more
than any other change of the state.

While the driver is being acquired, the connection is not yet what it will be.
A property that does not hold midway may still be one of what is requested of
the connection as a whole. That is enough for all operations that do not touch
the connection but by such requests.

* `Host.Composable`: the properties that go through composition;
* `Host.Pervasive`: those that hold of all that the coordinator does of its own;
* `Host.Coarse`: those that hold of that, and of what is requested of the connection;
* `Host.pervasive_follows`: the relations that go through composition;
* `Host.Pervasive.returns`: and with them, that operations return;
* `Host.Pervasive.acquire`, `Host.Coarse.stopSession` and the others, one for each operation;
* `Host.Coarse.perform`: what tasks need besides;
* `Host.turn`, `Host.runPending_of_some`, `Host.run_workThrough`: how tasks are run;
* `Host.kept_runPending`, `Host.kept_work`: what is kept by running tasks.
-/

namespace Fingerprint

variable {ω κ : Type}

/-- Whether a driver is asked to begin an authentication. -/
def Call.isAuthenticate : Call → Bool
  | driver _ (.authenticate ..) => true
  | _ => false

/-- Whether the store is asked for a change. -/
def Call.isMutation : Call → Bool
  | storeAdd .. | storeRemove .. | storeRename .. => true
  | _ => false

/-- Whether it is the policy that is asked. -/
def Call.isForPolicy : Call → Bool
  | checkPermission .. | canUseSensor .. => true
  | _ => false

/-- Whether a call may come with many an operation. To begin an authentication, and to change the
    store, belongs to one task each, and the policy is not asked by tasks. -/
def Call.isRoutine (call : Call) : Bool := !call.isAuthenticate && !call.isMutation && !call.isForPolicy

namespace Call

variable {call : Call}

theorem isRoutine_iff : call.isRoutine ↔ call.isAuthenticate = false ∧ call.isMutation = false ∧
    call.isForPolicy = false := by
  simp [isRoutine, and_assoc]

theorem isAuthenticate_of_isRoutine (h : call.isRoutine) : call.isAuthenticate = false := (isRoutine_iff.1 h).1

theorem isMutation_of_isRoutine (h : call.isRoutine) : call.isMutation = false := (isRoutine_iff.1 h).2.1

theorem isForPolicy_of_isRoutine (h : call.isRoutine) : call.isForPolicy = false := (isRoutine_iff.1 h).2.2

end Call

/-- What an operation makes of a state, whatever it ends with, is related to it. -/
def Op.Follows {α : Type} (R : System ω κ → System ω κ → Prop) (op : Op ω κ α) : Prop := ∀ s, R s (op.run s).2

/-- What comes next need only be looked at where what came before has led to. -/
theorem Op.Follows.bind_of {α β : Type} {R : System ω κ → System ω κ → Prop} {op : Op ω κ α} {f : α → Op ω κ β}
    (hop : op.Follows R) (htrans : ∀ {s s' s''}, R s s' → R s' s'' → R s s'')
    (hf : ∀ s a s', op.run s = (.ok a, s') → R s' ((f a).run s').2) : (op >>= f).Follows R := by
  intro s
  have hfirst := hop s
  rw [Op.run_bind]
  rcases hrun : op.run s with ⟨fault | a, s'⟩
  · rwa [hrun] at hfirst
  · rw [hrun] at hfirst
    exact htrans hfirst (hf s a s' hrun)

/-- What the coordinator goes by is the same in two states: all that is its own, but the queue. -/
structure System.Coincide (s s' : System ω κ) : Prop where
  slots : s'.slots = s.slots
  liveness : s'.liveness = s.liveness
  lockout : s'.lockout = s.lockout
  connection : s'.connection = s.connection
  nextSession : s'.nextSession = s.nextSession
  speaker : s'.speaker = s.speaker

/-- To attempt what begins by looking at the state is to look first. -/
theorem Op.attempt_get_bind {α : Type} (f : System ω κ → Op ω κ α) :
    (get >>= f).attempt = get >>= fun s => (f s).attempt := rfl

/-- Properties that operations have by how they are composed: `P` is one of operations, `Q` one of those
    whose faults are caught. -/
structure Host.Composable (host : Host ω κ) (P Q : {α : Type} → Op ω κ α → Prop) : Prop where
  pure {α : Type} (a : α) : P (pure a : Op ω κ α)
  /-- What is done next is a matter of what the coordinator goes by. -/
  look {α : Type} {f : System ω κ → Op ω κ α} (h : ∀ s, P (f s)) (hsame : ∀ s s', s.Coincide s' → f s' = f s) :
    P (get >>= f)
  bind {α β : Type} {op : Op ω κ α} {f : α → Op ω κ β} (h : P op) (hf : ∀ a, P (f a)) : P (op >>= f)
  attempt {α : Type} {op : Op ω κ α} (h : Q op) : P op.attempt
  of_whole {α : Type} {op : Op ω κ α} (h : P op) : Q op
  settle {α : Type} (outcome : Except Fault α) : Q (Op.settle outcome : Op ω κ α)
  andThen {α β : Type} {op : Op ω κ α} {f : α → Op ω κ β} (h : Q op) (hf : ∀ a, Q (f a)) : Q (op >>= f)
  publish (event : Event) : P (host.publish event)
  /-- To begin an authentication is left to whoever starts one, and to change the store to whoever
      tells of a template. -/
  answer {call : Call} (h : call.isRoutine) : Q (host.answer call)

/-- Properties that go through composition and that the connection has as a whole, whatever holds while the
    driver is being acquired. -/
structure Host.Coarse (host : Host ω κ) (P Q : {α : Type} → Op ω κ α → Prop) : Prop
    extends host.Composable P Q where
  acquire : P host.acquire
  setActiveSubject (subject : Int32) (storage : Bytes) : P (host.setActiveSubject subject storage)
  handleDriverDied (generation : Nat) : P (host.handleDriverDied generation)
  changed (nextSession : Nat → Nat) (speaker : Option Nat → Option Nat) :
    P (modify fun s => { s with
      nextSession := nextSession s.nextSession
      speaker := speaker s.speaker } : Op ω κ Unit)
  vacated (kind : SessionKind) (x : Session) :
    P (modify fun s => { s with
      slots := s.slots.set kind none
      liveness := releaseSession (some x) s.liveness } : Op ω κ Unit)

/-- Properties that operations have by what they are composed of: `P` is one of operations, `Q` one of
    those whose faults are caught. -/
structure Host.Pervasive (host : Host ω κ) (P Q : {α : Type} → Op ω κ α → Prop) : Prop
    extends host.Composable P Q where
  /-- A connection lives on through all that is done to it. -/
  changed {connection : Connection → Connection} (h : ∀ c, (connection c).alive = c.alive)
    (nextSession : Nat → Nat) (speaker : Option Nat → Option Nat) :
    P (modify fun s => { s with
      connection := connection s.connection
      nextSession := nextSession s.nextSession
      speaker := speaker s.speaker } : Op ω κ Unit)
  vacated (kind : SessionKind) (x : Session) :
    P (modify fun s => { s with
      slots := s.slots.set kind none
      liveness := releaseSession (some x) s.liveness } : Op ω κ Unit)

section

variable {host : Host ω κ} {R : System ω κ → System ω κ → Prop} (hrefl : ∀ s, R s s)
  (htrans : ∀ {s s' s''}, R s s' → R s' s'' → R s s'')
  (hpublish : ∀ event s, R s { s with world := host.observe event s })
  (hanswer : ∀ {call : Call}, call.isRoutine → (host.answer call).Follows R)

include hrefl htrans hpublish hanswer

/-- A relation goes through composition if it goes through what others do, and from one state to the next. -/
theorem Host.composable_follows : host.Composable (Op.Follows R) (Op.Follows R) where
  pure _ := hrefl
  look h _ s := h s s
  bind hop hf := hop.bind_of htrans fun _ a s' _ => hf a s'
  attempt h := h
  of_whole h := h
  settle outcome s := by
    rw [Op.run_settle]
    exact hrefl s
  andThen hop hf := hop.bind_of htrans fun _ a s' _ => hf a s'
  publish := hpublish
  answer := hanswer

/-- It goes through all operations if it goes through each thing that the coordinator does of its own. -/
theorem Host.pervasive_follows
    (hchanged : ∀ s connection nextSession speaker, connection.alive = s.connection.alive →
      R s { s with connection, nextSession, speaker })
    (hvacated : ∀ s kind x, R s { s with
      slots := s.slots.set kind none
      liveness := releaseSession (some x) s.liveness }) : host.Pervasive (Op.Follows R) (Op.Follows R) where
  toComposable := Host.composable_follows hrefl htrans hpublish hanswer
  changed h _ _ s := hchanged s _ _ _ (h s.connection)
  vacated kind x s := hvacated s kind x

end

theorem Host.run_register (caller : CallerToken) (onDeath : Option (DeathAction κ)) (s : System ω κ) :
    (register caller onDeath : Op ω κ Registration).run s =
      match s.liveness.register caller onDeath with
      | .error error => (.error (.coded error), s)
      | .ok (registration, liveness) => (.ok registration, { s with liveness }) := by
  rw [register, Op.run_get_bind]
  cases s.liveness.register caller onDeath <;> rfl

/-- Somebody is registered, or not. -/
theorem Host.follows_register {R : System ω κ → System ω κ → Prop} (hrefl : ∀ s, R s s)
    (hregistered : ∀ s liveness, R s { s with liveness }) (caller : CallerToken)
    (onDeath : Option (DeathAction κ)) : (register caller onDeath : Op ω κ Registration).Follows R := by
  intro s
  rw [run_register]
  cases s.liveness.register caller onDeath with
  | error error => exact hrefl s
  | ok registered => exact hregistered s registered.2

/-- An operation returns, and what it makes of a state is related to it. -/
structure Op.Returns {α : Type} (R : System ω κ → System ω κ → Prop) (op : Op ω κ α) : Prop where
  follows : op.Follows R
  ok : ∀ s, ∃ a, (op.run s).1 = .ok a

/-- Where faults are caught, operations return. -/
theorem Host.Pervasive.returns {host : Host ω κ} {R : System ω κ → System ω κ → Prop}
    (h : host.Pervasive (Op.Follows R) (Op.Follows R)) : host.Pervasive (Op.Returns R) (Op.Follows R) where
  pure a := ⟨h.pure a, fun _ => ⟨a, rfl⟩⟩
  look hf hsame := ⟨h.look (fun s => (hf s).follows) hsame, fun s => (hf s).ok s⟩
  bind hop hf := by
    refine ⟨h.bind hop.follows fun a => (hf a).follows, fun s => ?_⟩
    obtain ⟨a, ha⟩ := hop.ok s
    rw [Op.run_bind_of_ok ha]
    exact (hf a).ok _
  attempt {_ op} hop := ⟨h.attempt hop, fun s => ⟨(op.run s).1, rfl⟩⟩
  of_whole := Op.Returns.follows
  settle := h.settle
  andThen := h.andThen
  publish event := ⟨h.publish event, fun _ => ⟨(), rfl⟩⟩
  answer := h.answer
  changed hf nextSession speaker := ⟨h.changed hf nextSession speaker, fun _ => ⟨(), rfl⟩⟩
  vacated kind x := ⟨h.vacated kind x, fun _ => ⟨(), rfl⟩⟩

/-- Two properties that go through composition do so together. -/
theorem Host.Pervasive.both {host : Host ω κ} {P Q P' Q' : {α : Type} → Op ω κ α → Prop} (h : host.Pervasive P Q)
    (h' : host.Pervasive P' Q') : host.Pervasive (fun op => P op ∧ P' op) (fun op => Q op ∧ Q' op) where
  pure a := ⟨h.pure a, h'.pure a⟩
  look hf hsame := ⟨h.look (fun s => (hf s).1) hsame, h'.look (fun s => (hf s).2) hsame⟩
  bind hop hf := ⟨h.bind hop.1 fun a => (hf a).1, h'.bind hop.2 fun a => (hf a).2⟩
  attempt hop := ⟨h.attempt hop.1, h'.attempt hop.2⟩
  of_whole hop := ⟨h.of_whole hop.1, h'.of_whole hop.2⟩
  settle outcome := ⟨h.settle outcome, h'.settle outcome⟩
  andThen hop hf := ⟨h.andThen hop.1 fun a => (hf a).1, h'.andThen hop.2 fun a => (hf a).2⟩
  publish event := ⟨h.publish event, h'.publish event⟩
  answer hcall := ⟨h.answer hcall, h'.answer hcall⟩
  changed hf nextSession speaker := ⟨h.changed hf nextSession speaker, h'.changed hf nextSession speaker⟩
  vacated kind x := ⟨h.vacated kind x, h'.vacated kind x⟩

/-- What a task needs beyond what all operations are composed of. -/
def Task.Needs (host : Host ω κ) (P Q : {α : Type} → Op ω κ α → Prop) : Task κ → Prop
  | startEnrollment caller sink request => P (Host.slotNew .enroll caller sink request.subject : Op ω κ Unit)
  | startAuthentication caller sink request =>
    P (Host.slotNew .authenticate caller sink request.subject : Op ω κ Unit) ∧
      ∀ handle, Q (host.driver handle (.authenticate request.operation request.subject))
  | startRemove caller sink request => P (Host.slotNew .remove caller sink request.subject : Op ω κ Unit)
  | rename subject id label => P (host.answer (.storeRename subject id label))
  | begin _ | applySubject _ => ∀ path, P (host.answer (.provideDirectory path))
  | driverEvent (.authenticated ..) => P host.recordFailure ∧ P (Host.recordSuccess : Op ω κ Unit)
  | driverEvent (.enrollResult _ id _ _) => ∀ subject, Q (host.answer (.storeAdd subject id))
  | driverEvent (.removed _ id _) => ∀ subject, Q (host.answer (.storeRemove subject id))
  | callerDied _ => ∀ ids, P (host.runWatches ids)
  | lockoutExpired => P host.lockoutExpired
  | client task => P (host.client task)
  | cancel .. | driverDied _ | driverEvent _ => True

namespace Host.Composable

variable {host : Host ω κ} {P Q : {α : Type} → Op ω κ α → Prop} {α : Type} {op : Op ω κ α}

theorem ite (_ : host.Composable P Q) {c : Prop} [Decidable c] {op op' : Op ω κ α} (hop : P op) (hop' : P op') :
    P (if c then op else op') := by
  split
  · exact hop
  · exact hop'

variable (h : host.Composable P Q)

include h

theorem guarded (operation : Bytes) (hop : Q op) : P (host.guarded operation op) := by
  refine h.bind (h.attempt hop) fun outcome => ?_
  cases outcome with
  | ok reply => exact h.pure _
  | error fault => exact h.bind (h.publish _) fun _ => h.pure _

theorem judge (operation : Bytes) (reply : Except DriverStatus Int) : P (host.judge operation reply) := by
  cases reply with
  | error status => exact h.pure status
  | ok code => exact h.ite (h.pure _) (h.bind (h.publish _) fun _ => h.pure _)

theorem unavailable (operation : Bytes) : P (host.unavailable operation) :=
  h.bind (h.publish _) fun _ => h.pure _

end Host.Composable

namespace Host.Pervasive

variable {host : Host ω κ} {P Q : {α : Type} → Op ω κ α → Prop} (h : host.Pervasive P Q)

include h

/-! ## The connection -/

theorem onConnection {f : Connection → Connection} (hf : ∀ c, (f c).alive = c.alive) :
    P (Host.onConnection f : Op ω κ Unit) :=
  h.changed hf id id

theorem reapply (handle : Handle) : P (host.reapply handle) := by
  refine h.look (fun s => ?_) fun s s' hs => by rw [hs.connection]
  cases s.connection.activeSubject with
  | none => exact h.pure ()
  | some active =>
    have hask : Q (host.driver handle (.setActiveSubject active.subject active.storage)) := h.answer rfl
    refine h.bind ?_ fun status => h.onConnection fun _ => rfl
    exact h.bind (h.guarded _ hask) fun reply => h.judge _ reply

theorem openDevice (handle : Handle) : Q (host.openDevice handle) := by
  have hopen : Q (do
      let device ← host.driver handle .openHal
      Host.onConnection ({ · with device })) :=
    h.andThen (h.answer rfl) fun device => h.of_whole (h.onConnection fun _ => rfl)
  unfold Host.openDevice
  split
  · exact h.andThen (h.answer rfl) fun _ => hopen
  · exact hopen

theorem connect (handle : Handle) (generation : Nat) : P (host.connect handle generation) := by
  refine h.bind (h.attempt (h.answer rfl)) fun outcome => ?_
  cases outcome with
  | error fault => exact h.bind (h.publish _) fun _ => h.pure _
  | ok _ =>
    refine h.bind (h.attempt (h.openDevice handle)) fun outcome => ?_
    cases outcome with
    | error fault =>
      exact h.bind (h.publish _) fun _ => h.bind (h.onConnection fun _ => rfl) fun _ => h.pure _
    | ok _ =>
      refine h.bind (h.onConnection fun _ => rfl) fun _ => ?_
      refine h.look (fun s => ?_) fun s s' hs => by rw [hs.connection]
      have hrest : P (do
          host.publish (connectedEvent generation s.connection.device)
          host.reapply handle
          return true) :=
        h.bind (h.publish _) fun _ => h.bind (h.reapply handle) fun _ => h.pure _
      exact h.ite (h.bind (h.publish _) fun _ => hrest) hrest

theorem acquire : P host.acquire := by
  refine h.look (fun s => ?_) fun s s' hs => by rw [hs.connection]
  cases s.connection.handle with
  | some handle => exact h.pure _
  | none =>
    refine h.ite (h.pure _) (h.bind (h.attempt (h.answer rfl)) fun outcome => ?_)
    rcases outcome with fault | _ | handle
    · exact h.bind (h.publish _) fun _ => h.pure _
    · exact h.pure _
    · refine h.look (fun s => ?_) fun s s' hs => by rw [hs.connection]
      refine h.bind (h.onConnection fun _ => rfl) fun _ => ?_
      refine h.bind (h.connect handle _) fun connected => h.ite ?_ (h.pure _)
      exact h.look (fun s => h.pure _) fun s s' hs => by rw [hs.connection]

theorem setActiveSubject (subject : Int32) (storage : Bytes) : P (host.setActiveSubject subject storage) := by
  have hlast : P (do return (← MonadState.get).connection.lastApplied : Op ω κ DriverStatus) :=
    h.look (fun s => h.pure _) fun s s' hs => by rw [hs.connection]
  refine h.bind (h.onConnection fun _ => rfl) fun _ => ?_
  refine h.look (fun s => ?_) fun s s' hs => by rw [hs.connection]
  cases s.connection.handle with
  | some handle => exact h.bind (h.reapply handle) fun _ => hlast
  | none => exact h.bind h.acquire fun found => h.ite (h.unavailable _) hlast

theorem handleDriverDied (generation : Nat) : P (host.handleDriverDied generation) := by
  refine h.look (fun s => h.ite ?_ (h.pure ())) fun s s' hs => by rw [hs.connection]
  exact h.bind (h.onConnection fun _ => rfl) fun _ => h.publish _

/-- What holds of each step of a request holds of the request. -/
theorem coarse : host.Coarse P Q where
  toComposable := h.toComposable
  acquire := h.acquire
  setActiveSubject := h.setActiveSubject
  handleDriverDied := h.handleDriverDied
  changed nextSession speaker := h.changed (fun _ => rfl) nextSession speaker
  vacated := h.vacated

end Host.Pervasive

namespace Host.Coarse

variable {host : Host ω κ} {P Q : {α : Type} → Op ω κ α → Prop} {α β : Type} {op : Op ω κ α}

section

variable (h : host.Coarse P Q)

include h

/-! ## Requests -/

/-- What the driver is asked is all that matters of a request to it. -/
theorem request (operation : Bytes) {ask : Handle → Op ω κ α} (hask : ∀ handle, Q (ask handle)) :
    P (host.request operation ask) := by
  refine h.bind h.acquire fun found => ?_
  cases found with
  | none => exact h.bind (h.unavailable operation) fun _ => h.pure _
  | some handle => exact h.guarded operation (hask handle)

theorem forward (operation : Bytes) {ask : Handle → Op ω κ Int} (hask : ∀ handle, Q (ask handle)) :
    P (host.forward operation ask) :=
  h.bind (h.request operation hask) fun reply => h.judge operation reply

theorem query (operation : Bytes) {ask : Handle → Op ω κ UInt64} (hask : ∀ handle, Q (ask handle)) :
    P (host.query operation ask) := by
  refine h.bind (h.request operation hask) fun reply => ?_
  cases reply <;> exact h.pure _

theorem driverDied (generation : Nat) : P (host.driverDied generation) :=
  h.look (fun _ => h.ite (h.handleDriverDied generation) (h.pure ())) fun s s' hs => by rw [hs.connection]

theorem onBehalfOf (hop : Q op) (session : Nat) : P (op.onBehalfOf session).attempt := by
  have hspeak (speaker : Option Nat) : Q (modify fun s => { s with speaker } : Op ω κ Unit) :=
    h.of_whole (h.changed id fun _ => speaker)
  rw [Op.onBehalfOf, Op.attempt_get_bind]
  refine h.look (fun s => h.attempt ?_) fun s s' hs => by rw [hs.speaker]
  refine h.andThen (hspeak _) fun _ => h.andThen (h.of_whole (h.attempt hop)) fun result => ?_
  exact h.andThen (hspeak _) fun _ => h.settle result

/-! ## Deliveries -/

theorem deliver (x : Session) (callback : Callback) : P (host.deliver x callback) := by
  unfold Host.deliver
  cases x.sink with
  | none => exact h.pure _
  | some sink =>
    refine h.bind (h.onBehalfOf (h.answer rfl) _) fun outcome => ?_
    cases outcome with
    | ok => exact h.pure _
    | error fault => exact h.bind (h.publish _) fun _ => h.pure _

theorem send (x : Session) (callback : Callback) : P (host.send x callback) :=
  h.bind (h.deliver x callback) fun _ => h.ite (h.pure _) (h.pure _)

theorem sendError (x : Session) (error : SensorError) : P (host.sendError x error) :=
  h.look (fun _ => h.bind (h.send x _) fun _ => h.pure _) fun s s' hs => by rw [hs.connection]

/-! ## Sessions -/

theorem active (kind : SessionKind) : P (Host.active kind : Op ω κ (Option Session)) :=
  h.look (fun _ => h.pure _) fun s s' hs => by rw [hs.slots]

theorem freshSession : P (Host.freshSession : Op ω κ Nat) := by
  refine h.look (fun s => ?_) fun s s' hs => by rw [hs.nextSession]
  exact h.bind (h.changed (fun _ => s.nextSession + 1) id) fun _ => h.pure _

theorem removeSession (kind : SessionKind) (id : Nat) : P (host.removeSession kind id) := by
  refine h.look (fun s => ?_) fun s s' hs => by rw [hs.slots]
  cases s.slots.get kind with
  | none => exact h.pure ()
  | some x => exact h.ite (h.bind (h.vacated kind x) fun _ => h.publish _) (h.pure ())

theorem cancelDriver (kind : SessionKind) : P (host.cancelDriver kind) := by
  cases kind with
  | enroll | authenticate => exact h.bind (h.forward _ fun _ => h.answer rfl) fun _ => h.pure _
  | remove => exact h.pure ()

theorem stopSession (kind : SessionKind) (caller : CallerToken) (notify : Bool) :
    P (host.stopSession kind caller notify) := by
  refine h.bind (h.active kind) fun found => ?_
  cases found with
  | none => exact h.pure _
  | some x =>
    have hremove : P (do
        host.removeSession kind x.id
        return true) :=
      h.bind (h.removeSession kind x.id) fun _ => h.pure _
    refine h.ite (h.pure _) (h.bind h.acquire fun found => ?_)
    refine h.ite (h.bind (h.publish _) fun _ => h.pure _) (h.bind (h.cancelDriver kind) fun _ => ?_)
    exact h.ite (h.bind (h.sendError x _) fun _ => hremove) hremove

theorem dismissRemove (x : Session) : P (host.dismissRemove x) :=
  h.bind (h.sendError x _) fun _ => h.removeSession _ _

theorem cancel (kind : SessionKind) (caller : CallerToken) : P (host.cancel kind caller) := by
  cases kind with
  | enroll | authenticate => exact h.bind (h.stopSession _ _ _) fun _ => h.pure _
  | remove =>
    refine h.bind (h.active _) fun found => ?_
    cases found with
    | none => exact h.pure ()
    | some x => exact h.ite (h.dismissRemove x) (h.pure ())

theorem preempt (kind : SessionKind) : P (host.preempt kind) := by
  refine h.bind (h.active kind) fun found => ?_
  cases found with
  | none => exact h.pure ()
  | some x => exact h.bind (h.stopSession _ _ _) fun _ => h.pure _

theorem stopPendingOperations : P host.stopPendingOperations :=
  h.bind (h.preempt _) fun _ => h.preempt _

/-! ## Starts -/

theorem handleStartRejected (kind : SessionKind) (status : DriverStatus) :
    P (host.handleStartRejected kind status) := by
  refine h.bind (h.active kind) fun found => ?_
  cases found with
  | none => exact h.pure ()
  | some x =>
    refine h.bind (h.publish _) fun _ => h.ite ?_ (h.pure ())
    exact h.bind (h.sendError x _) fun _ => h.removeSession _ _

/-- Apart from the slot, it is what the driver is asked that matters of a start. -/
theorem launch {kind : SessionKind} {message : Bytes} {caller : CallerToken} {sink : Option SinkName}
    {subject : Int32} {ask : Op ω κ DriverStatus} (hslot : P (slotNew kind caller sink subject : Op ω κ Unit))
    (hask : P ask) : P (host.launch kind message caller sink subject ask) := by
  refine h.bind hslot fun _ => h.bind (h.publish _) fun _ => h.bind hask fun status => ?_
  exact h.ite (h.handleStartRejected _ _) (h.pure ())

theorem startEnrollment {caller : CallerToken} {sink : Option SinkName} {request : EnrollRequest}
    (hslot : P (slotNew .enroll caller sink request.subject : Op ω κ Unit)) :
    P (host.startEnrollment caller sink request) := by
  refine h.bind h.acquire fun found => h.ite (h.publish _) (h.bind h.stopPendingOperations fun _ => ?_)
  exact h.launch hslot (h.forward _ fun _ => h.answer rfl)

theorem refuseLocked (caller : CallerToken) (sink : Option SinkName) (subject : Int32) :
    P (host.refuseLocked caller sink subject) := by
  refine h.bind h.freshSession fun id => h.bind (h.publish _) fun _ => ?_
  exact h.ite (h.publish _) (h.sendError _ _)

theorem startAuthentication {caller : CallerToken} {sink : Option SinkName} {request : AuthenticateRequest}
    (hslot : P (slotNew .authenticate caller sink request.subject : Op ω κ Unit))
    (hask : ∀ handle, Q (host.driver handle (.authenticate request.operation request.subject))) :
    P (host.startAuthentication caller sink request) := by
  refine h.bind h.acquire fun found => h.ite (h.publish _) (h.bind h.stopPendingOperations fun _ => ?_)
  have hlocked : P host.isLocked := h.look (fun _ => h.pure _) fun s s' hs => by rw [hs.lockout]
  refine h.bind hlocked fun locked => ?_
  exact h.ite (h.refuseLocked _ _ _) (h.launch hslot (h.forward _ hask))

theorem startRemove {caller : CallerToken} {sink : Option SinkName} {request : RemoveRequest}
    (hslot : P (slotNew .remove caller sink request.subject : Op ω κ Unit)) :
    P (host.startRemove caller sink request) := by
  have hlaunch : P (host.launch .remove "Removal started" caller sink request.subject
      (host.beginRemove request.id request.subject)) :=
    h.launch hslot (h.forward _ fun _ => h.answer rfl)
  refine h.bind h.acquire fun found => h.ite (h.publish _) (h.bind (h.active _) fun found => ?_)
  cases found with
  | none => exact hlaunch
  | some x => exact h.bind (h.dismissRemove x) fun _ => hlaunch

/-! ## Death of callers -/

theorem endSession (kind : SessionKind) (id : Nat) : P (host.endSession kind id) := by
  refine h.bind (h.active kind) fun found => ?_
  cases found with
  | none => exact h.pure ()
  | some x => exact h.ite (h.bind (h.publish _) fun _ => h.removeSession kind id) (h.pure ())

theorem runDeathAction (hclient : ∀ task, P (host.client task)) (action : DeathAction κ) :
    P (host.runDeathAction action) := by
  cases action with
  | client task => exact hclient task
  | endSession kind id => exact h.endSession kind id

/-- What is done at a death is done one after the other. -/
theorem runWatches (hclient : ∀ task, P (host.client task)) (ids : List Nat) : P (host.runWatches ids) := by
  induction ids with
  | nil => exact h.pure ()
  | cons id rest ih =>
    refine h.look (fun s => ?_) fun s s' hs => by rw [hs.liveness]
    cases s.liveness.find? id with
    | none => exact ih
    | some watch =>
      cases hdeath : watch.onDeath with
      | none =>
        simp only [hdeath]
        exact ih
      | some action =>
        simp only [hdeath]
        exact h.bind (h.runDeathAction hclient action) fun _ => ih

theorem callerDied (hwatches : ∀ ids, P (host.runWatches ids)) (caller : CallerToken) :
    P (host.callerDied caller) :=
  h.look (fun _ => h.ite (h.bind (h.publish _) fun _ => hwatches _) (h.pure ()))
    fun s s' hs => by rw [hs.liveness]

/-! ## Events of the driver -/

theorem checkDevice (event : DriverEvent) : P (host.checkDevice event) :=
  h.look (fun _ => h.ite (h.publish _) (h.pure ())) fun s s' hs => by rw [hs.connection]

theorem bestEffort {request : Op ω κ Unit} (hrequest : Q request) (id : Bytes) (fields : List Field) :
    P (host.bestEffort request id fields) := by
  refine h.bind (h.attempt hrequest) fun outcome => ?_
  cases outcome with
  | ok => exact h.pure ()
  | error fault => exact h.publish _

theorem addTemplate {subject : Int32} {id : UInt32} (hadd : Q (host.answer (.storeAdd subject id))) :
    P (host.addTemplate subject id) :=
  h.ite (h.bestEffort hadd _ _) (h.pure ())

theorem removeTemplate {subject : Int32} {id : UInt32} (hremove : Q (host.answer (.storeRemove subject id))) :
    P (host.removeTemplate subject id) :=
  h.ite (h.bestEffort hremove _ _) (h.pure ())

theorem feedbackSuccess : P host.feedbackSuccess := h.ite (h.bestEffort (h.answer rfl) _ _) (h.pure ())

theorem feedbackError : P host.feedbackError := h.ite (h.bestEffort (h.answer rfl) _ _) (h.pure ())

theorem finish (x : Session) : P (host.finish x) :=
  h.bind (h.stopSession _ _ _) fun _ => h.ite (h.removeSession _ _) (h.pure ())

/-- A template is added for the subject of the session. -/
theorem dispatchEnrollResult {id : UInt32} (hadd : ∀ subject, Q (host.answer (.storeAdd subject id)))
    (device : UInt64) (subject remaining : Int32) :
    P (host.dispatchEnrollResult device id subject remaining) := by
  refine h.bind (h.active _) fun found => ?_
  cases found with
  | none => exact h.pure ()
  | some x =>
    have hend (outcome : SessionOutcome) : P (
        if outcome = .done then
          if remaining = 0 then host.removeSession .enroll x.id else host.finish x
        else Pure.pure ()) :=
      h.ite (h.ite (h.removeSession _ _) (h.finish x)) (h.pure ())
    have hsend : P (do
        let outcome ← host.send x (.enrollResult device id subject remaining)
        if remaining = 0 then host.addTemplate x.subject id
        if outcome = .done then
          if remaining = 0 then host.removeSession .enroll x.id else host.finish x) :=
      h.bind (h.send x _) fun outcome =>
        h.ite (h.bind (h.addTemplate (hadd _)) fun _ => hend outcome) (hend outcome)
    exact h.ite (h.bind h.feedbackSuccess fun _ => hsend) hsend

theorem deliverAcquired (x : Session) (device : UInt64) (info : Int32) :
    P (host.deliverAcquired x device info) :=
  h.bind (h.send x _) fun _ => h.ite (h.removeSession _ _) (h.pure ())

theorem dispatchAcquired (device : UInt64) (info : Int32) : P (host.dispatchAcquired device info) := by
  refine h.bind (h.active _) fun found => ?_
  cases found with
  | some x => exact h.deliverAcquired x device info
  | none =>
    refine h.bind (h.active _) fun found => ?_
    cases found with
    | some x => exact h.deliverAcquired x device info
    | none => exact h.pure ()

/-- An attempt that has come to its result is counted. -/
theorem dispatchAuthenticated (hfailure : P host.recordFailure) (hsuccess : P (recordSuccess : Op ω κ Unit))
    (device : UInt64) (id : UInt32) (subject : Int32) : P (host.dispatchAuthenticated device id subject) := by
  refine h.bind (h.active _) fun found => ?_
  cases found with
  | none => exact h.pure ()
  | some x =>
    refine h.bind (h.send x _) fun _ => h.ite ?_ ?_
    · refine h.bind h.feedbackError fun _ => h.bind hfailure fun result => ?_
      refine h.ite (h.ite ?_ ?_) (h.finish x)
      · exact h.bind (h.publish _) fun _ => h.finish x
      · exact h.bind (h.send x _) fun _ => h.finish x
    · exact h.bind h.feedbackSuccess fun _ => h.bind hsuccess fun _ => h.finish x

theorem dispatchError (device : UInt64) (code : Int32) : P (host.dispatchError device code) := by
  refine h.bind (h.active _) fun found => ?_
  cases found with
  | some x => exact h.bind (h.send x _) fun _ => h.finish x
  | none =>
    refine h.bind (h.active _) fun found => ?_
    cases found with
    | some x => exact h.bind (h.send x _) fun _ => h.finish x
    | none =>
      refine h.bind (h.active _) fun found => ?_
      cases found with
      | some x => exact h.bind (h.send x _) fun _ => h.removeSession _ _
      | none => exact h.pure ()

/-- A template is removed for the subject of the session or, if there is none, of the event. -/
theorem dispatchRemoved {id : UInt32} (hremove : ∀ subject, Q (host.answer (.storeRemove subject id)))
    (device : UInt64) (subject : Int32) : P (host.dispatchRemoved device id subject) := by
  refine h.bind (h.active _) fun found => ?_
  cases found with
  | none => exact h.ite (h.bind (h.removeTemplate (hremove _)) fun _ => h.pure ()) (h.pure ())
  | some x =>
    have hsend : P (do
        if (← host.send x (.removed device id subject)) = .done then
          host.removeSession .remove x.id) :=
      h.bind (h.send x _) fun _ => h.ite (h.removeSession _ _) (h.pure ())
    exact h.ite (h.bind (h.removeTemplate (hremove _)) fun _ => hsend) hsend

theorem dispatch {event : DriverEvent} (hneeds : (Task.driverEvent event : Task κ).Needs host P Q) :
    P (host.dispatch event) := by
  refine h.bind (h.checkDevice event) fun _ => ?_
  cases event with
  | enrollResult device id subject remaining => exact h.dispatchEnrollResult hneeds device subject remaining
  | acquired device info => exact h.dispatchAcquired device info
  | authenticated device id subject => exact h.dispatchAuthenticated hneeds.1 hneeds.2 device id subject
  | error device code => exact h.dispatchError device code
  | removed device id subject => exact h.dispatchRemoved hneeds device subject
  | enumerate device ids subjects => exact h.publish _

/-! ## Subjects -/

theorem applySubject (hprovide : ∀ path, P (host.answer (.provideDirectory path))) (subject : Int32) :
    P (host.applySubject subject) := by
  refine h.bind (hprovide _) fun reason => ?_
  cases reason with
  | some reason => exact h.publish _
  | none => exact h.bind (h.setActiveSubject _ _) fun _ => h.pure ()

theorem begin (hprovide : ∀ path, P (host.answer (.provideDirectory path))) (subject : Int32) :
    P (host.begin subject) :=
  h.bind h.acquire fun _ =>
    h.ite (h.bind (h.publish _) fun _ => h.applySubject hprovide subject) (h.applySubject hprovide subject)

/-! ## Tasks -/

theorem perform {task : Task κ} (hneeds : task.Needs host P Q) : P (host.perform task) := by
  cases task with
  | startEnrollment caller sink request => exact h.startEnrollment hneeds
  | startAuthentication caller sink request => exact h.startAuthentication hneeds.1 hneeds.2
  | startRemove caller sink request => exact h.startRemove hneeds
  | cancel kind caller => exact h.cancel kind caller
  | rename subject id label => exact h.ite hneeds (h.pure ())
  | begin subject => exact h.begin hneeds subject
  | applySubject subject => exact h.applySubject hneeds subject
  | driverEvent event => exact h.dispatch hneeds
  | callerDied caller => exact h.callerDied hneeds caller
  | driverDied generation => exact h.driverDied generation
  | lockoutExpired => exact hneeds
  | client task => exact hneeds

end

/-- Of a new session it is how it is registered, and how the slot is filled, that matters. -/
theorem slotNew (h : host.Coarse P Q) {kind : SessionKind} {caller : CallerToken} {sink : Option SinkName}
    {subject : Int32}
    (hregister : ∀ id, P (register caller (some (.endSession kind id)) : Op ω κ Registration))
    (hfilled : ∀ x : Session, P (modify fun s => { s with
      slots := s.slots.set kind (some x)
      liveness := releaseSession (s.slots.get kind) s.liveness } : Op ω κ Unit)) :
    P (Host.slotNew kind caller sink subject : Op ω κ Unit) := by
  refine h.bind h.freshSession fun id => h.bind (hregister id) fun registration => ?_
  exact hfilled ⟨id, kind, caller, sink, subject, registration⟩

theorem runTask (h : host.Coarse P Q) {task : Task κ} (hperform : P (host.perform task)) :
    P (host.runTask task) := by
  refine h.bind (h.attempt (h.of_whole hperform)) fun outcome => ?_
  cases outcome with
  | ok => exact h.pure ()
  | error fault => exact h.publish _

/-- What all that tasks are made of has, each task has but the one of the lockout's timer. The policy is
    not asked by tasks. -/
theorem perform_of_ne_expired (h : host.Coarse P P)
    (hanswer : ∀ {call : Call}, call.isForPolicy = false → P (host.answer call))
    (hslot : ∀ kind caller sink subject, P (Host.slotNew kind caller sink subject : Op ω κ Unit))
    (hfailure : P host.recordFailure) (hsuccess : P (recordSuccess : Op ω κ Unit))
    (hclient : ∀ task, P (host.client task)) {task : Task κ} (htask : task ≠ .lockoutExpired) :
    P (host.perform task) := by
  refine h.perform ?_
  cases task with
  | startEnrollment | startRemove => exact hslot _ _ _ _
  | startAuthentication => exact ⟨hslot _ _ _ _, fun _ => hanswer rfl⟩
  | rename => exact hanswer rfl
  | begin | applySubject => exact fun _ => hanswer rfl
  | driverEvent event =>
    cases event with
    | authenticated => exact ⟨hfailure, hsuccess⟩
    | enrollResult | removed => exact fun _ => hanswer rfl
    | acquired | error | enumerate => trivial
  | callerDied => exact h.runWatches hclient
  | lockoutExpired => exact absurd rfl htask
  | client task => exact hclient task
  | cancel | driverDied => trivial

/-- With that of the timer, each task has it. -/
theorem perform_of_all (h : host.Coarse P P)
    (hanswer : ∀ {call : Call}, call.isForPolicy = false → P (host.answer call))
    (hslot : ∀ kind caller sink subject, P (Host.slotNew kind caller sink subject : Op ω κ Unit))
    (hfailure : P host.recordFailure) (hsuccess : P (recordSuccess : Op ω κ Unit)) (hexpired : P host.lockoutExpired)
    (hclient : ∀ task, P (host.client task)) (task : Task κ) : P (host.perform task) := by
  by_cases htask : task = .lockoutExpired
  · rw [htask]
    exact hexpired
  · exact h.perform_of_ne_expired hanswer hslot hfailure hsuccess hclient htask

end Host.Coarse

/-! ## Running tasks -/

namespace Host

/-- A task has its turn, with the running thread marked meanwhile. -/
def turn (host : Host ω κ) (s : System ω κ) (task : Task κ) : System ω κ :=
  host.engine.mark none (host.engine.run task (host.engine.mark (some s.thread) s))

section

variable {host : Host ω κ} {s : System ω κ} {queue : TaskQueue (Task κ)}

theorem runPending_of_stopping (hstopping : s.queue.stopping = true) (room : Nat) :
    host.engine.runPending (room + 1) s = (0, s) := by
  rw [Engine.runPending]
  exact if_pos hstopping

theorem runPending_of_none (hstopping : s.queue.stopping = false) (hpop : s.queue.pop s.clock = (none, queue))
    (room : Nat) : host.engine.runPending (room + 1) s = (0, { s with queue }) := by
  rw [Engine.runPending, if_neg (by simp [Host.engine, hstopping]),
    show (host.engine.queue s).pop (host.engine.now s) = (none, queue) from hpop]
  rfl

/-- The next task has its turn, and then the others have. -/
theorem runPending_of_some (hstopping : s.queue.stopping = false) {task : Task κ}
    (hpop : s.queue.pop s.clock = (some task, queue)) (room : Nat) :
    host.engine.runPending (room + 1) s =
      let rest := host.engine.runPending room (host.turn { s with queue } task)
      (rest.1 + 1, rest.2) := by
  rw [Engine.runPending, if_neg (by simp [Host.engine, hstopping]),
    show (host.engine.queue s).pop (host.engine.now s) = (some task, queue) from hpop]
  rfl

/-- The queue's own thread runs what is due, and then the other one goes on. -/
theorem run_workThrough (hrunning : s.queue.running = true) (room : Nat) :
    (host.workThrough room).run s =
      (.ok (), { host.engine.work room { s with thread := .worker } with thread := s.thread }) := by
  rw [workThrough, Op.run_get_bind, if_pos hrunning]
  rfl

end

variable {host : Host ω κ} {P : System ω κ → Prop}
  (hmark : ∀ thread s, P s → P (host.engine.mark thread s))
  (hidle : ∀ {s queue}, s.queue.pop s.clock = (none, queue) → P s → P { s with queue })
  (htaken : ∀ {s task queue}, s.queue.pop s.clock = (some task, queue) → P s →
    P (host.engine.run task { s with queue }))

include hmark hidle htaken

/-- What is kept by every task that is taken off the queue is kept by running all that is due. -/
theorem kept_runPending (room : Nat) {s : System ω κ} (hs : P s) : P (host.engine.runPending room s).2 := by
  induction room generalizing s with
  | zero => exact hs
  | succ room ih =>
    rw [Engine.runPending]
    split
    · exact hs
    · split
      · next hpop => exact hidle hpop hs
      · next task queue hpop =>
        -- The thread may as well be marked before the task is taken.
        have hrun := htaken (TaskQueue.pop_mark (some s.thread) hpop) (hmark (some s.thread) s hs)
        exact ih (hmark none _ hrun)

theorem kept_work (room : Nat) {s : System ω κ} (hs : P s) : P (host.engine.work room s) := by
  induction room generalizing s with
  | zero => exact hs
  | succ room ih =>
    rw [Engine.work]
    split
    · exact hmark none s hs
    · split
      · next hpop => exact hidle hpop hs
      · next task queue hpop => exact ih (htaken hpop hs)

end Host

end Fingerprint
