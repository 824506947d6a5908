import Mathlib.Logic.Relation
import Fingerprint.Proofs.Composition
import Fingerprint.Proofs.Dispatcher

/-!
# What the coordinator does, act by act

Apart from the counting of attempts, whatever the coordinator does is a
sequence of acts: it publishes an event, calls a collaborator, runs a task of a
client, or changes the fields that are its own. The queue, the clock and the
lockout it leaves to others, and the slot for authentications it may empty
without further ado. What it needs leave for is to fill that slot, and to ask
the driver to begin an authentication.

Hence whatever is kept by each act is kept by every operation.

* `Act`, `Acts`;
* `Host.Conducts`: an operation is a sequence of acts;
* `Host.pervasive_conducts`: that goes through composition;
* `Host.conducts_perform`: the tasks that are so.
-/

namespace Fingerprint

variable {ω κ α β : Type}

/-- One thing that the coordinator does. With leave, it may begin an authentication. -/
inductive Act (host : Host ω κ) (leave : Prop) : System ω κ → System ω κ → Prop
  | published (event : Event) (s : System ω κ) :
      Act host leave s { s with world := host.observe event s }
  | called (call : Call) (s : System ω κ) (h : call.isAuthenticate → leave) :
      Act host leave s ((host.answer call).run s).2
  | client (task : κ) (s : System ω κ) : Act host leave s ((host.client task).run s).2
  | changed {s : System ω κ} (slots : Slots) (liveness : Liveness (DeathAction κ))
      (connection : Connection) (nextSession : Nat) (speaker : Option Nat)
      (h : slots.authenticate = s.slots.authenticate ∨ slots.authenticate = none ∨ leave) :
      Act host leave s { s with slots, liveness, connection, nextSession, speaker }

/-- What the coordinator does, one after the other. -/
abbrev Acts (host : Host ω κ) (leave : Prop) : System ω κ → System ω κ → Prop :=
  Relation.ReflTransGen (Act host leave)

variable {host : Host ω κ} {leave : Prop} {s s' : System ω κ}

namespace Acts

/-- No act has to do with the lockout. -/
theorem lockout_eq (record : Record host) (h : Acts host leave s s') : s'.lockout = s.lockout := by
  induction h with
  | refl => rfl
  | @tail s₁ _ _ hact ih =>
    rw [← ih]
    cases hact with
    | published | changed => rfl
    | called call => exact (record.answer call s₁).1.1.lockout_eq
    | client task => exact (record.client task s₁).1.lockout_eq

/-- Without leave the slot for authentications is not filled. -/
theorem slot_eq_none (record : Record host) (h : Acts host leave s s') (hleave : ¬leave)
    (hslot : s.slots.authenticate = none) : s'.slots.authenticate = none := by
  induction h with
  | refl => exact hslot
  | @tail s₁ _ _ hact ih =>
    cases hact with
    | published => exact ih
    | called call =>
      exact (congrArg Slots.authenticate (record.answer call s₁).1.1.slots_eq).trans ih
    | client task => exact (congrArg Slots.authenticate (record.client task s₁).1.slots_eq).trans ih
    | changed slots _ _ _ _ hchange =>
      rcases hchange with hsame | hnone | hchange
      · exact hsame.trans ih
      · exact hnone
      · exact absurd hchange hleave

end Acts

namespace Host

variable (host leave)

/-- Whatever it ends with, an operation is a sequence of acts. -/
def Conducts (op : Op ω κ α) : Prop := ∀ s, Acts host leave s (op.run s).2

variable {host leave} {op : Op ω κ α}

/-! ## Composition -/

theorem conducts_answer {call : Call} (h : call.isAuthenticate → leave) :
    host.Conducts leave (host.answer call) :=
  fun s => .single (.called call s h)

theorem conducts_client (task : κ) : host.Conducts leave (host.client task) :=
  fun s => .single (.client task s)

/-- All that is composed of acts is a sequence of acts. -/
theorem pervasive_conducts : host.Pervasive (host.Conducts leave) (host.Conducts leave) := by
  refine pervasive_follows (fun _ => .refl) .trans (fun event s => .single (.published event s)) (fun h => ?_)
    (fun s connection nextSession speaker _ => ?_) fun s kind x => ?_
  · exact conducts_answer fun hauthenticate => by simp [Call.isAuthenticate_of_isRoutine h] at hauthenticate
  · exact .single (.changed s.slots s.liveness connection nextSession speaker (.inl rfl))
  · refine .single (.changed _ _ s.connection s.nextSession s.speaker ?_)
    cases kind with
    | authenticate => exact .inr (.inl rfl)
    | enroll | remove => exact .inl rfl

/-! ## Slots -/

theorem conducts_register (caller : CallerToken) (onDeath : Option (DeathAction κ)) :
    host.Conducts leave (register caller onDeath : Op ω κ Registration) :=
  follows_register (fun _ => .refl) (fun s liveness =>
    .single (.changed s.slots liveness s.connection s.nextSession s.speaker (.inl rfl))) caller onDeath

/-- Only an authentication needs leave to fill its slot. -/
theorem conducts_slotNew {kind : SessionKind} (hkind : kind = .authenticate → leave)
    (caller : CallerToken) (sink : Option SinkName) (subject : Int32) :
    host.Conducts leave (slotNew kind caller sink subject : Op ω κ Unit) := by
  refine pervasive_conducts.coarse.slotNew (fun _ => conducts_register caller _) fun x s => ?_
  refine .single (.changed (s.slots.set kind (some x)) (releaseSession (s.slots.get kind) s.liveness) s.connection
    s.nextSession s.speaker ?_)
  cases kind with
  | authenticate => exact .inr (.inr (hkind rfl))
  | enroll | remove => exact .inl rfl

/-- An authentication begins with leave. -/
theorem conducts_startAuthentication (hleave : leave) (caller : CallerToken) (sink : Option SinkName)
    (request : AuthenticateRequest) :
    host.Conducts leave (host.startAuthentication caller sink request) :=
  pervasive_conducts.coarse.startAuthentication (conducts_slotNew (fun _ => hleave) _ _ _)
    fun _ => conducts_answer fun _ => hleave

/-- Where authentication is locked, none begins. -/
theorem acts_startAuthentication_of_locked (record : Record host) (hlocked : s.lockout.isLocked host.setup.lockout)
    (caller : CallerToken) (sink : Option SinkName) (request : AuthenticateRequest) :
    Acts host leave s ((host.startAuthentication caller sink request).run s).2 := by
  have hreturns : host.Coarse (Op.Returns (Acts host leave)) (Op.Follows (Acts host leave)) :=
    pervasive_conducts.returns.coarse
  obtain ⟨found, hfound⟩ := hreturns.acquire.ok s
  have hacquire := hreturns.acquire.follows s
  rw [startAuthentication, Op.run_bind_of_ok hfound]
  split
  · exact hacquire.trans (pervasive_conducts.publish _ _)
  · obtain ⟨_, hstopped⟩ := hreturns.stopPendingOperations.ok (host.acquire.run s).2
    have hstop := hreturns.stopPendingOperations.follows (host.acquire.run s).2
    rw [Op.run_bind_of_ok hstopped]
    generalize (host.stopPendingOperations.run (host.acquire.run s).2).2 = s₁ at hstop
    have hacts := hacquire.trans hstop
    have hcheck : (host.isLocked : Op ω κ Bool).run s₁ = (.ok true, s₁) := by
      rw [← hlocked, ← Acts.lockout_eq record hacts]
      rfl
    rw [Op.run_bind, hcheck]
    exact hacts.trans (pervasive_conducts.coarse.refuseLocked _ _ _ s₁)

/-- Between what is done before and after, the result of the active authentication is counted. -/
theorem acts_dispatchAuthenticated (host : Host ω κ) (leave : Prop) {x : Session}
    (hslot : s.slots.authenticate = some x) (device : UInt64) (id : UInt32) (subject : Int32) :
    ∃ s₁ s₂, Acts host leave s s₁ ∧
      (s₂ = (host.recordFailure.run s₁).2 ∨ s₂ = ((recordSuccess : Op ω κ Unit).run s₁).2) ∧
      Acts host leave s₂ ((host.dispatchAuthenticated device id subject).run s).2 := by
  have hpervasive : host.Pervasive (Op.Follows (Acts host leave)) (Op.Follows (Acts host leave)) := pervasive_conducts
  have hconducts := hpervasive.coarse
  have hreturns := hpervasive.returns.coarse
  obtain ⟨outcome, hsent⟩ := (hreturns.send x (.authenticated device id subject)).ok s
  have hsend := (hreturns.send x (.authenticated device id subject)).follows s
  rw [dispatchAuthenticated, Op.run_bind, run_active, Slots.get, hslot]
  dsimp only
  rw [Op.run_bind_of_ok hsent]
  generalize ((host.send x (.authenticated device id subject)).run s).2 = s₁ at hsend
  split
  · obtain ⟨_, hok⟩ := hreturns.feedbackError.ok s₁
    rw [Op.run_bind_of_ok hok]
    refine ⟨_, _, hsend.trans (hreturns.feedbackError.follows s₁), .inl rfl, ?_⟩
    generalize (host.feedbackError.run s₁).2 = s₂
    have hrest (result : LockoutResult) : host.Conducts leave (do
        if result = .entered then
          if x.sink.isNone then
            host.publish (dispatchWarning "lockout_delivery_failed" Message.lockoutDeliveryFailed [])
          else
            let _ ← host.send x (.error device SensorError.lockout.code)
        host.finish x) := by
      refine hconducts.ite (hconducts.ite ?_ ?_) (hconducts.finish x)
      · exact hconducts.bind (hconducts.publish _) fun _ => hconducts.finish x
      · exact hconducts.bind (hconducts.send x _) fun _ => hconducts.finish x
    rw [Op.run_bind]
    rcases host.recordFailure.run s₂ with ⟨fault | result, s₃⟩
    · exact .refl
    · exact hrest result s₃
  · obtain ⟨_, hok⟩ := hreturns.feedbackSuccess.ok s₁
    rw [Op.run_bind_of_ok hok]
    refine ⟨_, _, hsend.trans (hreturns.feedbackSuccess.follows s₁), .inr rfl, ?_⟩
    exact hconducts.finish x _

end Host

/-- Whether the result of the active authentication comes with a task, or the end of a lockout. All else
    leaves the lockout alone. -/
def Task.settles (slots : Slots) : Task κ → Bool
  | driverEvent (.authenticated ..) => slots.authenticate.isSome
  | lockoutExpired => true
  | _ => false

/-- Whether a task may start an authentication, or counts an attempt. -/
def Task.concernsAuthentication : Task κ → Bool
  | startAuthentication .. => true
  | driverEvent (.authenticated ..) => true
  | lockoutExpired => true
  | _ => false

namespace Host

/-- Every other task is a sequence of acts that needs no leave. -/
theorem conducts_perform {task : Task κ} (h : task.concernsAuthentication = false) :
    host.Conducts leave (host.perform task) := by
  refine pervasive_conducts.coarse.perform ?_
  cases task with
  | startAuthentication | lockoutExpired => cases h
  | startEnrollment | startRemove => exact conducts_slotNew nofun _ _ _
  | rename => exact conducts_answer nofun
  | begin | applySubject => exact fun _ => conducts_answer nofun
  | driverEvent event =>
    cases event with
    | authenticated => cases h
    | enrollResult | removed => exact fun _ => conducts_answer nofun
    | acquired | error | enumerate => trivial
  | callerDied => exact pervasive_conducts.coarse.runWatches conducts_client
  | client task => exact conducts_client task
  | cancel | driverDied => trivial

/-- A task that settles nothing is a sequence of acts, and begins an authentication only if that is not
    locked. -/
theorem acts_perform (record : Record host) {task : Task κ} (h : task.settles s.slots = false) :
    Acts host (¬s.lockout.isLocked host.setup.lockout) s ((host.perform task).run s).2 := by
  cases hconcerns : task.concernsAuthentication with
  | false => exact conducts_perform hconcerns s
  | true =>
    cases task with
    | startAuthentication caller sink request =>
      by_cases hlocked : s.lockout.isLocked host.setup.lockout
      · exact acts_startAuthentication_of_locked record hlocked caller sink request
      · exact conducts_startAuthentication hlocked caller sink request s
    | driverEvent event =>
      cases event with
      | authenticated device id subject =>
        -- There is nobody whose attempt it could be.
        obtain ⟨world, hcheck⟩ := host.run_checkDevice (.authenticated device id subject) s
        have hslot : s.slots.authenticate = none := by simpa [Task.settles] using h
        have hrun : (host.perform (.driverEvent (.authenticated device id subject))).run s =
            (host.dispatchAuthenticated device id subject).run { s with world } := by
          change ((host.checkDevice _) >>= _ : Op ω κ Unit).run s = _
          rw [Op.run_bind, hcheck]
        have hacts : host.Conducts (¬s.lockout.isLocked host.setup.lockout) (host.checkDevice _) :=
          pervasive_conducts.coarse.checkDevice (.authenticated device id subject)
        replace hacts := hacts s
        rw [hcheck] at hacts
        rw [hrun, dispatchAuthenticated, Op.run_bind, run_active, Slots.get, hslot]
        exact hacts
      | _ => cases hconcerns
    | lockoutExpired => cases h
    | _ => cases hconcerns

end Host

end Fingerprint
