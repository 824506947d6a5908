import Fingerprint.Proofs.Composition
import Fingerprint.Proofs.Gate

/-!
# How the coordinator is used

From outside, the coordinator is used in a few ways only: by what callers ask of
the service, by what the driver and the machine tell, by the start and the stop
of the service, and by those who run what is on the queue.

What is common to all of them is what they are made of: tasks that are
performed, calls and events that concern no session, tasks that are put on the
queue, and the keeping of the queue and its threads. So a relation between
states that goes through these goes through every use. Nobody puts a start for
nobody on the queue, as the gate of the service sees to it.

* `Host.Use`: the ways in which the coordinator is used;
* `Host.Passes`: the relations that go through the gate of the service;
* `Host.Carries`: the relations that go through all that uses are made of;
* `Host.Carries.follows_use`: then they go through every use.
-/

namespace Fingerprint

variable {ω κ : Type}

/-- Nothing that is to be started is started for nobody. -/
def Task.Named : Task κ → Prop
  | startEnrollment caller .. | startAuthentication caller .. | startRemove caller .. => caller ≠ 0
  | _ => True

/-- Whether a call is one that the service makes itself: the policy is asked, or what the store holds. -/
def Call.isEnquiry : Call → Bool
  | checkPermission .. | canUseSensor .. | storeList _ => true
  | _ => false

theorem Call.isForSession_of_isEnquiry {call : Call} (h : call.isEnquiry) : call.isForSession = false := by
  cases call <;> first | rfl | cases h

theorem Call.isMutation_of_isEnquiry {call : Call} (h : call.isEnquiry) : call.isMutation = false := by
  cases call <;> first | rfl | cases h

namespace Host

/-- The ways in which the coordinator is used. -/
inductive Use (host : Host ω κ) : {α : Type} → Op ω κ α → Prop
  | served (call : ServiceCall) : Use host (host.serve call)
  | reported (event : DriverEvent) : Use host (report event)
  | linkDied (generation : Nat) : Use host (driverLinkDied generation)
  | callerDied (caller : CallerToken) : Use host (notifyCallerDied caller)
  | subjectChanged (subject : Int32) : Use host (activeSubjectChanged subject)
  | started (subject : Int32) : Use host (host.startService subject)
  | stopped : Use host stopService
  | ranPending : Use host host.runPending
  | worked : Use host host.work

/-- A relation that goes through what the service does itself. -/
structure Passes (host : Host ω κ) (R : System ω κ → System ω κ → Prop) : Prop where
  refl (s : System ω κ) : R s s
  trans {s s' s'' : System ω κ} (h : R s s') (h' : R s' s'') : R s s''
  published {event : Event} (h : event.isAside) (s : System ω κ) : R s { s with world := host.observe event s }
  answered {call : Call} (h : call.isEnquiry) : (host.answer call).Follows R

/-- A relation that goes through whatever the coordinator is used for. -/
structure Carries (host : Host ω κ) (R : System ω κ → System ω κ → Prop) : Prop extends host.Passes R where
  performed (task : Task κ) : (host.perform task).Follows R
  preEnroll : host.preEnroll.Follows R
  authenticatorId : host.authenticatorId.Follows R
  posted {task : Task κ} (h : task.Named) : (Op.post task : Op ω κ Unit).Follows R
  /-- No task is added to the queue. -/
  managed (s : System ω κ) {queue : TaskQueue (Task κ)} (thread : Thread) (detached : Bool)
    (h : queue.tasks ⊆ s.queue.tasks) : R s { s with queue, thread, detached }
  stranded (s : System ω κ) : R s { s with stranded := true }

namespace Passes

variable {host : Host ω κ} {R : System ω κ → System ω κ → Prop} {α β : Type} {op : Op ω κ α}

theorem ite (_ : host.Passes R) {c : Prop} [Decidable c] {op op' : Op ω κ α} (hop : op.Follows R)
    (hop' : op'.Follows R) : (if c then op else op').Follows R := by
  split
  · exact hop
  · exact hop'

variable (h : host.Passes R)

include h

/-! ## Composition -/

theorem pure (a : α) : (Pure.pure a : Op ω κ α).Follows R := fun s => h.refl s

theorem throw (fault : Fault) : (MonadExcept.throw fault : Op ω κ α).Follows R := fun s => h.refl s

theorem settle (outcome : Except Fault α) : (Op.settle outcome : Op ω κ α).Follows R := by
  intro s
  rw [Op.run_settle]
  exact h.refl s

theorem bind {f : α → Op ω κ β} (hop : op.Follows R) (hf : ∀ a, (f a).Follows R) : (op >>= f).Follows R :=
  hop.bind_of h.trans fun _ a s' _ => hf a s'

/-- A fault that is caught does not matter. -/
theorem attempt_bind {f : Except Fault α → Op ω κ β} (hop : op.Follows R) (hf : ∀ outcome, (f outcome).Follows R) :
    (op.attempt >>= f).Follows R := by
  have hattempt : op.attempt.Follows R := hop
  exact h.bind hattempt hf

theorem get_bind {f : System ω κ → Op ω κ β} (hf : ∀ s, (f s).Follows R) : (get >>= f).Follows R :=
  h.bind (fun s => h.refl s) hf

theorem publish {event : Event} (hevent : event.isAside) : (host.publish event).Follows R :=
  fun s => h.published hevent s

/-! ## Requests to a driver -/

theorem guarded (operation : Bytes) {request : Op ω κ α} (hrequest : request.Follows R) :
    (host.guarded operation request).Follows R := by
  refine h.attempt_bind hrequest fun outcome => ?_
  cases outcome with
  | ok reply => exact h.pure _
  | error fault => exact h.bind (h.publish rfl) fun _ => h.pure _

theorem judge (operation : Bytes) (reply : Except DriverStatus Int) : (host.judge operation reply).Follows R := by
  cases reply with
  | error status => exact h.pure status
  | ok code => exact h.ite (h.pure _) (h.bind (h.publish rfl) fun _ => h.pure _)

/-! ## The gate -/

theorem checkPermission (caller : CallerToken) (permission : Permission) :
    (host.checkPermission caller permission).Follows R := by
  refine h.ite (h.bind (h.throw _) fun _ => ?_) ?_
  -- What comes after the first gate is the same on either way past it.
  all_goals
    refine h.attempt_bind (h.answered rfl) fun outcome => ?_
    rcases outcome with (error | message) | _
    · exact h.bind (h.publish rfl) fun _ => h.throw _
    · exact h.bind (h.pure ()) fun _ => h.throw _
    · exact h.pure ()

theorem gate (call : ServiceCall) : (host.gate call).Follows R := by
  have hconsult : (host.consult call).Follows R := by
    unfold consult
    split
    · refine h.bind (h.checkPermission _ _) fun _ => h.bind (h.answered rfl) fun allowed => ?_
      exact h.ite (h.pure true) (h.bind (h.publish rfl) fun _ => h.pure false)
    · exact h.bind (h.checkPermission _ _) fun _ => h.pure true
  refine h.bind hconsult fun admitted => h.ite (h.bind ?_ fun _ => h.pure _) (h.pure _)
  exact h.ite (h.throw _) (h.pure ())

theorem listTemplates (subject : Int32) : (host.listTemplates subject).Follows R :=
  h.ite (h.pure []) (h.answered rfl)

/-- What is behind the gate comes down to what is posted and what is waited for. It starts nothing for
    nobody, if nobody is not let in. -/
theorem execute (hposted : ∀ {task : Task κ}, task.Named → (Op.post task : Op ω κ Unit).Follows R)
    (hwaited : ∀ {α : Type} {op : Op ω κ α}, op.Follows R → (host.invoke op).Follows R)
    (hpreEnroll : host.preEnroll.Follows R) (hauthenticatorId : host.authenticatorId.Follows R) (call : ServiceCall)
    (hcaller : call.needsSomebody = true → call.caller ≠ 0) : (host.execute call).Follows R := by
  cases call with
  | preEnroll => exact hwaited hpreEnroll
  | enroll | authenticate | remove => exact hposted (hcaller rfl)
  | cancelEnrollment | cancelAuthentication | rename => exact hposted trivial
  | isHardwareDetected => exact hwaited (h.get_bind fun _ => h.pure _)
  | enrolledTemplates => exact h.listTemplates _
  | hasEnrolledTemplates => exact h.bind (h.listTemplates _) fun _ => h.pure _
  | authenticatorId => exact hwaited hauthenticatorId

theorem follows_serve (hposted : ∀ {task : Task κ}, task.Named → (Op.post task : Op ω κ Unit).Follows R)
    (hwaited : ∀ {α : Type} {op : Op ω κ α}, op.Follows R → (host.invoke op).Follows R)
    (hpreEnroll : host.preEnroll.Follows R) (hauthenticatorId : host.authenticatorId.Follows R) (call : ServiceCall) :
    (host.serve call).Follows R := by
  rw [serve_eq]
  refine (h.gate call).bind_of h.trans fun s admitted s' hgate => ?_
  cases admitted with
  | false => exact h.refl s'
  | true =>
    exact h.execute hposted hwaited hpreEnroll hauthenticatorId call (caller_ne_zero_of_gate host hgate) s'

end Passes

namespace Carries

variable {host : Host ω κ} {R : System ω κ → System ω κ → Prop} {α : Type} {op : Op ω κ α} {s s' : System ω κ}
  (h : host.Carries R)

include h

/-! ## Running tasks -/

/-- Whoever does no more to the queue than to take tasks off keeps it. -/
theorem onQueue {f : TaskQueue (Task κ) → TaskQueue (Task κ)} (hf : ∀ q, (f q).tasks ⊆ q.tasks) :
    (Op.onQueue f : Op ω κ Unit).Follows R :=
  fun s => h.managed s s.thread s.detached (hf s.queue)

theorem onThread (hop : op.Follows R) (thread : Thread) : (op.onThread thread).Follows R := by
  have hthread (thread : Thread) : (modify fun s => { s with thread } : Op ω κ Unit).Follows R :=
    fun s => h.managed s thread s.detached (List.Subset.refl _)
  refine h.get_bind fun s => h.bind (hthread _) fun _ => h.attempt_bind hop fun outcome => ?_
  exact h.bind (hthread _) fun _ => h.settle outcome

theorem runTask (task : Task κ) : (host.runTask task).Follows R := by
  refine h.attempt_bind (h.performed task) fun outcome => ?_
  cases outcome with
  | ok => exact h.pure ()
  | error fault => exact h.publish rfl

theorem mark (thread : Option Thread) (hs : R s s') : R s (host.engine.mark thread s') :=
  h.trans hs (h.managed s' s'.thread s'.detached (List.Subset.refl _))

theorem idle {queue : TaskQueue (Task κ)} (hpop : s'.queue.pop s'.clock = (none, queue)) (hs : R s s') :
    R s { s' with queue } :=
  h.trans hs (h.managed s' s'.thread s'.detached (TaskQueue.tasks_subset_of_pop hpop))

theorem taken {task : Task κ} {queue : TaskQueue (Task κ)} (hpop : s'.queue.pop s'.clock = (some task, queue))
    (hs : R s s') : R s (host.engine.run task { s' with queue }) :=
  h.trans (h.trans hs (h.managed s' s'.thread s'.detached (TaskQueue.tasks_subset_of_pop hpop)))
    (h.runTask task _)

theorem runPending : host.runPending.Follows R := fun s =>
  kept_runPending (fun thread _ => h.mark thread) h.idle h.taken host.patience (h.refl s)

theorem workThrough (room : Nat) : (host.workThrough room).Follows R := by
  refine h.get_bind fun s => h.ite (h.onThread ?_ .worker) (h.pure ())
  exact fun s => kept_work (fun thread _ => h.mark thread) h.idle h.taken room (h.refl s)

theorem endIfStopped : (Host.endIfStopped : Op ω κ Unit).Follows R :=
  h.onQueue fun q => by split <;> exact List.Subset.refl _

theorem lend (hop : op.Follows R) : (Host.lend op).Follows R := by
  have hpromote : (do
      modify fun s => { s with queue := s.queue.promote s.clock }
      op.attempt : Op ω κ (Except Fault α)).Follows R := by
    refine h.bind (fun s => h.managed s s.thread s.detached ?_) fun _ => hop
    rw [TaskQueue.tasks_promote]
    exact List.Subset.refl _
  exact h.bind (h.onThread hpromote .worker) fun result => h.bind h.endIfStopped fun _ => h.settle result

/-- Waiting for the queue runs what is on it. -/
theorem invoke (hop : op.Follows R) : (host.invoke op).Follows R := by
  have hstrand : (strand : Op ω κ α).Follows R := h.bind h.stranded fun _ => h.throw _
  refine h.bind (h.get_bind fun _ => h.pure _) fun onThread => h.get_bind fun s => h.ite hop ?_
  refine h.get_bind fun s => h.ite hstrand (h.get_bind fun s => h.bind (h.workThrough _) fun _ => ?_)
  exact h.get_bind fun s => h.ite (h.lend hop) (h.bind h.endIfStopped fun _ => hstrand)

/-! ## Uses -/

/-- What goes through all that uses are made of goes through every use. -/
theorem follows_use (hop : host.Use op) : op.Follows R := by
  cases hop with
  | served call => exact h.follows_serve h.posted h.invoke h.preEnroll h.authenticatorId call
  | reported | linkDied => exact h.get_bind fun _ => h.ite (h.posted trivial) (h.pure ())
  | callerDied | subjectChanged => exact h.posted trivial
  | started subject =>
    have hstart : (startQueue : Op ω κ Unit).Follows R :=
      h.onQueue fun q => by
        rw [TaskQueue.start]
        split <;> exact List.Subset.refl _
    refine h.bind (h.posted trivial) fun _ => h.ite ?_ (h.publish rfl)
    exact h.bind hstart fun _ => h.publish rfl
  | stopped =>
    have hshutdown : (shutdown : Op ω κ Unit).Follows R := fun s =>
      h.managed s s.thread true (List.Subset.refl _)
    refine h.bind hshutdown fun _ => h.get_bind fun s => ?_
    exact h.onQueue fun q => List.nil_subset _
  | ranPending => exact h.runPending
  | worked => exact h.workThrough _

end Carries

end Host

end Fingerprint
