import Fingerprint.Proofs.Likeness
import Fingerprint.Proofs.Occasion

/-!
# Hosts that are twins

Where policies and clients take part as well, one host is the twin of the
other. Then what is told on one side by the machine, the driver and callers,
and told on the other in disguise, comes to the same: tasks are performed,
queues are run and callers get their answers alike.

* `Host.Twin`: a host and its twin;
* `Host.Twin.perform`, `Host.Twin.runPending`, `Host.Twin.invoke`: tasks and how
  they are run;
* `Host.Twin.meet`, `Host.Twin.course`: all that the coordinator has to deal with.
-/

namespace Fingerprint

variable {ω ω' κ κ' α : Type} {ρ : Disguise κ κ'} {D : UInt64 → UInt64 → Prop} {W : ω → ω' → Prop}

/-- One host is the likeness of the other, and so are policies and clients. -/
structure Host.Twin (host : Host ω κ) (host' : Host ω' κ') (ρ : Disguise κ κ') (W : ω → ω' → Prop) : Prop
    extends host.Likeness host' ρ Eq W where
  patience : host'.patience = host.patience
  checkPermission (caller : CallerToken) (permission : Permission) :
    Op.Likewise ρ W (host.answer (.checkPermission caller permission))
      (host'.answer (.checkPermission (ρ.caller caller) permission))
  canUseSensor (caller : CallerToken) (package : Bytes) :
    Op.Likewise ρ W (host.answer (.canUseSensor caller package) : Op ω κ Bool)
      (host'.answer (.canUseSensor (ρ.caller caller) package))
  client (task : κ) : (host.client task).Likewise ρ W (host'.client (ρ.client task))

/-! ## What runs tasks -/

namespace System.Disguised

variable (host : Host ω κ) (host' : Host ω' κ') {s : System ω κ} {s' : System ω' κ'} (hs : s.Disguised ρ W s')

include hs

theorem setQueue (queue : TaskQueue (Task κ)) :
    System.Disguised ρ W (host.engine.setQueue queue s) (host'.engine.setQueue (queue.map (Task.disguise ρ)) s') := by
  obtain ⟨world, hworld⟩ := hs
  exact .intro world hworld

theorem mark (thread : Option Thread) :
    System.Disguised ρ W (host.engine.mark thread s) (host'.engine.mark thread s') := by
  obtain ⟨world, hworld⟩ := hs
  exact .intro world hworld

/-- The same task is next, in disguise. -/
theorem engine :
    (host'.engine.queue s').stopping = (host.engine.queue s).stopping ∧
      host'.engine.thread s' = host.engine.thread s ∧
      (host'.engine.queue s').pop (host'.engine.now s') =
        (((host.engine.queue s).pop (host.engine.now s)).1.map (Task.disguise ρ),
          ((host.engine.queue s).pop (host.engine.now s)).2.map (Task.disguise ρ)) := by
  obtain ⟨world, -⟩ := hs
  exact ⟨rfl, rfl, TaskQueue.pop_map (Task.disguise ρ) s.queue s.clock⟩

end System.Disguised

namespace Host.Twin

open Op.Parallel

variable {host : Host ω κ} {host' : Host ω' κ'} (h : host.Twin host' ρ W)

include h

/-! ## Tasks -/

theorem runDeathAction (action : DeathAction κ) :
    (host.runDeathAction action).Likewise ρ W (host'.runDeathAction (action.disguise ρ)) := by
  cases action with
  | endSession kind id => exact h.endSession kind id
  | client task => exact h.client task

theorem runWatches (ids : List Nat) : (host.runWatches ids).Likewise ρ W (host'.runWatches ids) := by
  induction ids with
  | nil => exact result ()
  | cons id rest ih =>
    refine look fun s world _ => ?_
    rw [System.disguise_liveness, Liveness.find?_disguise]
    cases s.liveness.find? id with
    | none => exact ih
    | some watch =>
      have haction : (watch.disguise ρ).onDeath = watch.onDeath.map (·.disguise ρ) := rfl
      simp only [Option.map_some, haction]
      cases watch.onDeath with
      | none => exact ih
      | some action => exact (h.runDeathAction action).andThen fun _ => ih

theorem callerDied (caller : CallerToken) :
    (host.callerDied caller).Likewise ρ W (host'.callerDied (ρ.caller caller)) := by
  refine look fun s world _ => ?_
  rw [System.disguise_liveness, Liveness.entriesOf_disguise]
  have htold (registrations : Nat) :
      (callerDiedEvent caller registrations).Disguised ρ (callerDiedEvent (ρ.caller caller) registrations) :=
    ⟨rfl, rfl, rfl, rfl, .cons (.caller _) (.cons (.same _) .nil)⟩
  exact either ((h.publish (htold _)).andThen fun _ => h.runWatches _) (result ())

theorem dispatch (event : DriverEvent) : (host.dispatch event).Likewise ρ W (host'.dispatch event) := by
  have hdispatch := h.toLikeness.dispatch event event.device rfl
  rw [event.fromDevice_device] at hdispatch
  exact hdispatch (h.checkDevice event)

/-- What a task does is the same in disguise. -/
theorem perform (task : Task κ) : (host.perform task).Likewise ρ W (host'.perform (task.disguise ρ)) := by
  cases task with
  | startEnrollment caller sink request => exact h.startEnrollment caller sink request
  | startAuthentication caller sink request => exact h.startAuthentication caller sink request
  | startRemove caller sink request => exact h.startRemove caller sink request
  | cancel kind caller => exact h.cancel kind caller
  | rename subject id label =>
    change Op.Likewise ρ W (if host.setup.hasTemplates then host.answer (.storeRename subject id label) else Pure.pure ())
      (if host'.setup.hasTemplates then host'.answer (.storeRename subject id label) else Pure.pure ())
    rw [h.setup]
    exact either (h.answer _ rfl) (result ())
  | begin subject => exact h.begin subject
  | applySubject subject => exact h.applySubject subject
  | driverEvent event => exact h.dispatch event
  | callerDied caller => exact h.callerDied caller
  | driverDied generation => exact h.driverDied generation
  | lockoutExpired => exact h.lockoutExpired
  | client task => exact h.client task

theorem runTask (task : Task κ) : (host.runTask task).Likewise ρ W (host'.runTask (task.disguise ρ)) := by
  refine (h.perform task).attempt.andThen fun outcome => ?_
  cases outcome with
  | ok => exact result ()
  | error fault => exact h.tell _

/-! ## The queue -/

variable {s : System ω κ} {s' : System ω' κ'}

theorem engine_run (task : Task κ) (hs : s.Disguised ρ W s') :
    System.Disguised ρ W (host.engine.run task s) (host'.engine.run (task.disguise ρ) s') :=
  (h.runTask task s s' hs).2

theorem engine_runPending (room : Nat) (hs : s.Disguised ρ W s') :
    (host'.engine.runPending room s').1 = (host.engine.runPending room s).1 ∧
      System.Disguised ρ W (host.engine.runPending room s).2 (host'.engine.runPending room s').2 := by
  induction room generalizing s s' with
  | zero => exact ⟨rfl, hs⟩
  | succ room ih =>
    obtain ⟨hstopping, hthread, hpop⟩ := hs.engine host host'
    rw [Engine.runPending, Engine.runPending, hstopping, hthread, hpop]
    cases (host.engine.queue s).stopping with
    | true => exact ⟨rfl, hs⟩
    | false =>
      rcases (host.engine.queue s).pop (host.engine.now s) with ⟨_ | task, queue⟩
      · exact ⟨rfl, hs.setQueue host host' queue⟩
      · have htaken := (hs.setQueue host host' queue).mark host host' (some (host.engine.thread s))
        have hran := ih ((h.engine_run task htaken).mark host host' none)
        exact ⟨congrArg (· + 1) hran.1, hran.2⟩

theorem engine_work (room : Nat) (hs : s.Disguised ρ W s') :
    System.Disguised ρ W (host.engine.work room s) (host'.engine.work room s') := by
  induction room generalizing s s' with
  | zero => exact hs
  | succ room ih =>
    obtain ⟨hstopping, -, hpop⟩ := hs.engine host host'
    rw [Engine.work, Engine.work, hstopping, hpop]
    cases (host.engine.queue s).stopping with
    | true => exact hs.mark host host' none
    | false =>
      rcases (host.engine.queue s).pop (host.engine.now s) with ⟨_ | task, queue⟩
      · exact hs.setQueue host host' queue
      · exact ih (h.engine_run task (hs.setQueue host host' queue))

theorem runPending : host.runPending.Likewise ρ W host'.runPending := by
  unfold Host.runPending
  rw [h.patience]
  intro s s' hs
  have hran := h.engine_runPending host.patience hs
  exact ⟨Op.agree_eq_iff.2 (congrArg Except.ok hran.1.symm), hran.2⟩

theorem workThrough (room : Nat) : (host.workThrough room).Likewise ρ W (host'.workThrough room) := by
  refine look fun s world _ => ?_
  exact either (Op.Likewise.onThread (modified fun _ _ => h.engine_work room) .worker) (result ())

theorem work : host.work.Likewise ρ W host'.work := by
  unfold Host.work
  rw [h.patience]
  exact h.workThrough _

omit h in
theorem endIfStopped : Op.Likewise ρ W (Host.endIfStopped : Op ω κ Unit) Host.endIfStopped := .onQueue fun q => by
  have hstopping : (q.map (Task.disguise ρ)).stopping = q.stopping := rfl
  rw [hstopping]
  split <;> rfl

omit h in
theorem lend {op : Op ω κ α} {op' : Op ω' κ' α} (hop : op.Likewise ρ W op') :
    (Host.lend op).Likewise ρ W (Host.lend op') := by
  have hpromoted : Op.Likewise ρ W (do
      modify fun s => { s with queue := s.queue.promote s.clock }
      op.attempt) (do
      modify fun s => { s with queue := s.queue.promote s.clock }
      op'.attempt) := by
    refine andThen (Op.Likewise.changed (fun _ => rfl) fun s world => ?_) fun _ => hop.attempt
    have hpromote := TaskQueue.map_promote (Task.disguise ρ) s.queue s.clock
    simp only [System.disguise, ← hpromote]
  refine (Op.Likewise.onThread hpromoted .worker).andThen fun outcome => ?_
  exact endIfStopped.andThen fun _ => .settle outcome

omit h in
theorem strand : Op.Likewise ρ W (Host.strand : Op ω κ α) Host.strand := by
  have hstranded : Op.Likewise ρ W (modify fun s => { s with stranded := true } : Op ω κ Unit)
      (modify fun s => { s with stranded := true }) := .changed (fun _ => rfl) fun _ _ => rfl
  exact hstranded.andThen fun _ => throw _

theorem invoke {op : Op ω κ α} {op' : Op ω' κ' α} (hop : op.Likewise ρ W op') :
    (host.invoke op).Likewise ρ W (host'.invoke op') := by
  have honThread : Op.Likewise ρ W onQueueThread onQueueThread := by
    refine look fun s world _ => ?_
    exact result _
  refine honThread.andThen fun onThread => look fun s world _ => ?_
  refine either hop (look fun s world _ => either strand (look fun s world _ => ?_))
  have hlength : (s.queue.map (Task.disguise ρ)).ready.length = s.queue.ready.length := List.length_map ..
  rw [System.disguise_queue, hlength]
  refine (h.workThrough _).andThen fun _ => look fun s world _ => ?_
  exact either (lend hop) (endIfStopped.andThen fun _ => strand)

/-! ## Callers -/

/-- Whoever is let in is let in in disguise. -/
theorem gate (call : ServiceCall) : (host.gate call).Likewise ρ W (host'.gate (call.disguise ρ)) := by
  refine SameGate.gate ?_ (call.permission_disguise ρ) (call.package?_disguise ρ) (call.needsSomebody_disguise ρ)
  rw [call.caller_disguise]
  exact {
    setup := h.setup
    nobody := ρ.caller_eq_zero_iff
    tell := fun _ _ _ => h.publish ⟨rfl, rfl, rfl, rfl, .cons (.caller _) (.cons (.same _) .nil)⟩
    check := h.checkPermission call.caller
    allow := h.canUseSensor call.caller }

theorem listTemplates (subject : Int32) :
    (host.listTemplates subject).Likewise ρ W (host'.listTemplates subject) := by
  unfold Host.listTemplates
  rw [h.setup]
  exact either (result []) (h.answer (.storeList subject) rfl)

omit h in
/-- What is behind the gate. -/
theorem behind {admitted : Op ω κ Bool} {admitted' : Op ω' κ' Bool} {op : Op ω κ α} {op' : Op ω' κ' α} {a : α}
    (hgate : admitted.Likewise ρ W admitted') (hop : op.Likewise ρ W op') (answer : α → Answer) :
    Op.Likewise ρ W ((do if ← admitted then op else return a) >>= fun reply => Pure.pure (answer reply))
      ((do if ← admitted' then op' else return a) >>= fun reply => Pure.pure (answer reply)) :=
  (hgate.andThen fun _ => either hop (result a)).andThen fun _ => result _

/-- A caller in disguise gets the same answer. -/
theorem served (call : ServiceCall) :
    Op.Likewise ρ W (do return call.answer (← host.serve call))
      (do return (call.disguise ρ).answer (← host'.serve (call.disguise ρ))) := by
  have hgate := h.gate call
  rw [serve_eq, serve_eq]
  cases call with
  | preEnroll caller => exact behind hgate (h.invoke h.preEnroll) _
  | enroll caller sink request => exact behind hgate (.post (.startEnrollment caller sink request)) _
  | cancelEnrollment caller => exact behind hgate (.post (.cancel .enroll caller)) _
  | authenticate caller sink request => exact behind hgate (.post (.startAuthentication caller sink request)) _
  | cancelAuthentication caller => exact behind hgate (.post (.cancel .authenticate caller)) _
  | remove caller sink request => exact behind hgate (.post (.startRemove caller sink request)) _
  | rename caller subject id label => exact behind hgate (.post (.rename subject id label)) _
  | isHardwareDetected caller package =>
    have hdetected : Op.Likewise ρ W (do return (← get).connection.device != 0)
        (do return (← get).connection.device != 0) := by
      refine look fun s world _ => ?_
      exact result _
    exact behind hgate (h.invoke hdetected) _
  | enrolledTemplates caller subject => exact behind hgate (h.listTemplates subject) _
  | hasEnrolledTemplates caller subject =>
    exact behind hgate ((h.listTemplates subject).andThen fun _ => result _) _
  | authenticatorId caller => exact behind hgate (h.invoke h.authenticatorId) _

/-! ## Occasions -/

theorem startService (subject : Int32) : (host.startService subject).Likewise ρ W (host'.startService subject) := by
  have hstart : Op.Likewise ρ W startQueue startQueue := .onQueue fun q => q.start_map (Task.disguise ρ)
  unfold Host.startService Host.startedEvent
  rw [h.setup]
  refine (Op.Likewise.post (.begin subject)).andThen fun _ => either ?_ (h.tell _)
  exact hstart.andThen fun _ => h.tell _

omit h in
theorem stopService : Op.Likewise ρ W Host.stopService Host.stopService := by
  have hshutdown : Op.Likewise ρ W shutdown shutdown := .changed (fun _ => rfl) fun _ _ => rfl
  refine hshutdown.andThen fun _ => look fun s world _ => ?_
  exact Op.Likewise.onQueue fun q => q.stop_map (Task.disguise ρ) _

/-- Whatever the occasion, it comes to the same in disguise. -/
theorem meet (occasion : Occasion κ) : (host.meet occasion).Likewise ρ W (host'.meet (occasion.disguise ρ)) := by
  cases occasion with
  | served call => exact h.served call
  | performed task => exact (h.perform task).andThen fun _ => result _
  | stoppedPending => exact h.stopPendingOperations.andThen fun _ => result _
  | stopped kind caller notify => exact (h.stopSession kind caller notify).andThen fun _ => result _
  | registered caller onDeath =>
    have honDeath : (onDeath.map ρ.client).map DeathAction.client =
        (onDeath.map DeathAction.client).map (·.disguise ρ) := by
      rw [Option.map_map, Option.map_map]
      rfl
    refine (honDeath ▸ Likeness.register caller (onDeath.map .client)).bind ?_
    rintro registration _ rfl
    exact result _
  | released id =>
    have hreleased : Op.Likewise ρ W (Host.onLiveness (·.unregister id)) (Host.onLiveness (·.unregister id)) :=
      .changed (fun _ => rfl) fun s world => by
        have hunregister := s.liveness.unregister_disguise ρ id
        simp only [System.disguise, hunregister]
    exact hreleased.andThen fun _ => result _
  | sought caller =>
    refine look fun s world _ => ?_
    rw [System.disguise_liveness, Liveness.isRegistered_disguise]
    exact result _
  | posted task => exact (Op.Likewise.post task).andThen fun _ => result _
  | delayed ms task =>
    refine look fun s world hworld => ?_
    have hdelayed (queue : TaskQueue (Task κ)) :
        Op.Likewise ρ W (MonadStateOf.set { s with queue })
          (MonadStateOf.set { s.disguise ρ world with queue := queue.map (Task.disguise ρ) }) :=
      .set (.intro world hworld)
    simp only [System.disguise_queue, System.disguise_clock, TaskQueue.postDelayed_map]
    exact (hdelayed _).andThen fun _ => result _
  | reported event =>
    have hreported : Op.Likewise ρ W (report event) (report event) := by
      refine look fun s world _ => ?_
      exact either (Op.Likewise.post (.driverEvent event)) (result ())
    exact hreported.andThen fun _ => result _
  | linkDied generation =>
    have hdied : Op.Likewise ρ W (driverLinkDied generation) (driverLinkDied generation) := by
      refine look fun s world _ => ?_
      exact either (Op.Likewise.post (.driverDied generation)) (result ())
    exact hdied.andThen fun _ => result _
  | callerDied caller => exact (Op.Likewise.post (.callerDied caller)).andThen fun _ => result _
  | subjectChanged subject => exact (Op.Likewise.post (.applySubject subject)).andThen fun _ => result _
  | advanced ms =>
    have hadvanced : Op.Likewise ρ W (modify fun s => { s with clock := s.clock + ms })
        (modify fun s => { s with clock := s.clock + ms }) :=
      .changed (fun _ => rfl) fun _ _ => rfl
    exact hadvanced.andThen fun _ => result _
  | drained => exact h.runPending.andThen fun _ => result _
  | worked => exact h.work.andThen fun _ => result _
  | started subject => exact (h.startService subject).andThen fun _ => result _
  | ended => exact stopService.andThen fun _ => result _

/-- Whatever happens in whatever order, it comes to the same in disguise. -/
theorem course (occasions : List (Occasion κ)) (hs : s.Disguised ρ W s') :
    (host'.course (occasions.map (·.disguise ρ)) s').1 = (host.course occasions s).1 ∧
      System.Disguised ρ W (host.course occasions s).2 (host'.course (occasions.map (·.disguise ρ)) s').2 := by
  induction occasions generalizing s s' with
  | nil => exact ⟨rfl, hs⟩
  | cons occasion rest ih =>
    obtain ⟨hoccasion, hafter⟩ := h.meet occasion s s' hs
    obtain ⟨hrest, hend⟩ := ih hafter
    rw [List.map_cons, Host.course, Host.course]
    exact ⟨congrArg₂ List.cons (Op.agree_eq_iff.1 hoccasion).symm hrest, hend⟩

end Host.Twin

end Fingerprint
