import Fingerprint.Proofs.Acquisition
import Fingerprint.Proofs.Lockout
import Fingerprint.Proofs.Usage

/-!
# Faults stay where they arise

Whoever the coordinator calls may fail at any time. What has been begun is
brought to its end all the same: each operation returns, and so each task of
the coordinator's own ends well, but that a renaming may fail.

Two things could make it otherwise. A start for nobody fails, and so does what a
client has left to be done at the death of a caller, if that fails. Both have
to be waiting for it. So the argument is about what waits: nothing that fails
does, as long as neither those who answer calls nor clients have put it there,
and the coordinator puts no such thing there itself.

* `Host.Innocent`: nothing that fails was added to what waits;
* `Host.Civil`: the hosts whose collaborators and clients keep to that;
* `Host.Contained`: an operation returns, provided that nothing waits that
  fails;
* `Host.Operation`, `Host.Reachable`: the operations, and the states that are
  reached by them and by all other uses;
* `Host.Civil.contains`.
-/

namespace Fingerprint

variable {ω κ α β : Type} {host : Host ω κ} {s s' s'' : System ω κ} {op : Op ω κ α}

/-- Whether a task is the coordinator's own, and no renaming: what the store has against that is left to
    the queue to report. -/
def Task.isOwn : Task κ → Bool
  | rename .. | client _ => false
  | _ => true

namespace Host

/-! ## What waits -/

/-- What is to be done at a death does not fail. -/
def Harmless (host : Host ω κ) (watch : Watch (DeathAction κ)) : Prop :=
  ∀ task, watch.onDeath = some (.client task) → ∀ s, ∃ s', (host.client task).run s = (.ok (), s')

/-- Nothing waits that fails: no start for nobody, and nothing for a death. -/
structure Vetted (host : Host ω κ) (s : System ω κ) : Prop where
  tasks : ∀ task ∈ s.queue.tasks, task.Named
  watches : ∀ watch ∈ s.liveness.entries, host.Harmless watch

/-- From one state to another, nothing that fails was added to what waits. -/
structure Innocent (host : Host ω κ) (s s' : System ω κ) : Prop where
  tasks : ∀ task ∈ s'.queue.tasks, task ∈ s.queue.tasks ∨ task.Named
  watches : ∀ watch ∈ s'.liveness.entries, watch ∈ s.liveness.entries ∨ host.Harmless watch

/-- Whoever answers a call, or runs a client's task, may do what they like, and may fail, but they
    add nothing that fails to what waits. The machine tells in words why it makes no directory. -/
structure Civil (host : Host ω κ) : Prop where
  answer (call : Call) : (host.answer call).Follows host.Innocent
  client (task : κ) : (host.client task).Follows host.Innocent
  provides (path : Bytes) (s : System ω κ) :
    ∃ reason, ((host.answer (.provideDirectory path)).run s).1 = .ok reason

namespace Innocent

theorem of_subset (htasks : s'.queue.tasks ⊆ s.queue.tasks) (hwatches : s'.liveness.entries ⊆ s.liveness.entries) :
    host.Innocent s s' :=
  ⟨fun _ htask => .inl (htasks htask), fun _ hwatch => .inl (hwatches hwatch)⟩

theorem of_eq (hqueue : s'.queue = s.queue) (hliveness : s'.liveness = s.liveness) : host.Innocent s s' :=
  of_subset (by rw [hqueue]; exact List.Subset.refl _) (by rw [hliveness]; exact List.Subset.refl _)

theorem refl (s : System ω κ) : host.Innocent s s := of_eq rfl rfl

theorem trans (h : host.Innocent s s') (h' : host.Innocent s' s'') : host.Innocent s s'' where
  tasks task htask := (h'.tasks task htask).elim (h.tasks task) .inr
  watches watch hwatch := (h'.watches watch hwatch).elim (h.watches watch) .inr

theorem vetted (h : host.Innocent s s') (hs : host.Vetted s) : host.Vetted s' where
  tasks task htask := (h.tasks task htask).elim (hs.tasks task) id
  watches watch hwatch := (h.watches watch hwatch).elim (hs.watches watch) id

end Innocent

/-! ## Operations that return -/

/-- An operation adds nothing that fails to what waits, and returns where nothing does. -/
structure Contained (host : Host ω κ) (op : Op ω κ α) : Prop where
  innocent : op.Follows host.Innocent
  returns : ∀ s, host.Vetted s → ∃ a, (op.run s).1 = .ok a

/-- What comes next is run where nothing waits that fails, either. -/
theorem Contained.bind {f : α → Op ω κ β} (h : host.Contained op) (hf : ∀ a, host.Contained (f a)) :
    host.Contained (op >>= f) where
  innocent := h.innocent.bind_of .trans fun _ a s' _ => (hf a).innocent s'
  returns s hs := by
    obtain ⟨a, ha⟩ := h.returns s hs
    rw [Op.run_bind_of_ok ha]
    exact (hf a).returns _ ((h.innocent s).vetted hs)

theorem contained_modify {f : System ω κ → System ω κ} (h : ∀ s, host.Innocent s (f s)) :
    host.Contained (modify f : Op ω κ Unit) where
  innocent := h
  returns _ _ := ⟨(), rfl⟩

/-! ## What the coordinator does of its own -/

theorem innocent_vacated (s : System ω κ) (kind : SessionKind) (x : Session) :
    host.Innocent s { s with
      slots := s.slots.set kind none
      liveness := releaseSession (some x) s.liveness } :=
  .of_subset (List.Subset.refl _) fun _ => View.mem_of_mem_release

/-- To end a session is harmless. -/
theorem innocent_register (caller : CallerToken) (kind : SessionKind) (id : Nat) :
    (register caller (some (.endSession kind id)) : Op ω κ Registration).Follows host.Innocent := by
  intro s
  rw [run_register, Liveness.register]
  by_cases hcaller : caller = 0
  · simp only [if_pos hcaller]
    exact .refl s
  · simp only [if_neg hcaller]
    refine ⟨fun _ htask => .inl htask, fun watch hwatch => ?_⟩
    rcases List.mem_append.1 hwatch with hold | hnew
    · exact .inl hold
    · obtain rfl := List.mem_singleton.1 hnew
      refine .inr fun task htask => ?_
      cases htask

theorem contained_register {caller : CallerToken} (hcaller : caller ≠ 0) (kind : SessionKind) (id : Nat) :
    host.Contained (register caller (some (.endSession kind id)) : Op ω κ Registration) where
  innocent := innocent_register caller kind id
  returns s _ := by
    rw [run_register, Liveness.register]
    simp only [if_neg hcaller]
    exact ⟨_, rfl⟩

theorem innocent_filled (s : System ω κ) (kind : SessionKind) (x : Session) :
    host.Innocent s { s with
      slots := s.slots.set kind (some x)
      liveness := releaseSession (s.slots.get kind) s.liveness } := by
  refine .of_subset (List.Subset.refl _) fun watch hwatch => ?_
  change watch ∈ (releaseSession (s.slots.get kind) s.liveness).entries at hwatch
  cases hslot : s.slots.get kind with
  | none => rwa [hslot] at hwatch
  | some y =>
    rw [hslot] at hwatch
    exact View.mem_of_mem_release hwatch

/-- The timer of a lockout does not fail. -/
theorem contained_recordFailure : host.Contained host.recordFailure := by
  have hrun (s : System ω κ) := Lockout.run_recordFailure host s rfl
  refine ⟨fun s => ?_, fun s _ => ?_⟩ <;> obtain ⟨world, hs⟩ := hrun s <;> rw [hs]
  · refine ⟨fun task htask => ?_, fun _ hwatch => .inl hwatch⟩
    rcases Lockout.mem_tasks_recordFailure htask with hold | rfl
    · exact .inl hold
    · exact .inr trivial
  · exact ⟨_, rfl⟩

theorem contained_recordSuccess : host.Contained (recordSuccess : Op ω κ Unit) :=
  contained_modify fun _ => .of_eq rfl rfl

theorem contained_lockoutExpired : host.Contained host.lockoutExpired :=
  Contained.bind (contained_modify fun _ => .of_eq rfl rfl) fun _ => contained_modify fun _ => .of_eq rfl rfl

/-- To post what does not fail adds nothing that fails. -/
theorem innocent_post {task : Task κ} (hnamed : task.Named) :
    (Op.post task : Op ω κ Unit).Follows host.Innocent := by
  refine fun s => ⟨fun other hother => ?_, fun _ hwatch => .inl hwatch⟩
  rcases TaskQueue.mem_tasks_post hother with hold | rfl
  · exact .inl hold
  · exact .inr hnamed

/-! ## Operations and other uses -/

/-- The operations of the connection and of the coordinator, which starts nothing for nobody, what is
    done about an event of the driver, and what is done about the death of a caller. -/
inductive Operation (host : Host ω κ) : {α : Type} → Op ω κ α → Prop
  | requested {α : Type} {op : Op ω κ α} {asks : List Happening} (h : host.Request op asks) : Operation host op
  | driverLinkDied (generation : Nat) : Operation host (driverLinkDied generation)
  | handleDriverDied (generation : Nat) : Operation host (host.handleDriverDied generation)
  | startEnrollment {caller : CallerToken} (h : caller ≠ 0) (sink : Option SinkName) (request : EnrollRequest) :
      Operation host (host.startEnrollment caller sink request)
  | startAuthentication {caller : CallerToken} (h : caller ≠ 0) (sink : Option SinkName)
      (request : AuthenticateRequest) : Operation host (host.startAuthentication caller sink request)
  | startRemove {caller : CallerToken} (h : caller ≠ 0) (sink : Option SinkName) (request : RemoveRequest) :
      Operation host (host.startRemove caller sink request)
  | stopEnrollment (caller : CallerToken) (notify : Bool) : Operation host (host.stopEnrollment caller notify)
  | stopAuthentication (caller : CallerToken) (notify : Bool) :
      Operation host (host.stopAuthentication caller notify)
  | cancel (kind : SessionKind) (caller : CallerToken) : Operation host (host.cancel kind caller)
  | stopPendingOperations : Operation host host.stopPendingOperations
  | removeSession (kind : SessionKind) (id : Nat) : Operation host (host.removeSession kind id)
  | dispatch (event : DriverEvent) : Operation host (host.dispatch event)
  | callerDied (caller : CallerToken) : Operation host (host.callerDied caller)

/-- The states that are reached from one in which nothing waits. -/
inductive Reachable (host : Host ω κ) : System ω κ → Prop
  | fresh {s : System ω κ} (hqueue : s.queue = {}) (hliveness : s.liveness = {}) : Reachable host s
  | operated {s : System ω κ} {α : Type} {op : Op ω κ α} (h : Reachable host s) (hop : host.Operation op) :
      Reachable host (op.run s).2
  | used {s : System ω κ} {α : Type} {op : Op ω κ α} (h : Reachable host s) (hop : host.Use op) :
      Reachable host (op.run s).2
  /-- The next task is taken off the queue and run. -/
  | ran {s : System ω κ} {task : Task κ} {queue : TaskQueue (Task κ)} (h : Reachable host s)
      (hpop : s.queue.pop s.clock = (some task, queue)) : Reachable host (host.engine.run task { s with queue })
  /-- Something else, as long as it adds nothing that fails to what waits: the clock goes on, a
      collaborator is about to answer, a client puts a task of its own on the queue. -/
  | elsewhere {s s' : System ω κ} (h : Reachable host s) (hinnocent : host.Innocent s s') : Reachable host s'

/-! The states between two tasks are reached as well, in whichever way the tasks are run. -/

theorem Reachable.mark (h : host.Reachable s) (thread : Option Thread) :
    host.Reachable (host.engine.mark thread s) :=
  h.elsewhere (.of_subset (List.Subset.refl _) (List.Subset.refl _))

theorem Reachable.idle {queue : TaskQueue (Task κ)} (h : host.Reachable s)
    (hpop : s.queue.pop s.clock = (none, queue)) : host.Reachable { s with queue } :=
  h.elsewhere (.of_subset (TaskQueue.tasks_subset_of_pop hpop) (List.Subset.refl _))

theorem Reachable.runPending (h : host.Reachable s) (room : Nat) :
    host.Reachable (host.engine.runPending room s).2 :=
  kept_runPending (fun thread _ h => h.mark thread) (fun hpop h => h.idle hpop) (fun hpop h => h.ran hpop) room h

theorem Reachable.work (h : host.Reachable s) (room : Nat) : host.Reachable (host.engine.work room s) :=
  kept_work (fun thread _ h => h.mark thread) (fun hpop h => h.idle hpop) (fun hpop h => h.ran hpop) room h

/-- Of a task that ends well nothing is reported. -/
theorem engine_run_of_ok {task : Task κ} (hrun : (host.perform task).run s = (.ok (), s')) :
    host.engine.run task s = s' := by
  have hengine : host.engine.run task s = ((host.runTask task).run s).2 := rfl
  rw [hengine, runTask, Op.run_bind, Op.run_attempt, hrun]
  rfl

section Civil

variable (hcivil : host.Civil)

include hcivil

/-! ## All that is composed of it -/

/-- Whatever the coordinator does, with what its collaborators do meanwhile, adds nothing that fails
    to what waits. -/
theorem Civil.pervasive_innocent : host.Pervasive (Op.Follows host.Innocent) (Op.Follows host.Innocent) :=
  pervasive_follows .refl .trans (fun _ _ => .of_eq rfl rfl) (fun _ => hcivil.answer _)
    (fun _ _ _ _ _ => .of_eq rfl rfl) innocent_vacated

/-- That operations return goes through composition, where faults are caught. -/
theorem Civil.pervasive_contained : host.Pervasive host.Contained (Op.Follows host.Innocent) where
  pure a := ⟨.refl, fun _ _ => ⟨a, rfl⟩⟩
  look h _ := ⟨fun s => (h s).innocent s, fun s hs => (h s).returns s hs⟩
  bind := Contained.bind
  attempt {_ op} h := ⟨h, fun s _ => ⟨(op.run s).1, rfl⟩⟩
  of_whole := Contained.innocent
  settle := hcivil.pervasive_innocent.settle
  andThen := hcivil.pervasive_innocent.andThen
  publish _ := contained_modify fun _ => .of_eq rfl rfl
  answer _ := hcivil.answer _
  changed hf nextSession speaker :=
    ⟨hcivil.pervasive_innocent.changed hf nextSession speaker, fun _ _ => ⟨(), rfl⟩⟩
  vacated kind x := contained_modify fun s => innocent_vacated s kind x

theorem Civil.innocent_slotNew (kind : SessionKind) (caller : CallerToken) (sink : Option SinkName)
    (subject : Int32) : (slotNew kind caller sink subject : Op ω κ Unit).Follows host.Innocent :=
  hcivil.pervasive_innocent.coarse.slotNew (innocent_register caller kind) fun x s => innocent_filled s kind x

/-- For somebody a session can be started. -/
theorem Civil.contained_slotNew (kind : SessionKind) {caller : CallerToken} (hcaller : caller ≠ 0)
    (sink : Option SinkName) (subject : Int32) :
    host.Contained (slotNew kind caller sink subject : Op ω κ Unit) :=
  hcivil.pervasive_contained.coarse.slotNew (contained_register hcaller kind) fun x =>
    contained_modify fun s => innocent_filled s kind x

/-- What a watch waits for returns, if it is harmless. -/
theorem Civil.contained_runDeathAction {watch : Watch (DeathAction κ)} {action : DeathAction κ}
    (hwatch : host.Harmless watch) (hdeath : watch.onDeath = some action) :
    host.Contained (host.runDeathAction action) := by
  cases action with
  | client task =>
    refine ⟨hcivil.client task, fun s _ => ?_⟩
    obtain ⟨s', hrun⟩ := hwatch task hdeath s
    exact ⟨(), congrArg Prod.fst hrun⟩
  | endSession kind id => exact hcivil.pervasive_contained.coarse.endSession kind id

/-- Each watch is looked up when its turn comes, and is harmless then. -/
theorem Civil.contained_runWatches (ids : List Nat) : host.Contained (host.runWatches ids) := by
  refine ⟨hcivil.pervasive_innocent.coarse.runWatches hcivil.client ids, ?_⟩
  induction ids with
  | nil => exact fun _ _ => ⟨(), rfl⟩
  | cons id rest ih =>
    have hrest : host.Contained (host.runWatches rest) :=
      ⟨hcivil.pervasive_innocent.coarse.runWatches hcivil.client rest, ih⟩
    intro s hs
    rw [runWatches, Op.run_get_bind]
    cases hfind : s.liveness.find? id with
    | none => exact ih s hs
    | some watch =>
      have hwatch := hs.watches watch (List.mem_of_find?_eq_some hfind)
      cases hdeath : watch.onDeath with
      | none =>
        simp only [hdeath]
        exact ih s hs
      | some action =>
        simp only [hdeath]
        exact ((hcivil.contained_runDeathAction hwatch hdeath).bind fun _ => hrest).returns s hs

/-! ## Tasks -/

theorem Civil.contained_provide (path : Bytes) : host.Contained (host.answer (.provideDirectory path)) :=
  ⟨hcivil.answer _, fun s _ => hcivil.provides path s⟩

/-- No task adds anything that fails to what waits, whether it fails itself or not. -/
theorem Civil.innocent_perform (task : Task κ) : (host.perform task).Follows host.Innocent :=
  hcivil.pervasive_innocent.coarse.perform_of_all (fun _ => hcivil.answer _) hcivil.innocent_slotNew
    contained_recordFailure.innocent contained_recordSuccess.innocent contained_lockoutExpired.innocent hcivil.client task

theorem Civil.contained_perform {task : Task κ} (hnamed : task.Named) (hown : task.isOwn = true) :
    host.Contained (host.perform task) := by
  refine hcivil.pervasive_contained.coarse.perform ?_
  cases task with
  | startEnrollment | startRemove => exact hcivil.contained_slotNew _ hnamed _ _
  | startAuthentication => exact ⟨hcivil.contained_slotNew _ hnamed _ _, fun _ => hcivil.answer _⟩
  | begin | applySubject => exact hcivil.contained_provide
  | driverEvent event =>
    cases event with
    | authenticated => exact ⟨contained_recordFailure, contained_recordSuccess⟩
    | enrollResult | removed => exact fun _ => hcivil.answer _
    | acquired | error | enumerate => trivial
  | callerDied => exact hcivil.contained_runWatches
  | lockoutExpired => exact contained_lockoutExpired
  | rename | client => cases hown
  | cancel | driverDied => trivial

/-! ## Every operation -/

theorem Civil.contained_request {asks : List Happening} (hop : host.Request op asks) : host.Contained op := by
  have hask (handle : Handle) (call : DriverCall) : (host.driver handle call).Follows host.Innocent :=
    hcivil.answer _
  cases hop with
  | acquire => exact hcivil.pervasive_contained.acquire
  | preEnroll | authenticatorId => exact hcivil.pervasive_contained.coarse.query _ fun handle => hask handle _
  | setActiveSubject subject storage => exact hcivil.pervasive_contained.setActiveSubject subject storage
  | _ => exact hcivil.pervasive_contained.coarse.forward _ fun handle => hask handle _

theorem Civil.contained_operation (hop : host.Operation op) : host.Contained op := by
  have hpervasive := hcivil.pervasive_contained.coarse
  cases hop with
  | requested h => exact hcivil.contained_request h
  | driverLinkDied generation =>
    refine hpervasive.look (fun s => hpervasive.ite ?_ (hpervasive.pure ())) fun s s' hs => by rw [hs.connection]
    exact ⟨innocent_post trivial, fun _ _ => ⟨(), rfl⟩⟩
  | handleDriverDied generation => exact hpervasive.handleDriverDied generation
  | startEnrollment h sink request => exact hpervasive.startEnrollment (hcivil.contained_slotNew _ h _ _)
  | startAuthentication h sink request =>
    exact hpervasive.startAuthentication (hcivil.contained_slotNew _ h _ _) fun _ => hcivil.answer _
  | startRemove h sink request => exact hpervasive.startRemove (hcivil.contained_slotNew _ h _ _)
  | stopEnrollment caller notify | stopAuthentication caller notify => exact hpervasive.stopSession _ caller notify
  | cancel kind caller => exact hpervasive.cancel kind caller
  | stopPendingOperations => exact hpervasive.stopPendingOperations
  | removeSession kind id => exact hpervasive.removeSession kind id
  | dispatch event =>
    have hnamed : (Task.driverEvent event : Task κ).Named := trivial
    exact hcivil.contained_perform hnamed rfl
  | callerDied caller => exact hpervasive.callerDied hcivil.contained_runWatches caller

/-! ## Every state -/

theorem Civil.carries_innocent : host.Carries host.Innocent where
  refl := .refl
  trans := .trans
  published _ _ := .of_eq rfl rfl
  answered _ := hcivil.answer _
  performed := hcivil.innocent_perform
  preEnroll := (hcivil.contained_request .preEnroll).innocent
  authenticatorId := (hcivil.contained_request .authenticatorId).innocent
  posted := innocent_post
  managed _ _ _ _ hqueue := .of_subset hqueue (List.Subset.refl _)
  stranded _ := .of_eq rfl rfl

theorem Civil.vetted (h : host.Reachable s) : host.Vetted s := by
  induction h with
  | fresh hqueue hliveness =>
    refine ⟨fun task htask => ?_, fun watch hwatch => ?_⟩
    · rw [hqueue] at htask
      cases htask
    · rw [hliveness] at hwatch
      cases hwatch
  | operated _ hop ih => exact ((hcivil.contained_operation hop).innocent _).vetted ih
  | used _ hop ih => exact (hcivil.carries_innocent.follows_use hop _).vetted ih
  | ran _ hpop ih => exact (hcivil.carries_innocent.taken hpop (.refl _)).vetted ih
  | elsewhere _ hinnocent ih => exact hinnocent.vetted ih

/-- Whatever those who are called do, in every state that is reached, every operation returns, and
    the next task on the queue ends well if it is the coordinator's own, whoever is marked as
    running it, so that nothing is reported about it. That goes for each task of all that are run one
    after the other, as the states between them are reached, too. -/
theorem Civil.contains (h : host.Reachable s) :
    (∀ {α : Type} {op : Op ω κ α}, host.Operation op → ∃ a s', op.run s = (.ok a, s')) ∧
      (∀ {task : Task κ} {queue : TaskQueue (Task κ)}, s.queue.pop s.clock = (some task, queue) →
        task.isOwn = true → ∀ executing, ∃ s',
          (host.perform task).run { s with queue := { queue with executing } } = (.ok (), s') ∧
            host.engine.run task { s with queue := { queue with executing } } = s') ∧
      ∀ room, host.Reachable (host.engine.runPending room s).2 ∧ host.Reachable (host.engine.work room s) := by
  have hs := hcivil.vetted h
  refine ⟨fun hop => ?_, fun {task queue} hpop hown executing => ?_, fun room => ⟨h.runPending room, h.work room⟩⟩
  · obtain ⟨a, ha⟩ := (hcivil.contained_operation hop).returns s hs
    exact ⟨a, _, Prod.ext ha rfl⟩
  · have hnamed := hs.tasks _ (TaskQueue.mem_tasks_of_pop hpop)
    have hqueue := TaskQueue.tasks_subset_of_pop hpop
    have htaken : host.Innocent s { s with queue := { queue with executing } } :=
      .of_subset hqueue (List.Subset.refl _)
    obtain ⟨_, ha⟩ := (hcivil.contained_perform hnamed hown).returns _ (htaken.vetted hs)
    have hrun : (host.perform task).run { s with queue := { queue with executing } } = (.ok (), _) :=
      Prod.ext ha rfl
    exact ⟨_, hrun, engine_run_of_ok hrun⟩

end Civil

/-- A ledger's host is civil, whatever its rule says, if directories are provided. -/
theorem civil_ledger {setup : Setup} {rule : (call : Call) → Except Fault call.Reply}
    (hprovides : ∀ path, ∃ reason, rule (.provideDirectory path) = .ok reason) :
    (Ledger.host setup rule).Civil where
  answer call s := by
    rw [Ledger.run_answer]
    exact .of_eq rfl rfl
  client task := task.elim
  provides path s := by
    rw [Ledger.run_answer]
    exact hprovides path

/-- There is a driver, but whatever it is asked to do fails, and so does every sink. -/
def useless : (call : Call) → Except Fault call.Reply
  | .driver _ (.enroll ..) | .driver _ (.authenticate ..) | .driver _ (.remove ..) => .error (.plain "no sensor")
  | .sink .. => .error (.plain "unreachable")
  | call => Ledger.obliging call

/-- The state in which somebody has asked for an enrollment that is to be given up if the driver
    does not start it. -/
def demanded : System (List Entry) Empty :=
  (((Ledger.host { teardownOnReject := true } useless).serve (.enroll 7 (some "sink") {})).run { world := [] }).2

/-- The enrollment fails, and so does the sink that is to be told, but the session is given up all the same. -/
theorem Civil.contains_of_useless_driver : ∃ queue s',
    demanded.queue.pop demanded.clock = (some (.startEnrollment 7 (some "sink") {}), queue) ∧
      ((Ledger.host { teardownOnReject := true } useless).perform (.startEnrollment 7 (some "sink") {})).run
        { demanded with queue } = (.ok (), s') ∧
      s'.slots = {} ∧ s'.liveness.entries = [] ∧ s'.nextSession = 1 := by
  have hcivil : (Ledger.host { teardownOnReject := true } useless).Civil := civil_ledger fun _ => ⟨none, rfl⟩
  have hdemanded : (Ledger.host { teardownOnReject := true } useless).Reachable demanded :=
    .used (.fresh rfl rfl) (.served _)
  obtain ⟨-, hnext, -⟩ := hcivil.contains hdemanded
  have hpop : demanded.queue.pop demanded.clock = (some (.startEnrollment 7 (some "sink") {}), {}) := by decide
  obtain ⟨s', hrun, -⟩ := hnext hpop rfl none
  obtain rfl : _ = s' := congrArg Prod.snd hrun
  exact ⟨_, _, hpop, hrun, by decide, by decide, by decide⟩

end Host

end Fingerprint
