import Fingerprint.Proofs.Lockout
import Fingerprint.Proofs.Parallel

/-!
# What waits makes no difference

While a task is performed, others may be ready already. That makes no
difference to it, provided that it makes none to those whom the coordinator
calls on: the same is done and asked, and in worlds that they cannot tell apart
the worlds that come of it are such again.

Nor does a task make a difference to those that are ready, or to what becomes
of whatever callers and the driver want meanwhile. It makes nothing ready, and
starts no timer that would run out at once.

* `System.Beside`: states that differ in what is ready, and in their worlds;
* `Op.Indifferent`: operations to which that makes no difference;
* `System.Steady`: what is ready has stayed so, and so has the way to the queue;
* `Op.Discreet`: operations that are indifferent and keep what waits steady;
* `Host.Discreet.perform`: with collaborators that are discreet, so are tasks.
-/

namespace Fingerprint

variable {ω κ α β π : Type} {W : ω → ω → Prop} {door : ω → π}

/-! ## Indifference -/

namespace TaskQueue

variable {τ : Type} (q : TaskQueue τ) (ready : List τ)

/-- The delayed tasks have nothing to do with those that are ready. -/
theorem postDelayed_with_ready (now delay : Int) (task : τ) :
    ({ q with ready } : TaskQueue τ).postDelayed now delay task =
      ((q.postDelayed now delay task).1, { (q.postDelayed now delay task).2 with ready }) := by
  rw [postDelayed, postDelayed]
  split <;> rfl

theorem cancel_with_ready (id : Nat) :
    ({ q with ready } : TaskQueue τ).cancel id = ((q.cancel id).1, { (q.cancel id).2 with ready }) := by
  rw [cancel, cancel]
  cases q.dueTimes.lookup id <;> rfl

end TaskQueue

/-- It makes no difference to the lockout what is ready. -/
theorem Lockout.recordFailure_with_ready {τ : Type} (lockout : Lockout) (settings : Settings) (now : Int) (expiry : τ)
    (q : TaskQueue τ) (ready : List τ) :
    lockout.recordFailure settings now expiry { q with ready } =
      ((lockout.recordFailure settings now expiry q).1, (lockout.recordFailure settings now expiry q).2.1,
        { (lockout.recordFailure settings now expiry q).2.2 with ready }) := by
  have hcancel (lockout : Lockout) :
      lockout.cancelTimer { q with ready } = { lockout.cancelTimer q with ready } := by
    rw [cancelTimer, cancelTimer]
    split
    · rfl
    · exact congrArg Prod.snd (q.cancel_with_ready ready _)
  simp only [recordFailure, hcancel, TaskQueue.postDelayed_with_ready]
  split <;> rfl

namespace System

/-- The same with other tasks ready, in another world. -/
def beside (s : System ω κ) (ready : List (Task κ)) (world : ω) : System ω κ :=
  { s with queue := { s.queue with ready }, world }

/-- Two states differ in what is ready and in their worlds alone, and the worlds are related. -/
inductive Beside (W : ω → ω → Prop) : System ω κ → System ω κ → Prop
  | intro {s : System ω κ} (ready : List (Task κ)) {world : ω} (h : W s.world world) : Beside W s (s.beside ready world)

namespace Beside

variable {s s' s'' : System ω κ}

theorem refl (hW : Equivalence W) (s : System ω κ) : s.Beside W s := .intro s.queue.ready (hW.refl s.world)

theorem symm (hW : Equivalence W) (h : s.Beside W s') : s'.Beside W s := by
  obtain ⟨ready, hworld⟩ := h
  exact .intro s.queue.ready (hW.symm hworld)

theorem trans (hW : Equivalence W) (h : s.Beside W s') (h' : s'.Beside W s'') : s.Beside W s'' := by
  obtain ⟨ready, hworld⟩ := h
  obtain ⟨ready', hworld'⟩ := h'
  exact .intro ready' (hW.trans hworld hworld')

theorem world (h : s.Beside W s') : W s.world s'.world := by
  obtain ⟨ready, hworld⟩ := h
  exact hworld

theorem coincide (h : s.Beside W s') : s.Coincide s' := by
  obtain ⟨ready, hworld⟩ := h
  exact ⟨rfl, rfl, rfl, rfl, rfl, rfl⟩

theorem mark (host : Host ω κ) (thread : Option Thread) (h : s.Beside W s') :
    (host.engine.mark thread s).Beside W (host.engine.mark thread s') := by
  obtain ⟨ready, hworld⟩ := h
  exact .intro ready hworld

end Beside

end System

/-- What an operation ends with, and what it does, is the same whatever is ready. -/
abbrev Op.Indifferent (W : ω → ω → Prop) (op : Op ω κ α) : Prop := Op.Parallel (System.Beside W) Eq op op

/-- To change what belongs to the coordinator, whatever is ready. -/
theorem Op.Indifferent.changed {f : System ω κ → System ω κ} (hworld : ∀ s, (f s).world = s.world)
    (hf : ∀ s ready world, f (s.beside ready world) = (f s).beside ready world) :
    Op.Indifferent W (modify f : Op ω κ Unit) := by
  refine .modified ?_
  rintro s _ ⟨ready, h⟩
  rw [hf]
  exact .intro ready (hworld s ▸ h)

/-- Whatever goes by what the coordinator goes by is indifferent to the rest. -/
theorem Host.pervasive_indifferent {host : Host ω κ} (hpublish : ∀ event, (host.publish event).Indifferent W)
    (hanswer : ∀ {call : Call}, call.isRoutine → (host.answer call).Indifferent W) :
    host.Pervasive (Op.Indifferent W) (Op.Indifferent W) where
  pure := .result
  look h hsame := .get_bind fun s s' hs => hsame s s' hs.coincide ▸ h s
  bind h hf := h.andThen hf
  attempt h := h.attempt
  of_whole h := h
  settle := .settle
  andThen h hf := h.andThen hf
  publish := hpublish
  answer := hanswer
  changed _ _ _ := .changed (fun _ => rfl) fun _ _ _ => rfl
  vacated _ _ := .changed (fun _ => rfl) fun _ _ _ => rfl

/-! ## What waits -/

namespace System

/-- No delayed task is due. -/
def NoneDue (s : System ω κ) : Prop := ∀ d ∈ s.queue.delayed, s.clock < d.due

/-- What decides in two states what gets on the queue is the same: whether the queue is stopped, whether
    events of the driver are dropped, whether there is a connection to speak of, and what the policy
    goes by. -/
structure Level (door : ω → π) (s s' : System ω κ) : Prop where
  stopping : s'.queue.stopping = s.queue.stopping
  detached : s'.detached = s.detached
  alive : s'.connection.alive = s.connection.alive
  door : door s'.world = door s.world

/-- From one state to another nothing was made ready or got due, and the way to the queue is the same. -/
structure Steady (door : ω → π) (s s' : System ω κ) : Prop extends s.Level door s' where
  ready : s'.queue.ready = s.queue.ready
  noneDue : s.NoneDue → s'.NoneDue

variable {s s' s'' : System ω κ}

theorem Level.refl (s : System ω κ) : s.Level door s := ⟨rfl, rfl, rfl, rfl⟩

theorem Level.symm (h : s.Level door s') : s'.Level door s :=
  ⟨h.stopping.symm, h.detached.symm, h.alive.symm, h.door.symm⟩

theorem Level.trans (h : s.Level door s') (h' : s'.Level door s'') : s.Level door s'' :=
  ⟨h'.stopping.trans h.stopping, h'.detached.trans h.detached, h'.alive.trans h.alive, h'.door.trans h.door⟩

theorem Steady.refl (s : System ω κ) : s.Steady door s := ⟨.refl s, rfl, id⟩

theorem Steady.trans (h : s.Steady door s') (h' : s'.Steady door s'') : s.Steady door s'' :=
  ⟨h.toLevel.trans h'.toLevel, h'.ready.trans h.ready, h'.noneDue ∘ h.noneDue⟩

/-- A failure that is counted starts the timer of the lockout at most, which does not run out at once. -/
theorem steady_recordFailure {settings : Lockout.Settings} (hduration : 0 < settings.duration) (s : System ω κ) :
    let counted := s.lockout.recordFailure settings s.clock .lockoutExpired s.queue
    s.Steady door { s with lockout := counted.2.1, queue := counted.2.2 } := by
  simp only [Lockout.recordFailure]
  split
  · refine ⟨⟨?_, rfl, rfl, rfl⟩, ?_, fun hnone d hd => ?_⟩
    · exact TaskQueue.stopping_postDelayed.trans (Lockout.stopping_cancelTimer _ _)
    · exact TaskQueue.ready_postDelayed.trans (Lockout.ready_cancelTimer _ _)
    · rcases TaskQueue.mem_delayed_postDelayed hd with hd | rfl
      · exact hnone d ((Lockout.delayed_cancelTimer_sublist _ _).subset hd)
      · simp only
        omega
  · exact ⟨⟨rfl, rfl, rfl, rfl⟩, rfl, id⟩

end System

/-! ## Discretion -/

/-- What waits makes no difference to an operation, nor does it to what waits. -/
def Op.Discreet (W : ω → ω → Prop) (door : ω → π) (op : Op ω κ α) : Prop :=
  op.Indifferent W ∧ op.Follows (System.Steady door)

/-- To change what belongs to the coordinator, and leave alone what waits. -/
theorem Op.Discreet.changed {f : System ω κ → System ω κ} (hworld : ∀ s, (f s).world = s.world)
    (hf : ∀ s ready world, f (s.beside ready world) = (f s).beside ready world)
    (hsteady : ∀ s, System.Steady door s (f s)) : Op.Discreet W door (modify f : Op ω κ Unit) :=
  ⟨.changed hworld hf, hsteady⟩

/-- Whom the coordinator calls on while a task is performed is discreet: who is told of events, who is
    asked, but for the policy, and clients with tasks of their own. -/
structure Host.Discreet (host : Host ω κ) (W : ω → ω → Prop) (door : ω → π) : Prop where
  publish (event : Event) : (host.publish event).Discreet W door
  answer {call : Call} (h : call.isForPolicy = false) : (host.answer call).Discreet W door
  client (task : κ) : (host.client task).Discreet W door

namespace Host

theorem discreet_register (caller : CallerToken) (onDeath : Option (DeathAction κ)) :
    (register caller onDeath : Op ω κ Registration).Discreet W door := by
  refine ⟨.get_bind fun s s' hs => ?_, fun s => ?_⟩
  · rw [hs.coincide.liveness]
    rcases s.liveness.register caller onDeath with error | ⟨registration, liveness⟩
    · exact .throw _
    · have hchanged : Op.Indifferent W (modify fun s => { s with liveness } : Op ω κ Unit) :=
        .changed (fun _ => rfl) fun _ _ _ => rfl
      exact hchanged.andThen fun _ => .result registration
  · exact follows_register .refl (fun _ _ => ⟨⟨rfl, rfl, rfl, rfl⟩, rfl, id⟩) caller onDeath s

namespace Discreet

variable {host : Host ω κ} (h : host.Discreet W door)

include h

/-- Discretion goes through composition. -/
theorem pervasive : host.Pervasive (Op.Discreet W door) (Op.Discreet W door) := by
  refine Pervasive.both (pervasive_indifferent (fun event => (h.publish event).1) fun hcall => ?_)
    (pervasive_follows .refl .trans (fun event => (h.publish event).2) (fun hcall => ?_) ?_ fun _ _ _ => ?_)
  · exact (h.answer (Call.isForPolicy_of_isRoutine hcall)).1
  · exact (h.answer (Call.isForPolicy_of_isRoutine hcall)).2
  · exact fun _ _ _ _ halive => ⟨⟨rfl, rfl, halive, rfl⟩, rfl, id⟩
  · exact ⟨⟨rfl, rfl, rfl, rfl⟩, rfl, id⟩

theorem slotNew (kind : SessionKind) (caller : CallerToken) (sink : Option SinkName) (subject : Int32) :
    (Host.slotNew kind caller sink subject : Op ω κ Unit).Discreet W door := by
  refine h.pervasive.coarse.slotNew (fun _ => discreet_register caller _) fun x => ?_
  exact .changed (fun _ => rfl) (fun _ _ _ => rfl) fun _ => ⟨⟨rfl, rfl, rfl, rfl⟩, rfl, id⟩

theorem recordFailure (hduration : 0 < host.setup.lockout.duration) : host.recordFailure.Discreet W door := by
  have hrest (result : LockoutResult) (event : Event) : Op.Discreet W door (do
      if result = .entered then host.publish event
      return result) :=
    h.pervasive.ite (h.pervasive.bind (h.publish _) fun _ => h.pervasive.pure result) (h.pervasive.pure result)
  -- The count is set together with the queue, so this is no change of the coordinator's own alone.
  refine ⟨.get_bind ?_, fun s => ?_⟩
  · rintro s _ ⟨ready, hworld⟩
    have hcounted : s.lockout.recordFailure host.setup.lockout s.clock .lockoutExpired { s.queue with ready } = _ :=
      s.lockout.recordFailure_with_ready host.setup.lockout s.clock .lockoutExpired s.queue ready
    simp only [System.beside, hcounted]
    exact (Op.Parallel.set (.intro ready hworld)).andThen fun _ => (hrest _ _).1
  · exact (System.steady_recordFailure hduration s).trans ((hrest _ _).2 _)

/-- With discreet collaborators, and a lockout that lasts, what waits makes no difference to a task, nor
    does the task to what waits. -/
theorem perform (hduration : 0 < host.setup.lockout.duration) (task : Task κ) : (host.perform task).Discreet W door := by
  refine h.pervasive.coarse.perform_of_all h.answer h.slotNew (h.recordFailure hduration) ?_ ?_ h.client task
  · exact .changed (fun _ => rfl) (fun _ _ _ => rfl) fun _ => ⟨⟨rfl, rfl, rfl, rfl⟩, rfl, id⟩
  · refine h.pervasive.bind ?_ fun _ => h.publish _
    exact .changed (fun _ => rfl) (fun _ _ _ => rfl) fun _ => ⟨⟨rfl, rfl, rfl, rfl⟩, rfl, id⟩

theorem runTask (hduration : 0 < host.setup.lockout.duration) (task : Task κ) : (host.runTask task).Discreet W door :=
  h.pervasive.coarse.runTask (h.perform hduration task)

end Discreet

end Host

end Fingerprint
