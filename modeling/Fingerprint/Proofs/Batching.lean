import Fingerprint.Proofs.Indifference
import Fingerprint.Proofs.Performance
import Fingerprint.Proofs.Privacy

/-!
# Batching

Callers, the driver and the machine put what they want done on the queue, and
the queue is run now and then. How often makes no difference: whether it is run
each time that somebody wants something, or once when everybody has been heard,
the coordinator ends up the same, and the driver, the sinks and the store have
been asked for the same, in the same order.

It would make a difference if the way to the queue led past something that
tasks change, or if tasks went by what is still waiting. So it takes
collaborators that are discreet, and a policy that keeps to itself: what it
answers does not depend on what was done meanwhile, and nobody else goes by what
it was asked. That nobody puts anything on the queue is not enough.

* `Occasion.isQueued`: occasions on which something is put on the queue, at most;
* `Host.Discreet.runPending`: a queue that is run gives each task its turn;
* `Host.Apart`: what is asked of those around the coordinator;
* `Host.Ahead`: one system has run what waits in another, and stays ahead;
* `Host.Apart.drained_once`: to run the queue once is enough;
* `Host.not_drained_once_of_heeding`: it is not where those who are asked go by more than that.
-/

namespace Fingerprint

variable {ω κ α β π : Type} {W : ω → ω → Prop} {door : ω → π} {host : Host ω κ}

/-! ## Occasions -/

/-- Whether what a caller asks for is put on the queue, and nobody waits for an answer. -/
def ServiceCall.isQueued : ServiceCall → Bool
  | enroll .. | cancelEnrollment _ | authenticate .. | cancelAuthentication .. | remove .. | rename .. => true
  | preEnroll _ | isHardwareDetected .. | enrolledTemplates .. | hasEnrolledTemplates .. | authenticatorId .. => false

/-- Whether no more comes of an occasion than that something is put on the queue. -/
def Occasion.isQueued : Occasion κ → Bool
  | served call => call.isQueued
  | posted _ | reported _ | linkDied _ | callerDied _ | subjectChanged _ => true
  | _ => false

/-- Behind the gate, what is put on the queue is one task. -/
theorem ServiceCall.execute_of_isQueued (host : Host ω κ) {call : ServiceCall} (h : call.isQueued) :
    ∃ task : Task κ, ∀ s : System ω κ, ((host.execute call).run s).2 = ((Op.post task).run s).2 := by
  cases call with
  | enroll | cancelEnrollment | authenticate | cancelAuthentication | remove | rename => exact ⟨_, fun _ => rfl⟩
  | preEnroll | isHardwareDetected | enrolledTemplates | hasEnrolledTemplates | authenticatorId => cases h

namespace Host

variable (host : Host ω κ) (s : System ω κ)

theorem run_meet_served (call : ServiceCall) :
    ((host.meet (.served call)).run s).2 = ((host.serve call).run s).2 := by
  unfold meet
  rw [Op.run_bind]
  rcases (host.serve call).run s with ⟨_ | _, _⟩ <;> rfl

theorem run_meet_reported (event : DriverEvent) : ((host.meet (.reported event)).run s).2 =
    if s.detached then s else ((Op.post (.driverEvent event)).run s).2 := by
  unfold meet report
  rw [Op.run_bind, Op.run_get_bind]
  cases s.detached <;> rfl

theorem run_meet_linkDied (generation : Nat) : ((host.meet (.linkDied generation)).run s).2 =
    if s.connection.alive then ((Op.post (.driverDied generation)).run s).2 else s := by
  unfold meet driverLinkDied
  rw [Op.run_bind, Op.run_get_bind]
  cases s.connection.alive <;> rfl

end Host

/-! ## Turns -/

namespace Host

namespace Discreet

variable (h : host.Discreet W door) (hduration : 0 < host.setup.lockout.duration) {s s' : System ω κ}

include h hduration

theorem turn_beside (task : Task κ) (hs : s.Beside W s') : (host.turn s task).Beside W (host.turn s' task) := by
  have hthread : s'.thread = s.thread := by
    obtain ⟨ready, hworld⟩ := hs
    rfl
  unfold turn
  rw [hthread]
  exact ((h.runTask hduration task).1 _ _ (hs.mark host (some s.thread))).2.mark host none

theorem turns_beside (tasks : List (Task κ)) (hs : s.Beside W s') :
    (tasks.foldl host.turn s).Beside W (tasks.foldl host.turn s') := by
  induction tasks generalizing s s' with
  | nil => exact hs
  | cons task rest ih => exact ih (h.turn_beside hduration task hs)

theorem steady_turn (task : Task κ) (s : System ω κ) : s.Steady door (host.turn s task) := by
  have hmark (thread : Option Thread) (s : System ω κ) : s.Steady door (host.engine.mark thread s) :=
    ⟨⟨rfl, rfl, rfl, rfl⟩, rfl, id⟩
  exact ((hmark _ s).trans ((h.runTask hduration task).2 _)).trans (hmark none _)

/-- Where nothing is due, and the queue is not stopped before its time, all that is ready has its turn
    when the queue is run, and nothing else has. -/
theorem runPending {room : Nat} (hnone : s.NoneDue) (hstopping : s.queue.stopping = true → s.queue.ready = [])
    (hroom : s.queue.ready.length ≤ room) (hs : s.Beside W s') :
    let drained := (host.engine.runPending room s).2
    drained.Beside W (s.queue.ready.foldl host.turn s') ∧ s.Level door drained ∧ drained.NoneDue ∧
      drained.queue.ready = [] := by
  have hidle {s s' : System ω κ} (hs : s.Beside W s') (hnone : s.NoneDue) (hready : s.queue.ready = []) :
      s.Beside W (s.queue.ready.foldl host.turn s') ∧ s.Level door s ∧ s.NoneDue ∧ s.queue.ready = [] :=
    ⟨by rwa [hready], .refl s, hnone, hready⟩
  -- Each round takes one task, and none comes back: there is room for those that are ready now.
  induction room generalizing s s' with
  | zero => exact hidle hs hnone (List.eq_nil_of_length_eq_zero (Nat.le_zero.1 hroom))
  | succ room ih =>
    cases hgoing : s.queue.stopping with
    | true =>
      rw [runPending_of_stopping hgoing]
      exact hidle hs hnone (hstopping hgoing)
    | false =>
      have hpromote : s.queue.promote s.clock = s.queue := TaskQueue.promote_of_none_due hnone
      cases hready : s.queue.ready with
      | nil =>
        have hpop : s.queue.pop s.clock = (none, s.queue) := by rw [TaskQueue.pop, hpromote, hready]
        rw [runPending_of_none hgoing hpop]
        exact hready ▸ hidle hs hnone hready
      | cons task rest =>
        have hpop : s.queue.pop s.clock = (some task, { s.queue with ready := rest }) := by
          rw [TaskQueue.pop_of_ready (hpromote.symm ▸ hready), hpromote]
        rw [runPending_of_some hgoing hpop]
        -- What has been taken off the queue is ready no more; that makes no difference to its turn.
        let taken : System ω κ := { s with queue := { s.queue with ready := rest } }
        have hturn : (host.turn taken task).Beside W (host.turn s' task) := by
          obtain ⟨ready, hworld⟩ := hs
          exact h.turn_beside hduration task (.intro (s := taken) ready hworld)
        have hsteady := h.steady_turn hduration task taken
        have hon : (host.turn taken task).queue.stopping = false := hsteady.stopping.trans hgoing
        have hlength : rest.length ≤ room := by
          rw [hready] at hroom
          exact Nat.le_of_succ_le_succ hroom
        obtain ⟨hbeside, hlevel, hrest⟩ := ih (hsteady.noneDue hnone)
          (fun hstop => absurd (hon.symm.trans hstop) Bool.false_ne_true) (hsteady.ready.symm ▸ hlength) hturn
        rw [hsteady.ready] at hbeside
        have htaken : s.Level door (host.turn taken task) :=
          ⟨hsteady.stopping, hsteady.detached, hsteady.alive, hsteady.door⟩
        exact ⟨hbeside, htaken.trans hlevel, hrest⟩

end Discreet

end Host

/-! ## The way to the queue -/

/-- Tasks were put behind those that are ready, but none on a queue that is stopped, and the world is
    another that those who are asked cannot tell apart. -/
inductive System.Queued (W : ω → ω → Prop) (tasks : List (Task κ)) : System ω κ → System ω κ → Prop
  | intro {s : System ω κ} (world : ω) (h : W s.world world) (hstopping : s.queue.stopping = true → tasks = []) :
    Queued W tasks s (s.beside (s.queue.ready ++ tasks) world)

/-- In two systems the same tasks were put on the queue, and the policy goes by the same in both. -/
structure System.Abreast (W : ω → ω → Prop) (door : ω → π) (tasks : List (Task κ)) (s s' t t' : System ω κ) :
    Prop where
  one : s.Queued W tasks t
  other : s'.Queued W tasks t'
  door : door t'.world = door t.world

namespace System

variable {tasks : List (Task κ)} {s s' t t' : System ω κ}

theorem Queued.refl (hW : Equivalence W) (s : System ω κ) : s.Queued W [] s := by
  have hqueued : s.Queued W [] (s.beside (s.queue.ready ++ []) s.world) := .intro _ (hW.refl s.world) fun _ => rfl
  rwa [List.append_nil] at hqueued

theorem Queued.ready (h : s.Queued W tasks t) : t.queue.ready = s.queue.ready ++ tasks := by
  obtain ⟨world, -, -⟩ := h
  rfl

theorem Queued.tell (hW : Equivalence W) (h : s.Queued W tasks t) {world : ω} (hworld : W t.world world) :
    s.Queued W tasks { t with world } := by
  obtain ⟨_, hbefore, hstopping⟩ := h
  exact .intro world (hW.trans hbefore hworld) hstopping

theorem Queued.post (h : s.Queued W [] t) (task : Task κ) :
    s.Queued W (if s.queue.stopping then [] else [task]) { t with queue := t.queue.post task } := by
  obtain ⟨world, hworld, -⟩ := h
  cases hstop : s.queue.stopping with
  | true =>
    have hqueued : s.Queued W [] (s.beside (s.queue.ready ++ []) world) := .intro world hworld fun _ => rfl
    simpa [System.beside, TaskQueue.post, hstop] using hqueued
  | false =>
    have hqueued : s.Queued W [task] (s.beside (s.queue.ready ++ [task]) world) :=
      .intro world hworld fun hstopping => by simp [hstop] at hstopping
    simpa [System.beside, TaskQueue.post, hstop] using hqueued

theorem Abreast.refl (hW : Equivalence W) (hlevel : s.Level door s') : Abreast W door ([] : List (Task κ)) s s' s s' :=
  ⟨.refl hW s, .refl hW s', hlevel.door⟩

/-- One task, or none, is put on both queues. -/
theorem Abreast.post (h : Abreast W door [] s s' t t') (hstopping : s'.queue.stopping = s.queue.stopping)
    (task : Task κ) : ∃ tasks, tasks.length ≤ 1 ∧
      Abreast W door tasks s s' ((Op.post task).run t).2 ((Op.post task).run t').2 := by
  refine ⟨if s.queue.stopping then [] else [task], ?_, h.one.post task, ?_, h.door⟩
  · split
    · exact Nat.zero_le 1
    · exact Nat.le_refl 1
  · rw [← hstopping]
    exact h.other.post task

end System

/-! ## Those around the coordinator -/

/-- Those around the coordinator have nothing to do with each other, but that they are asked in turn. What
    a world is to those who are asked while tasks are performed is up to `W`, and what it is to the
    policy is up to `door`. -/
structure Host.Apart (host : Host ω κ) (W : ω → ω → Prop) (door : ω → π) : Prop where
  /-- What observers keep of an event is no concern of anybody else. -/
  observe (event : Event) (s : System ω κ) :
    W s.world (host.observe event s) ∧ door (host.observe event s) = door s.world
  /-- Whoever is asked while a task is performed goes by what it has been asked, and puts nothing on the
      queue. -/
  answer {call : Call} (h : call.isForPolicy = false) : (host.answer call).Discreet W door
  client (task : κ) : (host.client task).Discreet W door
  /-- To ask the policy changes no more than what it keeps for itself. -/
  ask {call : Call} (h : call.isForPolicy) (s : System ω κ) :
    ∃ world, W s.world world ∧ ((host.answer call).run s).2 = { s with world }
  /-- What the policy says is a matter of what it goes by, and so is what it goes by then. -/
  say {call : Call} (h : call.isForPolicy) {s s' : System ω κ} (hdoor : door s'.world = door s.world) :
    ((host.answer call).run s').1 = ((host.answer call).run s).1 ∧
      door ((host.answer call).run s').2.world = door ((host.answer call).run s).2.world

namespace Host.Apart

open Op.Parallel

variable (h : host.Apart W door) (hW : Equivalence W) {s s' : System ω κ}

include h hW

theorem discreet : host.Discreet W door where
  publish event := by
    refine ⟨.modified ?_, fun s => ⟨⟨rfl, rfl, rfl, (h.observe event s).2⟩, rfl, id⟩⟩
    intro s s' hs
    have hobserved := hW.trans (hW.symm (h.observe event s).1) (hW.trans hs.world (h.observe event s').1)
    obtain ⟨ready, -⟩ := hs
    exact .intro ready hobserved
  answer := h.answer
  client := h.client

/-! ### At the gate -/

theorem publish (event : Event) :
    Op.Parallel (System.Abreast W door ([] : List (Task κ)) s s') Eq (host.publish event) (host.publish event) := by
  refine .modified fun t t' ht => ⟨ht.one.tell hW (h.observe event t).1, ht.other.tell hW (h.observe event t').1, ?_⟩
  exact (h.observe event t').2.trans (ht.door.trans (h.observe event t).2.symm)

/-- The policy gives the same answer to either. -/
theorem asked {call : Call} (hcall : call.isForPolicy) :
    Op.Parallel (System.Abreast W door ([] : List (Task κ)) s s') Eq (host.answer call) (host.answer call) := by
  intro t t' ht
  obtain ⟨hsame, hdoor⟩ := h.say hcall ht.door
  obtain ⟨world, hworld, hrun⟩ := h.ask hcall t
  obtain ⟨world', hworld', hrun'⟩ := h.ask hcall t'
  refine ⟨Op.agree_eq_iff.2 hsame.symm, ?_, ?_, hdoor⟩
  · exact hrun ▸ ht.one.tell hW hworld
  · exact hrun' ▸ ht.other.tell hW hworld'

/-- Whoever is let in in one system is let in in the other. -/
theorem gate (call : ServiceCall) :
    Op.Parallel (System.Abreast W door ([] : List (Task κ)) s s') Eq (host.gate call) (host.gate call) :=
  SameGate.gate ⟨rfl, .rfl, fun _ _ _ => h.publish hW _, fun _ => h.asked hW rfl, fun _ => h.asked hW rfl⟩ rfl rfl rfl

/-- What a caller asks for gets on both queues, or on neither. -/
theorem serve_of_isQueued {call : ServiceCall} (hqueued : call.isQueued) (hlevel : s.Level door s') :
    ∃ tasks, tasks.length ≤ 1 ∧
      System.Abreast W door tasks s s' ((host.serve call).run s).2 ((host.serve call).run s').2 := by
  obtain ⟨hagree, hafter⟩ := h.gate hW call s s' (.refl hW hlevel)
  rw [serve_eq, Op.run_bind, Op.run_bind]
  rcases hgate : (host.gate call).run s with ⟨outcome, t⟩
  rcases hgate' : (host.gate call).run s' with ⟨outcome', t'⟩
  rw [hgate, hgate'] at hagree hafter
  cases hagree with
  | error fault => exact ⟨[], Nat.zero_le 1, hafter⟩
  | @ok admitted _ hsame =>
    subst hsame
    cases admitted with
    | false => exact ⟨[], Nat.zero_le 1, hafter⟩
    | true =>
      obtain ⟨task, htask⟩ := ServiceCall.execute_of_isQueued host hqueued
      simp only [↓reduceIte, htask]
      exact hafter.post hlevel.stopping task

/-- Whatever is put on the queue in one system is put there in the other. -/
theorem meet_of_isQueued {occasion : Occasion κ} (hqueued : occasion.isQueued) (hlevel : s.Level door s') :
    ∃ tasks, tasks.length ≤ 1 ∧
      System.Abreast W door tasks s s' ((host.meet occasion).run s).2 ((host.meet occasion).run s').2 := by
  have hstart : System.Abreast W door [] s s' s s' := .refl hW hlevel
  cases occasion with
  | served call =>
    rw [run_meet_served, run_meet_served]
    exact h.serve_of_isQueued hW hqueued hlevel
  | posted task => exact hstart.post hlevel.stopping task
  | callerDied caller => exact hstart.post hlevel.stopping (.callerDied caller)
  | subjectChanged subject => exact hstart.post hlevel.stopping (.applySubject subject)
  | reported event =>
    rw [run_meet_reported, run_meet_reported, hlevel.detached]
    split
    · exact ⟨[], Nat.zero_le 1, hstart⟩
    · exact hstart.post hlevel.stopping _
  | linkDied generation =>
    rw [run_meet_linkDied, run_meet_linkDied, hlevel.alive]
    split
    · exact hstart.post hlevel.stopping _
    · exact ⟨[], Nat.zero_le 1, hstart⟩
  | _ => cases hqueued

end Host.Apart

/-! ## One system ahead of another -/

/-- What waits in the second system has been run in the first, where nothing waits any more. -/
structure Host.Ahead (host : Host ω κ) (W : ω → ω → Prop) (door : ω → π) (s s' : System ω κ) : Prop where
  level : s.Level door s'
  rested : s.queue.ready = []
  noneDue : s.NoneDue
  noneDue' : s'.NoneDue
  stopping : s'.queue.stopping = true → s'.queue.ready = []
  beside : s.Beside W (s'.queue.ready.foldl host.turn s')

namespace Host.Ahead

variable {s s' : System ω κ}

theorem start (hW : Equivalence W) (hrested : s.queue.ready = []) (hnone : s.NoneDue) : host.Ahead W door s s where
  level := .refl s
  rested := hrested
  noneDue := hnone
  noneDue' := hnone
  stopping _ := hrested
  beside := hrested ▸ .refl hW s

variable (h : host.Ahead W door s s') (hhost : host.Discreet W door) (hduration : 0 < host.setup.lockout.duration)
  (hW : Equivalence W)

include h hhost hduration hW

/-- The same is put on both queues, and run at once in the first system. -/
theorem step {tasks : List (Task κ)} {t t' : System ω κ} (hqueued : System.Abreast W door tasks s s' t t')
    (hroom : tasks.length ≤ host.patience) :
    host.Ahead W door (host.engine.runPending host.patience t).2 t' := by
  obtain ⟨⟨world, hworld, hstopping⟩, ⟨world', hworld', hstopping'⟩, hdoor⟩ := hqueued
  let t := s.beside (s.queue.ready ++ tasks) world
  let t' := s'.beside (s'.queue.ready ++ tasks) world'
  have hready : t.queue.ready = tasks := by
    change s.queue.ready ++ tasks = tasks
    rw [h.rested, List.nil_append]
  have hlevel : t.Level door t' := ⟨h.level.stopping, h.level.detached, h.level.alive, hdoor⟩
  obtain ⟨hbeside, hdrained, hnone, hrested⟩ := hhost.runPending (s := t) hduration h.noneDue
    (fun hstop => hready.trans (hstopping hstop)) (hready.symm ▸ hroom) (.refl hW t)
  -- What waits does in the second system what it has done in the first, whatever the policy was asked since.
  have hwaiting : t.Beside W (s'.queue.ready.foldl host.turn t') := by
    have hback : t.Beside W s := (System.Beside.intro _ hworld).symm hW
    exact (hback.trans hW h.beside).trans hW (hhost.turns_beside hduration _ (.intro _ hworld'))
  refine ⟨hdrained.symm.trans hlevel, hrested, hnone, h.noneDue', fun hstop => ?_, ?_⟩
  · exact List.append_eq_nil_iff.2 ⟨h.stopping hstop, hstopping' hstop⟩
  · -- The tasks that came now have their turn last.
    rw [hready] at hbeside
    change System.Beside W _ ((s'.queue.ready ++ tasks).foldl host.turn t')
    rw [List.foldl_append]
    exact hbeside.trans hW (hhost.turns_beside hduration tasks hwaiting)

/-- Once the queue is run in the second system as well, it has caught up. -/
theorem caught_up (hroom : s'.queue.ready.length ≤ host.patience) :
    let drained := (host.engine.runPending host.patience s').2
    drained = { s with world := drained.world } ∧ W s.world drained.world ∧ door drained.world = door s.world := by
  intro drained
  obtain ⟨hbeside, hlevel, -, hrested⟩ := hhost.runPending hduration h.noneDue' h.stopping hroom (.refl hW s')
  have hdrained : s.Beside W drained := h.beside.trans hW (hbeside.symm hW)
  refine ⟨?_, hdrained.world, hlevel.door.trans h.level.door⟩
  change drained.queue.ready = [] at hrested
  generalize drained = t at hdrained hrested
  obtain ⟨ready, hworld⟩ := hdrained
  obtain rfl : ready = s.queue.ready := hrested.trans h.rested.symm
  rfl

end Host.Ahead

/-! ## Often or once -/

namespace Host.Apart

variable (h : host.Apart W door) (hW : Equivalence W) (hduration : 0 < host.setup.lockout.duration)

include h hW hduration

/-- What is ahead stays ahead, until the other catches up. -/
theorem course_ahead {occasions : List (Occasion κ)} (hqueued : ∀ occasion ∈ occasions, occasion.isQueued)
    {s s' : System ω κ} (hahead : host.Ahead W door s s')
    (hroom : s'.queue.ready.length + occasions.length ≤ host.patience) :
    let often := (host.course (occasions.flatMap fun occasion => [occasion, .drained]) s).2
    let once := (host.course (occasions ++ [.drained]) s').2
    once = { often with world := once.world } ∧ W often.world once.world ∧ door once.world = door often.world := by
  have hdiscreet := h.discreet hW
  -- Along the occasions the first system runs each task at once, and the second lets it wait.
  induction occasions generalizing s s' with
  | nil => exact hahead.caught_up hdiscreet hduration hW hroom
  | cons occasion rest ih =>
    obtain ⟨hfirst, hrest⟩ := List.forall_mem_cons.1 hqueued
    obtain ⟨tasks, hlength, habreast⟩ := h.meet_of_isQueued hW hfirst hahead.level
    have hwaiting : ((host.meet occasion).run s').2.queue.ready.length + rest.length ≤ host.patience := by
      rw [habreast.other.ready, List.length_append]
      rw [List.length_cons] at hroom
      omega
    have hpatience : tasks.length ≤ host.patience := by
      rw [List.length_cons] at hroom
      omega
    exact ih hrest (hahead.step hdiscreet hduration hW habreast hpatience) hwaiting

end Host.Apart

/-- Whether it is an entry of what was asked, but not of the policy. -/
def Entry.isAsked : Entry → Bool
  | called call .. => !call.isForPolicy
  | published .. | emitted _ => false

namespace Host

/-- What was asked of the driver, of sinks, of the store and of whoever else there is but the policy,
    with the answers, oldest first. -/
def Transcript.asked (transcript : host.Transcript) (world : ω) : List Entry :=
  (transcript.history world).filter Entry.isAsked

/-- Two worlds are the same to those who are asked while tasks are performed: what they keep for
    themselves is the same, and so is what they were asked. -/
structure Transcript.Accord (transcript : host.Transcript) (book : ω → β) (world world' : ω) : Prop where
  book : book world' = book world
  asked : transcript.asked world' = transcript.asked world

theorem Transcript.accord_equivalence (transcript : host.Transcript) (book : ω → β) :
    Equivalence (transcript.Accord book) where
  refl _ := ⟨rfl, rfl⟩
  symm h := ⟨h.book.symm, h.asked.symm⟩
  trans h h' := ⟨h'.book.trans h.book, h'.asked.trans h.asked⟩

/-- Nothing is ready and nothing is due. Then whatever is put on the queue, by callers, the driver and
    the machine, it makes no difference whether the queue is run each time or once in the end, with
    patience for all of it: the coordinator ends up the same, with the same sessions, registrations,
    lockout, connection and timers; so do those who are asked, the store among them; and they were
    asked for the same, in the same order, with the same answers. -/
theorem Apart.drained_once {transcript : host.Transcript} {book : ω → β} (h : host.Apart (transcript.Accord book) door)
    (hduration : 0 < host.setup.lockout.duration) {occasions : List (Occasion κ)}
    (hqueued : ∀ occasion ∈ occasions, occasion.isQueued) (hpatience : occasions.length ≤ host.patience)
    {s : System ω κ} (hready : s.queue.ready = []) (hnone : s.NoneDue) :
    let often := (host.course (occasions.flatMap fun occasion => [occasion, .drained]) s).2
    let once := (host.course (occasions ++ [.drained]) s).2
    once = { often with world := once.world } ∧ book once.world = book often.world ∧
      transcript.asked once.world = transcript.asked often.world ∧ door once.world = door often.world := by
  have hW := transcript.accord_equivalence book
  have hroom : s.queue.ready.length + occasions.length ≤ host.patience := by
    rw [hready, List.length_nil]
    omega
  obtain ⟨hsame, hworld, hdoor⟩ := h.course_ahead hW hduration hqueued (.start hW hready hnone) hroom
  exact ⟨hsame, hworld.book, hworld.asked, hdoor⟩

end Host

/-! ## A ledger -/

namespace Ledger

variable (setup : Setup) (rule : (call : Call) → Except Fault call.Reply)

theorem asked_append (history more : List Entry) : (record setup rule).transcript.asked (history ++ more) =
    (record setup rule).transcript.asked history ++ more.filter Entry.isAsked :=
  List.filter_append ..

/-- Those around a ledger go by a rule. The store keeps the changes that it was asked for. -/
theorem apart : (Ledger.host setup rule).Apart ((record setup rule).transcript.Accord changes) fun _ => () where
  observe event s := by
    refine ⟨⟨?_, ?_⟩, rfl⟩
    · exact (changes_append s.world [.published event s.slots]).trans (List.append_nil _)
    · exact (asked_append setup rule s.world [.published event s.slots]).trans (List.append_nil _)
  answer {call} _ := by
    refine ⟨?_, fun s => ?_⟩
    · rintro s _ ⟨ready, hbook, hasked⟩
      rw [run_answer, run_answer]
      refine ⟨Op.agree_eq_iff.2 rfl, .intro ready ⟨?_, ?_⟩⟩
      · rw [changes_append, changes_append]
        exact congrArg (· ++ _) hbook
      · rw [asked_append, asked_append]
        exact congrArg (· ++ _) hasked
    · rw [run_answer]
      exact ⟨⟨rfl, rfl, rfl, rfl⟩, rfl, id⟩
  client task := task.elim
  ask {call} hcall s := by
    have hmutation : call.isMutation = false := by cases call <;> first | rfl | cases hcall
    rw [run_answer]
    refine ⟨_, ⟨?_, ?_⟩, rfl⟩
    · simp [changes, Entry.change?, hmutation]
    · simp [asked_append, Entry.isAsked, hcall]
  say _ s s' _ := by
    rw [run_answer, run_answer]
    exact ⟨rfl, rfl⟩

end Ledger

/-- An enrollment is not finished when its caller dies, and the driver dies before a finger is
    recognized. -/
def Ledger.upsets : List (Occasion Empty) :=
  [.served (.enroll 1 (some "a") { subject := 7 }), .reported (.enrollResult 1 5 7 2), .callerDied 1,
    .subjectChanged 8, .served (.authenticate 2 (some "b") { subject := 8 } "app"), .linkDied 1,
    .reported (.authenticated 1 0 8), .served (.rename 2 8 5 "thumb")]

theorem Host.Apart.drained_once_of_upsets :
    let often := ((Ledger.host {} Ledger.obliging).course
      (Ledger.upsets.flatMap fun occasion => [occasion, .drained]) { world := [] }).2
    let once := ((Ledger.host {} Ledger.obliging).course (Ledger.upsets ++ [.drained]) { world := [] }).2
    (once = { often with world := once.world } ∧ changes once.world = changes often.world) ∧
      once.lockout.failed = 1 ∧ once.connection.generation = 2 ∧ changes once.world = [.storeRename 8 5 "thumb"] := by
  refine ⟨?_, by decide +kernel⟩
  have hqueued : ∀ occasion ∈ Ledger.upsets, occasion.isQueued := by decide
  have hnone : ({ world := [] } : System (List Entry) Empty).NoneDue := by simp [System.NoneDue]
  obtain ⟨hsame, hstore, -⟩ :=
    (Ledger.apart {} Ledger.obliging).drained_once (by decide) hqueued (by decide) rfl hnone
  exact ⟨hsame, hstore⟩

/-! ## Where they do not keep to themselves -/

namespace Entry

/-- Whether a driver was asked to enroll. -/
def isToEnroll : Entry → Bool
  | called (.driver _ (.enroll ..)) .. => true
  | _ => false

/-- Whether the policy was asked who may use the sensor. -/
def isToUse : Entry → Bool
  | called (.canUseSensor ..) .. => true
  | _ => false

/-- Whether it was told that somebody may not use the sensor. -/
def isDenial : Entry → Bool
  | published event _ => event.id = "sensor_use_denied"
  | _ => false

end Entry

namespace Host

/-- Nobody who is asked puts anything on the queue, or has anything else to do with the coordinator. -/
def Quiet (host : Host ω κ) : Prop :=
  ∀ (call : Call) (s : System ω κ), ∃ world, ((host.answer call).run s).2 = { s with world }

/-- Whether the queue is run each time or once in the end, the slots are the same. -/
def DrainsAlike (host : Host ω κ) : Prop :=
  ∀ occasions : List (Occasion κ), (∀ occasion ∈ occasions, occasion.isQueued) → occasions.length ≤ host.patience →
    ∀ s : System ω κ, s.queue.ready = [] → s.NoneDue →
      (host.course (occasions ++ [.drained]) s).2.slots =
        (host.course (occasions.flatMap fun occasion => [occasion, .drained]) s).2.slots

end Host

namespace Ledger

/-- A host like that of a ledger, but the rule may go by all that there is. -/
def heeding (setup : Setup) (rule : System (List Entry) Empty → (call : Call) → Except Fault call.Reply) :
    Host (List Entry) Empty where
  setup
  answer call := do answer (rule (← get)) call
  observe event s := s.world ++ [.published event s.slots]
  client task := nomatch task
  patience := 100

theorem quiet_heeding (setup : Setup) (rule : System (List Entry) Empty → (call : Call) → Except Fault call.Reply) :
    (heeding setup rule).Quiet := by
  intro call s
  have hrun := run_answer setup (rule s) call s
  exact ⟨_, congrArg Prod.snd hrun⟩

/-- The policy lets nobody use the sensor once a driver was asked to enroll. -/
def jealous (s : System (List Entry) Empty) : (call : Call) → Except Fault call.Reply
  | .canUseSensor .. => .ok (!s.world.any Entry.isToEnroll)
  | call => obliging call

/-- The driver enrolls nothing once the policy was asked who may use the sensor. -/
def jaded (s : System (List Entry) Empty) : (call : Call) → Except Fault call.Reply
  | .driver _ (.enroll ..) => .ok (if s.world.any Entry.isToUse then (7 : Int) else (0 : Int))
  | call => obliging call

/-- Nobody may use the sensor, and the driver enrolls nothing once that was told. -/
def downcast (s : System (List Entry) Empty) : (call : Call) → Except Fault call.Reply
  | .canUseSensor .. => .ok false
  | .driver _ (.enroll ..) => .ok (if s.world.any Entry.isDenial then (7 : Int) else (0 : Int))
  | call => obliging call

/-- The driver enrolls nothing while anything is waiting. -/
def busy (s : System (List Entry) Empty) : (call : Call) → Except Fault call.Reply
  | .driver _ (.enroll ..) => .ok (if s.queue.ready.isEmpty then (0 : Int) else (7 : Int))
  | call => obliging call

end Ledger

/-- Nobody puts anything on the queue. Yet it makes a difference how often that is run, if the policy goes
    by what the driver was asked meanwhile, or the driver by what the policy was asked, what was told, or
    what is waiting. -/
theorem Host.not_drained_once_of_heeding :
    (¬∀ host : Host (List Entry) Empty, host.Quiet → 0 < host.setup.lockout.duration → host.DrainsAlike) ∧
      ¬(Ledger.heeding {} Ledger.jealous).DrainsAlike ∧
      ¬(Ledger.heeding { teardownOnReject := true } Ledger.jaded).DrainsAlike ∧
      ¬(Ledger.heeding { teardownOnReject := true } Ledger.downcast).DrainsAlike ∧
      ¬(Ledger.heeding { teardownOnReject := true } Ledger.busy).DrainsAlike := by
  have hnone : ({ world := [] } : System (List Entry) Empty).NoneDue := by simp [System.NoneDue]
  have hjealous : ¬(Ledger.heeding {} Ledger.jealous).DrainsAlike := fun h => by
    have hsame := h [.served (.enroll 1 (some "a") { subject := 7 }),
      .served (.authenticate 2 (some "b") { subject := 7 } "app")] (by decide) (by decide) _ rfl hnone
    revert hsame
    decide +kernel
  -- An enrollment that is rejected leaves its slot, and whether it is depends on when its turn comes.
  let occasions : List (Occasion Empty) :=
    [.served (.enroll 1 (some "a") { subject := 7 }), .served (.cancelAuthentication 2 "app")]
  refine ⟨fun h => hjealous (h _ (Ledger.quiet_heeding _ _) (by decide)), hjealous, ?_, ?_, ?_⟩
  all_goals
    intro h
    have hsame := h occasions (by decide) (by decide) _ rfl hnone
    revert hsame
    decide +kernel

end Fingerprint
