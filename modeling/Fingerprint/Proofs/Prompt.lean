import Fingerprint.Proofs.Grammar
import Fingerprint.Proofs.Timer
import Fingerprint.Proofs.Usage
import Fingerprint.Simulator.Console

/-!
# What a line does to the simulator

Whatever a line sets going is over before the next one is read. A command puts
two tasks on the queue at most, and no task puts another one there; but a
failed authentication may set the timer of the lockout, of which there is never
more than one. So the queue runs empty long before anybody loses patience, and
what then waits is at most a timer that has not run out. That a lockout takes
its time is needed here, and is seen to when the simulator starts.

At such a moment a line without words changes nothing at all. A line that asks
for a command has the simulator obey it: the service is asked for something, the
sensor reports events, or the machine does something of its own. Any other line
has it say one thing, with the service, the machine and the driver left as they
are.

* `System.Idle`: there is nothing to do;
* `System.Tame`: what tasks do to the queue, and `Simulator.Feeds`: what commands do to it;
* `Host.idle_work_of_armed`, `Host.idle_work_of_timed`: the queue runs empty;
* `Simulator.Console.Reached`: the consoles that are come to, and `Simulator.Console.Reached.atRest`;
* `Simulator.Console.obey`: what each command makes the simulator do;
* `Simulator.Console.Reached.enter_eq`: what a line does.
-/

namespace Fingerprint

variable {ω κ α β : Type} {s s' s'' : System ω κ}

namespace TaskQueue

variable {τ : Type} {q : TaskQueue τ}

@[simp] theorem running_cancel (id : Nat) : (q.cancel id).2.running = q.running := by
  rw [cancel]
  split <;> rfl

@[simp] theorem running_postDelayed (now delay : Int) (task : τ) :
    (q.postDelayed now delay task).2.running = q.running := by
  rw [postDelayed]
  split <;> rfl

end TaskQueue

/-! ## Rest -/

namespace System

/-- The queue has a thread, and nothing is delayed but the timer of the lockout. -/
structure Timed (s : System ω κ) : Prop where
  running : s.queue.running
  known : Lockout.TimerKnown s.lockout s.queue
  delayed : ∀ d ∈ s.queue.delayed, d.task = .lockoutExpired

/-- The timer has not run out. -/
structure Armed (s : System ω κ) : Prop extends s.Timed where
  early : ∀ d ∈ s.queue.delayed, s.clock < d.due
  pending : .lockoutExpired ∉ s.queue.ready

/-- There is nothing to do. -/
structure Idle (s : System ω κ) : Prop extends s.Armed where
  done : s.queue.ready = []

/-- Nothing becomes ready, and the timer is left alone, or set anew. -/
def Tame (s s' : System ω κ) : Prop := s'.queue.ready = s.queue.ready ∧ (s.Armed → s'.Armed)

theorem Timed.of_same (h : s.Timed) (hqueue : s'.queue = s.queue) (hlockout : s'.lockout = s.lockout) : s'.Timed where
  running := hqueue ▸ h.running
  known := by
    rw [hqueue, hlockout]
    exact h.known
  delayed := hqueue ▸ h.delayed

theorem Armed.of_same (h : s.Armed) (hqueue : s'.queue = s.queue) (hlockout : s'.lockout = s.lockout)
    (hclock : s'.clock = s.clock) : s'.Armed where
  toTimed := h.toTimed.of_same hqueue hlockout
  early := by
    rw [hqueue, hclock]
    exact h.early
  pending := hqueue ▸ h.pending

theorem Idle.of_same (h : s.Idle) (hqueue : s'.queue = s.queue) (hlockout : s'.lockout = s.lockout)
    (hclock : s'.clock = s.clock) : s'.Idle where
  toArmed := h.toArmed.of_same hqueue hlockout hclock
  done := hqueue ▸ h.done

/-- There is one timer at most. -/
theorem Timed.delayed_eq (h : s.Timed) {d : Delayed (Task κ)} (hd : d ∈ s.queue.delayed) : s.queue.delayed = [d] := by
  have htimer (e) (he : e ∈ s.queue.delayed) : e.id = s.lockout.timer := h.known.known e he (h.delayed e he)
  have hdistinct := h.known.indexed.distinct
  match hdelayed : s.queue.delayed with
  | [] => simp [hdelayed] at hd
  | [e] =>
    rw [hdelayed, List.mem_singleton] at hd
    rw [hd]
  | e :: e' :: rest =>
    rw [hdelayed] at hdistinct htimer
    have hid := (htimer e (by simp)).trans (htimer e' (by simp)).symm
    exact absurd hid ((List.pairwise_cons.1 hdistinct).1 e' (by simp))

/-- The next task is taken off the queue. -/
theorem Armed.taken (h : s.Armed) {task : Task κ} {rest : List (Task κ)} (hready : s.queue.ready = task :: rest) :
    s.queue.pop s.clock = (some task, { s.queue with ready := rest }) ∧
      task ≠ .lockoutExpired ∧ ({ s with queue.ready := rest } : System ω κ).Armed := by
  have hpromote := TaskQueue.promote_of_none_due h.early
  have hpop : s.queue.pop s.clock = (some task, { s.queue with ready := rest }) := by
    rw [TaskQueue.pop_of_ready (hpromote.symm ▸ hready), hpromote]
  have hpending := h.pending
  rw [hready, List.mem_cons, not_or] at hpending
  exact ⟨hpop, Ne.symm hpending.1, ⟨h.running, h.known.popped hpop, h.delayed⟩, h.early, hpending.2⟩

/-- When the timer has run out, none is left. -/
theorem Timed.expired (h : s.Timed) (hready : s.queue.ready = []) {d : Delayed (Task κ)} (hd : d ∈ s.queue.delayed)
    (hdue : d.due ≤ s.clock) :
    ∃ queue, s.queue.pop s.clock = (some .lockoutExpired, queue) ∧ queue.ready = [] ∧
      ∀ world, ({ s with queue, lockout := {}, world } : System ω κ).Armed := by
  have hdelayed := h.delayed_eq hd
  have hnext : (s.queue.promote s.clock).ready = [.lockoutExpired] := by
    simp [TaskQueue.ready_promote, TaskQueue.dueAt, hready, hdelayed, hdue, h.delayed d hd]
  have hnone : (s.queue.promote s.clock).delayed = [] := by simp [TaskQueue.promote, hdelayed, hdue]
  have hpop := TaskQueue.pop_of_ready hnext
  have hempty {e : Delayed (Task κ)} (he : e ∈ (s.queue.promote s.clock).delayed) : False := by
    rw [hnone] at he
    exact List.not_mem_nil he
  exact ⟨_, hpop, rfl, fun _ =>
    ⟨⟨h.running, h.known.expired hpop, fun _ he => (hempty he).elim⟩, fun _ he => (hempty he).elim, List.not_mem_nil⟩⟩

theorem Idle.pop_eq (h : s.Idle) : s.queue.pop s.clock = (none, s.queue) := by
  rw [TaskQueue.pop, TaskQueue.promote_of_none_due h.early]
  simp only [h.done]

namespace Tame

theorem of_same (hqueue : s'.queue = s.queue) (hlockout : s'.lockout = s.lockout) (hclock : s'.clock = s.clock) :
    s.Tame s' :=
  ⟨congrArg _ hqueue, fun h => h.of_same hqueue hlockout hclock⟩

theorem refl (s : System ω κ) : s.Tame s := of_same rfl rfl rfl

theorem trans (h : s.Tame s') (h' : s'.Tame s'') : s.Tame s'' :=
  ⟨h'.1.trans h.1, fun harmed => h'.2 (h.2 harmed)⟩

/-- A failure may set the timer anew. -/
theorem recordFailure {host : Host ω κ} (hlasts : 0 < host.setup.lockout.duration) :
    host.recordFailure.Follows Tame := by
  intro s
  by_cases hlimit : host.setup.lockout.maxFailedAttempts < s.lockout.failed + 1
  · have hentered := (Lockout.recordFailure_of_lt hlimit).2
    refine ⟨hentered.ready, fun h => ⟨⟨?_, hentered.timerKnown h.known h.pending, fun d hd => ?_⟩, fun d hd => ?_, ?_⟩⟩
    · rw [hentered.queue, TaskQueue.running_postDelayed, Lockout.cancelTimer]
      split
      · exact h.running
      · rw [TaskQueue.running_cancel]
        exact h.running
    · rw [hentered.queue] at hd
      rcases TaskQueue.mem_delayed_postDelayed hd with hd | rfl
      · exact h.delayed d ((Lockout.delayed_cancelTimer_sublist _ _).subset hd)
      · rfl
    · rw [hentered.queue] at hd
      rw [hentered.clock]
      rcases TaskQueue.mem_delayed_postDelayed hd with hd | rfl
      · exact h.early d ((Lockout.delayed_cancelTimer_sublist _ _).subset hd)
      · dsimp only
        omega
    · rw [hentered.ready]
      exact h.pending
  · obtain ⟨-, world, hrun⟩ := Lockout.recordFailure_of_not_lt hlimit
    rw [hrun]
    have hknown (h : Lockout.TimerKnown s.lockout s.queue) :
        Lockout.TimerKnown { s.lockout with failed := s.lockout.failed + 1 } s.queue :=
      ⟨h.inOrder, h.indexed, h.known, h.alone⟩
    exact ⟨rfl, fun h => ⟨⟨h.running, hknown h.known, h.delayed⟩, h.early, h.pending⟩⟩

theorem recordSuccess : (Host.recordSuccess : Op ω κ Unit).Follows Tame := fun _ =>
  ⟨rfl, fun h => ⟨⟨h.running, ⟨h.known.inOrder, h.known.indexed, h.known.known, h.known.alone⟩, h.delayed⟩,
    h.early, h.pending⟩⟩

end Tame

end System

/-! ## Running dry -/

namespace Host

variable {host : Host ω κ} (htame : ∀ {task : Task κ}, task ≠ .lockoutExpired → (host.runTask task).Follows System.Tame)

include htame

/-- Until the timer runs out, what is ready is done, and nothing more. -/
theorem idle_work_of_armed {room : Nat} (h : s.Armed) (hroom : s.queue.ready.length < room) :
    (host.engine.work room s).Idle := by
  induction room generalizing s with
  | zero => exact absurd hroom (Nat.not_lt_zero _)
  | succ room ih =>
    have hstopping : (host.engine.queue s).stopping = false := TaskQueue.stopping_of_running h.running
    rw [Engine.work, if_neg (by simp [hstopping])]
    cases hready : s.queue.ready with
    | nil =>
      have hidle : s.Idle := ⟨h, hready⟩
      rw [show (host.engine.queue s).pop (host.engine.now s) = (none, s.queue) from hidle.pop_eq]
      exact hidle
    | cons task rest =>
      obtain ⟨hpop, htask, hrest⟩ := h.taken hready
      rw [show (host.engine.queue s).pop (host.engine.now s) = (some task, { s.queue with ready := rest }) from hpop]
      obtain ⟨hsame, harmed⟩ := htame htask { s with queue.ready := rest }
      rw [hready] at hroom
      exact ih (harmed hrest) ((congrArg List.length hsame).trans_lt (Nat.lt_of_succ_lt_succ hroom))

/-- If nothing is ready, the timer may have run out. -/
theorem idle_work_of_timed {room : Nat} (h : s.Timed) (hready : s.queue.ready = []) :
    (host.engine.work (room + 2) s).Idle := by
  by_cases hearly : ∀ d ∈ s.queue.delayed, s.clock < d.due
  · exact idle_work_of_armed htame ⟨h, hearly, by simp [hready]⟩ (by simp [hready])
  · push Not at hearly
    obtain ⟨d, hd, hdue⟩ := hearly
    obtain ⟨queue, hpop, hdone, harmed⟩ := h.expired hready hd hdue
    have hstopping : (host.engine.queue s).stopping = false := TaskQueue.stopping_of_running h.running
    rw [Engine.work, if_neg (by simp [hstopping]),
      show (host.engine.queue s).pop (host.engine.now s) = (some .lockoutExpired, queue) from hpop]
    exact idle_work_of_armed htame (harmed _) ((congrArg List.length hdone).trans_lt room.succ_pos)

end Host

/-! ## The simulator -/

namespace Simulator

variable {configuration : Configuration} {console : Console}

/-- Whoever is asked on the machine changes no more than the machine. -/
theorem tame_answer (call : Call) : (answer call).Follows System.Tame := by
  intro s
  have hworld : ∃ world, ((answer call).run s).2 = { s with world } := by
    cases call with
    | acquire =>
      change ∃ world, (acquireDriver.run s).2 = { s with world }
      rw [acquireDriver, Op.run_get_bind]
      dsimp only
      split <;> exact ⟨_, rfl⟩
    | driver handle call => cases call <;> exact ⟨_, rfl⟩
    | provideDirectory path =>
      change ∃ world, ((Simulator.provideDirectory path).run s).2 = { s with world }
      rw [Simulator.provideDirectory, Op.run_get_bind]
      dsimp only
      split <;> exact ⟨_, rfl⟩
    | _ => exact ⟨_, rfl⟩
  obtain ⟨world, hworld⟩ := hworld
  rw [hworld]
  exact .of_same rfl rfl rfl

variable (configuration) in
theorem coarse_tame : (host configuration).Coarse (Op.Follows System.Tame) (Op.Follows System.Tame) :=
  (Host.pervasive_follows .refl .trans (fun _ _ => .of_same rfl rfl rfl) (fun _ => tame_answer _)
    (fun _ _ _ _ _ => .of_same rfl rfl rfl) fun _ _ _ => .of_same rfl rfl rfl).coarse

variable (configuration) in
theorem passes_tame : (host configuration).Passes System.Tame where
  refl := .refl
  trans := .trans
  published _ _ := .of_same rfl rfl rfl
  answered _ := tame_answer _

theorem tame_runTask (hlasts : 0 < configuration.lockoutSeconds) {task : Task Empty} (htask : task ≠ .lockoutExpired) :
    ((host configuration).runTask task).Follows System.Tame := by
  have hcoarse := coarse_tame configuration
  have hslot (kind caller sink subject) : (Host.slotNew kind caller sink subject : Act Unit).Follows System.Tame :=
    hcoarse.slotNew (fun _ => Host.follows_register .refl (fun _ _ => .of_same rfl rfl rfl) caller _)
      fun _ _ => .of_same rfl rfl rfl
  have hduration : 0 < (host configuration).setup.lockout.duration := by
    change 0 < configuration.lockoutSeconds * 1000
    omega
  exact hcoarse.runTask (hcoarse.perform_of_ne_expired (fun _ => tame_answer _) hslot (.recordFailure hduration)
    .recordSuccess nofun htask)

/-! ### What commands set going -/

/-- At most `n` tasks are put on the queue, and the timer is not among them. -/
def Feeds (n : Nat) (action : Act α) : Prop :=
  ∀ s, s.Armed → (action.run s).2.Armed ∧ (action.run s).2.queue.ready.length ≤ s.queue.ready.length + n

namespace Feeds

variable {m n : Nat} {action : Act α} {next : α → Act β}

theorem of_tame (n : Nat) (h : action.Follows System.Tame) : Feeds n action := fun s harmed => by
  obtain ⟨hready, harmed'⟩ := h s
  exact ⟨harmed' harmed, hready ▸ Nat.le_add_right _ _⟩

theorem mono (h : Feeds m action) (hle : m ≤ n) : Feeds n action := fun s harmed => by
  obtain ⟨harmed', hlength⟩ := h s harmed
  exact ⟨harmed', by omega⟩

theorem bind (h : Feeds m action) (hnext : ∀ a, Feeds n (next a)) : Feeds (m + n) (action >>= next) := by
  intro s harmed
  obtain ⟨harmed', hlength⟩ := h s harmed
  rw [Op.run_bind]
  rcases hrun : action.run s with ⟨fault | a, s'⟩ <;> rw [hrun] at harmed' hlength <;> dsimp only at harmed' hlength ⊢
  · exact ⟨harmed', by omega⟩
  · obtain ⟨harmed'', hlength'⟩ := hnext a s' harmed'
    exact ⟨harmed'', by omega⟩

/-- First looking, or changing the machine only, makes no difference. -/
theorem after (h : action.Follows System.Tame) (hnext : ∀ a, Feeds n (next a)) : Feeds n (action >>= next) :=
  Nat.zero_add n ▸ (of_tame 0 h).bind hnext

theorem ite {c : Prop} [Decidable c] {action action' : Act α} (h : Feeds n action) (h' : Feeds n action') :
    Feeds n (if c then action else action') := by
  split
  · exact h
  · exact h'

theorem post {task : Task Empty} (htask : task ≠ .lockoutExpired) : Feeds 1 (Op.post task) := by
  intro s harmed
  rw [Op.run_post]
  have hpost : s.queue.post task = { s.queue with ready := s.queue.ready ++ [task] } := by
    rw [TaskQueue.post, if_neg (by simp [TaskQueue.stopping_of_running harmed.running])]
  have hposted : Lockout.Waits (host {}) s { s with queue := s.queue.post task } := .posted htask
  have hknown := hposted.timerKnown harmed.known
  rw [hpost] at hknown ⊢
  refine ⟨⟨⟨harmed.running, hknown, harmed.delayed⟩, harmed.early, ?_⟩, ?_⟩
  · simpa [Ne.symm htask] using harmed.pending
  · simp

end Feeds

theorem tame_onMachine (f : Machine → Machine) : (onMachine f).Follows System.Tame := fun _ => .of_same rfl rfl rfl

theorem tame_print (parts : List Bytes) : (print parts).Follows System.Tame := tame_onMachine _

theorem feeds_report (event : DriverEvent) : Feeds 1 (Host.report event : Act Unit) :=
  .after (.refl ·) fun _ => .ite (.post nofun) (.of_tame 1 (.refl ·))

/-- Each event is one task. -/
theorem feeds_reports (events : List DriverEvent) : Feeds events.length (events.forM Host.report : Act PUnit) := by
  induction events with
  | nil => exact .of_tame 0 (.refl ·)
  | cons event rest ih =>
    rw [List.length_cons, Nat.add_comm]
    exact (feeds_report event).bind fun _ => ih

theorem feeds_emit (events : List DriverEvent) : Feeds events.length (emit events) := by
  refine .after (.refl ·) fun s => ?_
  split
  · exact .ite (feeds_reports events) (.of_tame _ (tame_print _))
  · exact .of_tame _ (tame_print _)

/-- What is asked of the service comes down to one task at most, if nobody waits for it. -/
theorem feeds_serve {call : ServiceCall} (hexecute : Feeds 1 ((host configuration).execute call)) :
    Feeds 1 ((host configuration).serve call) := by
  rw [Host.serve_eq]
  exact .after ((passes_tame configuration).gate call) fun _ => .ite hexecute (.of_tame 1 (.refl ·))

theorem tame_forM {items : List α} {action : α → Act PUnit} (h : ∀ item, (action item).Follows System.Tame) :
    (items.forM action).Follows System.Tame := by
  induction items with
  | nil => exact .refl
  | cons item rest ih => exact (h item).bind_of .trans fun _ _ s' _ => ih s'

theorem feeds_killDriver : Feeds 1 killDriver := by
  refine .after (.refl ·) fun s => ?_
  split
  · refine .after (tame_onMachine _) fun _ => ?_
    split
    · have hdied (generation : Nat) : Feeds 1 (Host.driverLinkDied generation : Act Unit) :=
        .after (.refl ·) fun _ => .ite (.post nofun) (.of_tame 1 (.refl ·))
      exact (hdied _).bind fun _ => .of_tame 0 (tame_print _)
    · exact .of_tame 1 (tame_print _)
  · exact .of_tame 1 (.refl ·)

theorem feeds_killCaller : Feeds 1 killCaller :=
  .after (.refl ·) fun s => by
    have hdied : Feeds 1 (Host.notifyCallerDied s.world.caller : Act Unit) := .post nofun
    refine hdied.bind (n := 0) fun _ => ?_
    exact .after (tame_print _) fun _ => .of_tame 0 (tame_onMachine _)

theorem tame_listTemplates (caller : CallerToken) (subject : Int32) :
    (listTemplates (host configuration) caller subject).Follows System.Tame := by
  have hserve : ((host configuration).serve (.enrolledTemplates caller subject package)).Follows System.Tame := by
    rw [Host.serve_eq]
    refine (passes_tame configuration).bind ((passes_tame configuration).gate _) fun _ => ?_
    exact (passes_tame configuration).ite ((passes_tame configuration).listTemplates subject) (.refl ·)
  refine (passes_tame configuration).bind hserve fun templates => ?_
  exact (passes_tame configuration).bind (tame_print _) fun _ => tame_forM fun _ => tame_print _

variable (configuration) in
/-- A command puts two tasks on the queue at most. -/
theorem feeds_execute (command : Command) : Feeds 2 (execute (host configuration) command) := by
  refine .after (.refl ·) fun s => ?_
  have hserve (call : ServiceCall) (hexecute : Feeds 1 ((host configuration).execute call)) :
      Feeds 2 ((host configuration).serve call) := (feeds_serve hexecute).mono (by decide)
  cases command with
  | skip | help | quit => exact .of_tame 2 (.refl ·)
  | enroll subject => exact hserve (.enroll _ _ _) (.post nofun)
  | authenticate subject =>
    exact .after (tame_onMachine _) fun _ => hserve (.authenticate _ _ _ _) (.post nofun)
  | remove subject id => exact hserve (.remove _ _ _) (.post nofun)
  | cancelEnrollment => exact hserve (.cancelEnrollment _) (.post nofun)
  | cancelAuthentication => exact hserve (.cancelAuthentication _ _) (.post nofun)
  | touch | progress => exact feeds_emit _
  | error | removed => exact (feeds_emit _).mono (by simp)
  | killDriver => exact feeds_killDriver.mono (by decide)
  | killCaller => exact feeds_killCaller.mono (by decide)
  | switchTo subject =>
    have hswitched : Feeds 1 (Host.activeSubjectChanged subject : Act Unit) := .post nofun
    exact .after (tame_onMachine _) fun _ => hswitched.mono (by decide)
  | list subject => exact .of_tame 2 (tame_listTemplates _ subject)
  | unrecognized => exact .of_tame 2 (tame_print _)

/-! ### The console -/

section

variable {s : System Machine Empty}

/-- The queue's own thread runs what is due. -/
theorem run_work (hrunning : s.queue.running) :
    (host configuration).work.run s =
      (.ok (), { (host configuration).engine.work 1000000 { s with thread := .worker } with thread := s.thread }) :=
  Host.run_workThrough hrunning _

theorem idle_work_of_armed (hlasts : 0 < configuration.lockoutSeconds) (h : s.Armed)
    (hfew : s.queue.ready.length < 1000000) : ((host configuration).work.run s).2.Idle := by
  rw [run_work h.running]
  have harmed : ({ s with thread := .worker } : System Machine Empty).Armed := h.of_same rfl rfl rfl
  exact (Host.idle_work_of_armed (tame_runTask hlasts) harmed hfew).of_same rfl rfl rfl

theorem idle_work_of_timed (hlasts : 0 < configuration.lockoutSeconds) (h : s.Timed) (hready : s.queue.ready = []) :
    ((host configuration).work.run s).2.Idle := by
  rw [run_work h.running]
  have htimed : ({ s with thread := .worker } : System Machine Empty).Timed := h.of_same rfl rfl
  exact (Host.idle_work_of_timed (tame_runTask hlasts) htimed hready).of_same rfl rfl rfl

variable (configuration) in
/-- Where there is nothing to do, nothing is done. -/
theorem run_work_of_idle (h : s.Idle) : (host configuration).work.run s = (.ok (), s) := by
  have hpop : ((host configuration).engine.queue { s with thread := .worker }).pop
      ((host configuration).engine.now { s with thread := .worker }) = (none, s.queue) := h.pop_eq
  have hstopping : ((host configuration).engine.queue { s with thread := .worker }).stopping = false :=
    TaskQueue.stopping_of_running h.running
  rw [run_work h.running, Engine.work, if_neg (by simp [hstopping]), hpop]
  rfl

end

namespace Console

theorem act_eq {action : Act Unit} (h : (action.run console.system).1 = .ok ()) :
    console.act action =
      { console with
        system := ((host console.configuration).work.run (action.run console.system).2).2 } := by
  rw [act, Op.run_bind_of_ok h]

/-- A fault does not keep a command from ending. -/
theorem run_executeOrSay (command : Command) (s : System Machine Empty) :
    ((executeOrSay (host configuration) command).run s).1 = .ok () := by
  rw [executeOrSay, Op.run_bind, Op.run_attempt]
  rcases (execute (host configuration) command).run s with ⟨fault | _, s'⟩ <;> rfl

/-- The simulator is done with all that it was told. -/
structure AtRest (console : Console) : Prop where
  lasts : 0 < console.configuration.lockoutSeconds
  idle : console.system.Idle

theorem AtRest.act_pure (h : console.AtRest) : console.act (pure ()) = console := by
  rw [act_eq rfl]
  have hrun := run_work_of_idle console.configuration h.idle
  exact congrArg (fun r => { console with system := r.2 }) hrun

theorem AtRest.act (h : console.AtRest) {action : Act Unit} (hfeeds : Feeds 2 action)
    (hok : (action.run console.system).1 = .ok ()) : (console.act action).AtRest := by
  rw [act_eq hok]
  obtain ⟨harmed, hlength⟩ := hfeeds console.system h.idle.toArmed
  refine ⟨h.lasts, idle_work_of_armed h.lasts harmed ?_⟩
  rw [h.idle.done] at hlength
  exact hlength.trans_lt (by decide)

theorem feeds_executeOrSay (command : Command) : Feeds 2 (executeOrSay (host configuration) command) := by
  have hexecute : Feeds 2 (execute (host configuration) command).attempt := feeds_execute configuration command
  refine hexecute.bind (n := 0) fun outcome => ?_
  split
  · exact .of_tame 0 (tame_print _)
  · exact .of_tame 0 (.refl ·)

theorem AtRest.enter (h : console.AtRest) (line : Bytes) : (console.enter line).AtRest := by
  rw [Console.enter]
  split
  · exact h
  · split
    · exact ⟨h.lasts, h.idle⟩
    · exact ⟨h.lasts, h.idle⟩
    · exact h.act (feeds_executeOrSay _) (run_executeOrSay _ _)

theorem AtRest.advanceTo (h : console.AtRest) (now : Int) : (console.advanceTo now).AtRest := by
  rw [Console.advanceTo, act_eq rfl]
  refine ⟨h.lasts, idle_work_of_timed h.lasts ?_ h.idle.done⟩
  exact h.idle.toTimed.of_same rfl rfl

/-- What the service has put on the queue when it starts is done before the first line. -/
theorem atRest_start (hlasts : 0 < configuration.lockoutSeconds) (machine : Machine) :
    (start configuration machine).AtRest := by
  rw [start, act_eq rfl]
  -- No task is delayed yet, and the one that is ready is not the timer.
  have hpending : .lockoutExpired ∉ [(.begin 0 : Task Empty)] := by decide
  have hindexed : (({} : TaskQueue (Task Empty)).post (.begin 0)).start.Indexed :=
    ⟨Nat.one_pos, .nil, fun _ hd => absurd hd List.not_mem_nil, TaskQueue.Indexed.empty.times⟩
  have harmed (world : Machine) : ({ queue := (({} : TaskQueue (Task Empty)).post (.begin 0)).start, world } :
      System Machine Empty).Armed :=
    ⟨⟨rfl, ⟨.nil, hindexed, fun _ hd => absurd hd List.not_mem_nil, fun hready => absurd hready hpending⟩,
      fun _ hd => absurd hd List.not_mem_nil⟩, fun _ hd => absurd hd List.not_mem_nil, hpending⟩
  exact ⟨hlasts, idle_work_of_armed hlasts (harmed _) (Nat.lt_of_sub_pos (by decide) : 1 < 1000000)⟩

end Console

theorem lockoutSeconds_applyArguments {arguments : List Bytes} {base : Configuration}
    (h : applyArguments base arguments = .ok configuration) : configuration.lockoutSeconds = base.lockoutSeconds := by
  induction arguments generalizing base with
  | nil =>
    cases h
    rfl
  | cons argument rest ih =>
    rw [applyArguments] at h
    split at h
    · have hrest := ih h
      exact hrest
    · cases h

/-- The simulator starts only with a lockout that takes its time. -/
theorem lockoutSeconds_pos {environment : Environment} {arguments : List Bytes}
    (h : configure environment arguments = .ok configuration) : 0 < configuration.lockoutSeconds := by
  rw [configure] at h
  rcases Configuration.accepted_or_firstRefused environment with haccepted | ⟨v, text, hrefused⟩
  · rw [Configuration.overlay_of_accepted _ haccepted] at h
    rw [lockoutSeconds_applyArguments h, Configuration.overlaid]
    cases hset : environment.nonempty? Configuration.Variable.lockoutSeconds.name with
    | none => exact (by decide : (0 : Int) < 30)
    | some text =>
      have hadmits := (haccepted .lockoutSeconds text hset).2.1
      exact Int.natCast_pos.2 hadmits
  · rw [Configuration.overlay_of_firstRefused _ hrefused] at h
    cases h

namespace Console

/-- The consoles that are come to: the simulator has started, pieces of input and lines have been taken, time
    has gone by, what was written has been read, and directories have been refused. -/
inductive Reached : Console → Prop
  | started {environment : Environment} {arguments : List Bytes} {configuration : Configuration}
      (h : configure environment arguments = .ok configuration) (machine : Machine) :
      Reached (start configuration machine)
  | received {console : Console} (h : Reached console) (piece : Bytes) : Reached (console.receive piece)
  | entered {console : Console} (h : Reached console) (line : Bytes) : Reached (console.enter line)
  | advanced {console : Console} (h : Reached console) (now : Int) : Reached (console.advanceTo now)
  | readOutput {console : Console} (h : Reached console) : Reached console.takeOutput.2
  | readErrors {console : Console} (h : Reached console) : Reached console.takeErrors.2
  | readEvents {console : Console} (h : Reached console) : Reached console.takeEvents.2
  | refused {console : Console} (h : Reached console) (path : Bytes) (reason : Option Bytes) :
      Reached (console.refuse path reason)

theorem AtRest.receive (h : console.AtRest) (piece : Bytes) : (console.receive piece).AtRest := by
  have hlines {console : Console} (lines : List Bytes) (h : console.AtRest) :
      (lines.foldl Console.enter console).AtRest := by
    induction lines generalizing console with
    | nil => exact h
    | cons line rest ih => exact ih (h.enter line)
  exact hlines _ ⟨h.lasts, h.idle⟩

theorem Reached.atRest (h : console.Reached) : console.AtRest := by
  induction h with
  | started h machine => exact atRest_start (lockoutSeconds_pos h) machine
  | received _ piece ih => exact ih.receive piece
  | entered _ line ih => exact ih.enter line
  | advanced _ now ih => exact ih.advanceTo now
  | readErrors _ ih => exact ⟨ih.lasts, ih.idle⟩
  | readOutput _ ih | readEvents _ ih | refused _ _ _ ih => exact ⟨ih.lasts, ih.idle.of_same rfl rfl rfl⟩

/-! ### Lines -/

/-- What the simulator prints at a line that asks for nothing it knows. -/
def unrecognizedLine : Bytes := "[sim] unrecognized command; type 'help' for usage"

/-- The simulator has printed one more line, and nothing else has changed. -/
def say (console : Console) (line : Bytes) : Console :=
  { console with system.world.printed := console.system.world.printed ++ [line] }

/-- Says why something was not done. -/
def orSay (action : Act α) : Act Unit := do
  if let .error fault ← action.attempt then print ["[sim] request failed: ", fault.message]

theorem executeOrSay_eq (host : Host Machine Empty) (command : Command) :
    executeOrSay host command = orSay (execute host command) :=
  bind_congr fun outcome => by cases outcome <;> rfl

/-- The service was asked for something. If it did not do that, the simulator has said why. -/
def serve (console : Console) (call : ServiceCall) : Console :=
  console.act (orSay ((host console.configuration).serve call))

/-- The sensor has reported events, if there is a driver that knows where to. -/
def report (console : Console) (events : List DriverEvent) : Console :=
  if console.system.world.driver.any (·.attached) then console.act (events.forM Host.report)
  else console.say "[sim] driver is not running"

/-- What the simulator prints of templates. -/
def listing (templates : List Template) : List Bytes :=
  List.flatten ["[sim] ", Bytes.ofNat templates.length, " template(s)"] ::
    templates.map fun template => List.flatten ["  id=", unsigned template.id, " label=\"", template.label, "\""]

/-- The simulator has done what a command asks for. Requests are made of the service on behalf of the
    caller on the machine, and the sensor reports what it is made to for the subject there. -/
def obey (console : Console) (command : Command) : Console :=
  let machine := console.system.world
  match command with
  | .quit => { console with isOpen := false }
  | .help => { console with errors := console.errors ++ usage }
  | .enroll subject => console.serve (.enroll machine.caller (some "enroll") ⟨token, subject⟩)
  | .authenticate subject =>
    { console with system.world.operation := machine.operation + 1 }.serve
      (.authenticate machine.caller (some "auth") ⟨machine.operation + 1, subject⟩ package)
  | .remove subject id => console.serve (.remove machine.caller (some "remove") ⟨id, subject⟩)
  | .cancelEnrollment => console.serve (.cancelEnrollment machine.caller)
  | .cancelAuthentication => console.serve (.cancelAuthentication machine.caller package)
  | .touch id => console.report [.acquired device 0, .authenticated device id machine.subject]
  | .progress id remaining => console.report [.acquired device 0, .enrollResult device id machine.subject remaining]
  | .error code => console.report [.error device code]
  | .removed id subject => console.report [.removed device id subject]
  | .killDriver =>
    match machine.driver with
    | none => console
    | some driver =>
      ({ console with system.world.driver := none }.say "[registry] driver killed").act
        (driver.linked.forM Host.driverLinkDied)
  | .killCaller =>
    ({ console with system.world.caller := machine.caller + 1 }.say
      (List.flatten ["[sim] caller ", Bytes.ofNat machine.caller.toNat, " died"])).act
        (Host.notifyCallerDied machine.caller)
  | .switchTo subject => { console with system.world.subject := subject }.act (Host.activeSubjectChanged subject)
  | .list subject => (listing (machine.templates.list subject)).foldl say console
  | .skip | .unrecognized => console

theorem AtRest.say (h : console.AtRest) (line : Bytes) : (console.say line).AtRest :=
  ⟨h.lasts, h.idle.of_same rfl rfl rfl⟩

theorem AtRest.enter_of_skip (h : console.AtRest) {line : Bytes} (hline : Command.ofLine line = .skip) :
    console.enter line = console := by
  rw [Console.enter]
  split
  · rfl
  · rw [hline]
    exact h.act_pure

theorem AtRest.enter_of_unrecognized (h : console.AtRest) (hopen : console.isOpen) {line : Bytes}
    (hline : Command.ofLine line = .unrecognized) : console.enter line = console.say unrecognizedLine := by
  rw [Console.enter, if_neg (by simp [hopen]), hline]
  exact (h.say unrecognizedLine).act_pure

/-! What comes of commands. -/

/-- What comes of an action is a matter of what it has done. -/
theorem act_congr {console' : Console} {action action' : Act Unit}
    (hrun : action.run console.system = action'.run console'.system)
    (hsame : console' = { console with system := console'.system }) : console.act action = console'.act action' := by
  rw [hsame, act, act, Op.run_bind, Op.run_bind, hrun]

/-- Where there is nothing left to do, an action is all that happens. -/
theorem act_of_idle {console' : Console} {action : Act Unit}
    (hrun : action.run console.system = (.ok (), console'.system))
    (hsame : console' = { console with system := console'.system }) (hidle : console'.system.Idle) :
    console.act action = console' := by
  rw [act_eq (congrArg Prod.fst hrun), hrun, run_work_of_idle _ hidle]
  exact hsame.symm

theorem run_orSay (action : Act α) (s : System Machine Empty) :
    (orSay action).run s = match action.run s with
      | (.ok _, s') => (.ok (), s')
      | (.error fault, s') => (print ["[sim] request failed: ", fault.message]).run s' := by
  rw [orSay, Op.run_bind, Op.run_attempt]
  rcases action.run s with ⟨fault | a, s'⟩ <;> rfl

theorem run_orSay_congr {action action' : Act α} {s s' : System Machine Empty} (h : action.run s = action'.run s') :
    (orSay action).run s = (orSay action').run s' := by
  rw [run_orSay, run_orSay, h]

theorem run_orSay_of_ok {action : Act α} {a : α} {s s' : System Machine Empty} (h : action.run s = (.ok a, s')) :
    (orSay action).run s = (.ok (), s') := by
  rw [run_orSay, h]

/-- To report events does not fail. -/
theorem run_reports (events : List DriverEvent) (s : System Machine Empty) :
    ∃ s', (events.forM Host.report : Act PUnit).run s = (.ok ⟨⟩, s') := by
  induction events generalizing s with
  | nil => exact ⟨s, rfl⟩
  | cons event rest ih =>
    have hreport : ∃ s', (Host.report event : Act Unit).run s = (.ok (), s') := by
      rw [Host.report, Op.run_get_bind]
      split <;> exact ⟨_, rfl⟩
    obtain ⟨s', hreport⟩ := hreport
    change ∃ s', ((Host.report event : Act Unit) >>= fun _ => rest.forM Host.report).run s = (.ok ⟨⟩, s')
    rw [Op.run_bind, hreport]
    exact ih s'

theorem AtRest.act_emit (h : console.AtRest) {command : Command} {events : List DriverEvent}
    (hemits : (execute (host console.configuration) command).run console.system = (emit events).run console.system) :
    console.act (orSay (execute (host console.configuration) command)) = console.report events := by
  rw [emit, Op.run_get_bind] at hemits
  have hnone (hsaid : (execute (host console.configuration) command).run console.system =
      (print ["[sim] driver is not running"]).run console.system) :
      console.act (orSay (execute (host console.configuration) command)) = console.say "[sim] driver is not running" :=
    act_of_idle (run_orSay_of_ok hsaid) rfl (h.say _).idle
  rw [report]
  cases hdriver : console.system.world.driver with
  | none =>
    rw [hdriver] at hemits
    exact hnone hemits
  | some driver =>
    rw [hdriver] at hemits
    cases hattached : driver.attached with
    | false =>
      dsimp only at hemits
      rw [if_neg (by simp [hattached])] at hemits
      rw [if_neg (by simp [hattached])]
      exact hnone hemits
    | true =>
      dsimp only at hemits
      rw [if_pos hattached] at hemits
      rw [if_pos (by simp [hattached])]
      obtain ⟨s', hreported⟩ := run_reports events console.system
      rw [hreported] at hemits
      exact act_congr ((run_orSay_of_ok hemits).trans hreported.symm) rfl

/-- Lines are printed one by one. -/
theorem run_printEach (templates : List Template) (line : Template → List Bytes) (console : Console) :
    ((templates.forM fun template => print (line template) : Act PUnit).run console.system) =
      (.ok ⟨⟩, ((templates.map fun template => (line template).flatten).foldl say console).system) := by
  induction templates generalizing console with
  | nil => rfl
  | cons template rest ih => exact ih (console.say (line template).flatten)

theorem run_driverLinkDied (generation : Nat) (s : System Machine Empty) :
    (Host.driverLinkDied generation : Act Unit).run s =
      (.ok (), { s with
        queue := if s.connection.alive then s.queue.post (.driverDied generation) else s.queue }) := by
  rw [Host.driverLinkDied, Op.run_get_bind]
  cases s.connection.alive <;> rfl

/-- A driver that is killed tells of its death if it was asked to. -/
theorem AtRest.act_killDriver (h : console.AtRest) :
    console.act (orSay (execute (host console.configuration) .killDriver)) = console.obey .killDriver := by
  rw [obey]
  cases hdriver : console.system.world.driver with
  | none =>
    have hrun : (execute (host console.configuration) .killDriver).run console.system = (.ok (), console.system) := by
      change killDriver.run console.system = _
      rw [killDriver, Op.run_get_bind, hdriver]
      rfl
    exact act_of_idle (run_orSay_of_ok hrun) rfl h.idle
  | some driver =>
    obtain ⟨handle, attached, linked, challenge⟩ := driver
    let killed := { console with system.world.driver := none }.say "[registry] driver killed"
    have hrun : ∃ s', (execute (host console.configuration) .killDriver).run console.system = (.ok (), s') ∧
        (linked.forM Host.driverLinkDied : Act PUnit).run killed.system = (.ok ⟨⟩, s') := by
      change ∃ s', killDriver.run console.system = _ ∧ _
      rw [killDriver, Op.run_get_bind, hdriver]
      cases linked with
      | none => exact ⟨_, rfl, rfl⟩
      | some generation =>
        refine ⟨_, ?_, run_driverLinkDied generation _⟩
        change ((Host.driverLinkDied generation : Act Unit) >>= fun _ => print ["[registry] driver killed"]).run _ = _
        rw [Op.run_bind, run_driverLinkDied]
        rfl
    obtain ⟨s', hkill, hdied⟩ := hrun
    exact act_congr ((run_orSay_of_ok hkill).trans hdied.symm) rfl

theorem foldl_say (lines : List Bytes) (console : Console) :
    lines.foldl say console =
      { console with system.world.printed := console.system.world.printed ++ lines } := by
  induction lines generalizing console with
  | nil =>
    rw [List.append_nil]
    rfl
  | cons line rest ih =>
    rw [List.foldl_cons, ih]
    simp [say]

/-- To list templates is to print them. -/
theorem AtRest.act_list (h : console.AtRest) (subject : Int32) :
    console.act (orSay (execute (host console.configuration) (.list subject))) = console.obey (.list subject) := by
  have hrun := run_printEach (console.system.world.templates.list subject)
    (fun template => ["  id=", unsigned template.id, " label=\"", template.label, "\""])
    (console.say (List.flatten
      ["[sim] ", Bytes.ofNat (console.system.world.templates.list subject).length, " template(s)"]))
  refine act_of_idle (run_orSay_of_ok hrun) ?_ ?_
  · rw [obey, foldl_say]
  · rw [obey, foldl_say]
    exact h.idle.of_same rfl rfl rfl

theorem AtRest.act_eq_obey (h : console.AtRest) {words : List Bytes} {command : Command}
    (hasks : Command.Asks words command) (hquit : command ≠ .quit) (hhelp : command ≠ .help) :
    console.act (orSay (execute (host console.configuration) command)) = console.obey command := by
  cases hasks with
  | quit | exit => exact absurd rfl hquit
  | help => exact absurd rfl hhelp
  | cancelEnrollment | cancelAuthentication | killCaller | switchTo => rfl
  | enroll | authenticate | remove => exact act_congr (run_orSay_congr rfl) rfl
  | touch | progress | error | removed => exact h.act_emit rfl
  | killDriver => exact h.act_killDriver
  | list => exact h.act_list _

theorem AtRest.enter_of_asks (h : console.AtRest) (hopen : console.isOpen) {line : Bytes} {words : List Bytes}
    {command : Command} (hwords : line.words = words) (hasks : Command.Asks words command) :
    console.enter line = console.obey command := by
  rw [Console.enter, if_neg (by simp [hopen]), Command.ofLine, hwords, hasks.ofWords_eq]
  split
  · rfl
  · rfl
  · next hquit hhelp =>
    rw [executeOrSay_eq]
    exact h.act_eq_obey hasks hquit hhelp

/-- A line without words does nothing. One that asks for a command has it done, and every other line has the
    simulator say that it does not know it, and nothing more. -/
theorem Reached.enter_eq (h : console.Reached) (hopen : console.isOpen) (line : Bytes) :
    ∃ words, (∀ words', line.Spells words' ↔ words' = words) ∧
      ((words = [] ∧ console.enter line = console) ∨
        (∃ command, (∀ command', Command.Asks words command' ↔ command' = command) ∧
          console.enter line = console.obey command) ∨
        (words ≠ [] ∧ (∀ command, ¬Command.Asks words command) ∧
          console.enter line = console.say unrecognizedLine)) := by
  refine ⟨line.words, fun _ => Bytes.spells_iff, ?_⟩
  by_cases hwords : line.words = []
  · exact .inl ⟨hwords, h.atRest.enter_of_skip (Command.ofWords_eq_skip_iff.2 hwords)⟩
  · by_cases hknown : Command.ofLine line = .unrecognized
    · obtain ⟨-, hnone⟩ := Command.ofWords_eq_unrecognized_iff.1 hknown
      exact .inr (.inr ⟨hwords, hnone, h.atRest.enter_of_unrecognized hopen hknown⟩)
    · have hasks := Command.asks_ofWords hwords hknown
      refine .inr (.inl ⟨Command.ofLine line, fun command' => ⟨fun h => h.ofWords_eq.symm, ?_⟩,
        h.atRest.enter_of_asks hopen rfl hasks⟩)
      rintro rfl
      exact hasks

/-- One digit too many for 32 bits. -/
theorem Reached.enter_eq_of_overflow :
    (start {} {}).Reached ∧ (start {} {}).isOpen ∧
      (start {} {}).enter "enroll 2147483648" = (start {} {}).say unrecognizedLine := by
  have hconfigured : configure (fun _ => none) [] = .ok {} := rfl
  have hreached : (start {} {}).Reached := .started hconfigured {}
  refine ⟨hreached, rfl, ?_⟩
  obtain ⟨words, hwords, hcases⟩ := hreached.enter_eq rfl "enroll 2147483648"
  have hsplit : ([("enroll" : Bytes), ("2147483648" : Bytes)] : List Bytes) = words :=
    (hwords _).1 (Bytes.spells_iff.2 (by decide))
  have hunknown : Command.ofWords ["enroll", "2147483648"] = .unrecognized := by decide
  obtain ⟨-, hnone⟩ := Command.ofWords_eq_unrecognized_iff.1 hunknown
  subst hsplit
  rcases hcases with ⟨hnil, -⟩ | ⟨command, hasks, -⟩ | ⟨-, -, henter⟩
  · cases hnil
  · exact absurd ((hasks command).2 rfl) (hnone command)
  · exact henter

end Console

end Simulator

end Fingerprint
