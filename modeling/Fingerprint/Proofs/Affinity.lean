import Fingerprint.Proofs.Attendance
import Fingerprint.Proofs.Lockout

/-!
# Whether tasks find themselves on the queue

A task must not wait for the queue while it is executed, as it is what the
queue is busy with. So the queue is not waited for on a thread that has the
mark, and a task should have the mark for as long as it is executed. It does
not: if it runs what is due itself, or another thread does meanwhile, the mark
is handed over when one of those tasks begins or is done, and does not come
back. From then on the task no longer finds itself on the queue. If the queue
has a thread of its own, the task waits for that one, and for good if it is the
thread by which the task is executed.

What a system does is followed on a floor, step by step. Whoever answers calls,
or runs the tasks of clients, may use the queue, start and stop it, and run
what is due, as long as each thread executes in the end what it has executed
before.

* `TaskQueue.Floor.Shows`, `System.Leads`: following a system on a floor;
* `Host.Regular`: those who come back to what they were at;
* `Host.run_invoke_of_marked`, `Host.run_invoke_of_client`, `Host.run_invoke_of_worker`: what comes of
  waiting;
* `Host.Regular.leads_runPending`, `Host.Regular.leads_workThrough`, `Host.Regular.leads_invoke`,
  `Host.leads_startQueue`, `Host.leads_stopQueue`: what is done with a queue as a whole is a
  course of steps;
* `Host.Affinity`: who is marked, and what that means for those who wait;
* `Host.Regular.affinity`: that is so at every moment;
* `Host.doing`, `Host.regular_doing`: clients whose tasks do to the queue what they like.
-/

namespace Fingerprint

open TaskQueue (Floor Execution)

variable {ω κ α : Type}

namespace TaskQueue.Floor

/-- A system shows the queue of a floor, and the time there. -/
structure Shows (f : Floor (Task κ)) (s : System ω κ) : Prop where
  queue : s.queue = f.queue
  clock : s.clock = f.now

/-- A thread may go on: the queue's own thread if it executes a task, and any other while that does
    not. -/
structure Admits (f : Floor (Task κ)) (thread : Thread) : Prop where
  settled : f.duty ≠ .hired
  idle_iff : f.executions .worker = [] ↔ thread ≠ .worker

/-- Steps lead to what a system shows, and each thread executes then what it has executed before. -/
def LeadsTo (f : Floor (Task κ)) (s : System ω κ) : Prop :=
  ∃ f' : Floor (Task κ), f.Course f' ∧ f'.Shows s ∧ f'.executions = f.executions ∧ f'.duty ≠ .hired

namespace LeadsTo

variable {f f' : Floor (Task κ)} {s : System ω κ}

theorem of_shows (hshows : f.Shows s) (hsettled : f.duty ≠ .hired) : f.LeadsTo s :=
  ⟨f, .refl, hshows, rfl, hsettled⟩

/-- What is done before may be left out of account. -/
theorem of_course (hcourse : f.Course f') (hsame : f'.executions = f.executions) (h : f'.LeadsTo s) : f.LeadsTo s := by
  obtain ⟨f'', hcourse', hshows, hsame', hsettled⟩ := h
  exact ⟨f'', hcourse.trans hcourse', hshows, hsame'.trans hsame, hsettled⟩

end LeadsTo

end TaskQueue.Floor

/-- What leads from one state of a system to another are steps on the floor. -/
structure System.Leads (s s' : System ω κ) : Prop where
  thread : s'.thread = s.thread
  leadsTo : ∀ f : Floor (Task κ), f.Reached → f.Shows s → f.Admits s.thread → f.LeadsTo s'

namespace System.Leads

variable {s s' s'' : System ω κ}

theorem of_same (hthread : s'.thread = s.thread) (hqueue : s'.queue = s.queue) (hclock : s'.clock = s.clock) :
    s.Leads s' where
  thread := hthread
  leadsTo _ _ hshows hadmits :=
    .of_shows ⟨hqueue.trans hshows.queue, hclock.trans hshows.clock⟩ hadmits.settled

theorem refl (s : System ω κ) : s.Leads s := of_same rfl rfl rfl

theorem trans (h : s.Leads s') (h' : s'.Leads s'') : s.Leads s'' where
  thread := h'.thread.trans h.thread
  leadsTo f hreached hshows hadmits := by
    obtain ⟨f', hcourse, hshows', hsame, hsettled⟩ := h.leadsTo f hreached hshows hadmits
    have hadmits' : f'.Admits s'.thread := by
      refine ⟨hsettled, ?_⟩
      rw [hsame, h.thread]
      exact hadmits.idle_iff
    exact (h'.leadsTo f' (hreached.course hcourse) hshows' hadmits').of_course hcourse hsame

/-- A step that does not concern who executes what leads on. -/
theorem of_step {queue : TaskQueue (Task κ)}
    (hstep : ∀ f : Floor (Task κ), f.Shows s → f.Step { f with queue }) : s.Leads { s with queue } where
  thread := rfl
  leadsTo f _ hshows hadmits :=
    .of_course (.single (hstep f hshows)) rfl (.of_shows ⟨rfl, hshows.clock⟩ hadmits.settled)

theorem post (s : System ω κ) (task : Task κ) : s.Leads { s with queue := s.queue.post task } :=
  of_step fun f hshows => by
    rw [hshows.queue]
    exact .post f task

theorem postDelayed (s : System ω κ) (delay : Int) (task : Task κ) :
    s.Leads { s with queue := (s.queue.postDelayed s.clock delay task).2 } :=
  of_step fun f hshows => by
    rw [hshows.queue, hshows.clock]
    exact .postDelayed f delay task

theorem cancel (s : System ω κ) (id : Nat) : s.Leads { s with queue := (s.queue.cancel id).2 } :=
  of_step fun f hshows => by
    rw [hshows.queue]
    exact .cancel f id

end System.Leads

namespace Host

variable {host : Host ω κ} {s : System ω κ}

/-! ## Tasks -/

/-- Whoever answers a call or runs a client's task comes back to what he was at. -/
structure Regular (host : Host ω κ) : Prop where
  answer : ∀ call, (host.answer call).Follows System.Leads
  client : ∀ task, (host.client task).Follows System.Leads

/-- Courses go through composition. -/
theorem Regular.pervasive_leads (hhost : host.Regular) :
    host.Pervasive (Op.Follows System.Leads) (Op.Follows System.Leads) :=
  pervasive_follows .refl .trans (fun _ _ => .of_same rfl rfl rfl) (fun _ => hhost.answer _)
    (fun _ _ _ _ _ => .of_same rfl rfl rfl) fun _ _ _ => .of_same rfl rfl rfl

/-- A lockout cancels its timer, if it has one, and starts it anew. -/
theorem leads_recordFailure : host.recordFailure.Follows System.Leads := by
  intro s
  rcases hresult : s.lockout.recordFailure host.setup.lockout s.clock (.lockoutExpired : Task κ) s.queue with
    ⟨result, lockout, queue⟩
  have hqueue : s.Leads { s with queue } := by
    rw [Lockout.recordFailure] at hresult
    dsimp only at hresult
    split at hresult
    · cases hresult
      rw [Lockout.cancelTimer]
      split
      · exact .postDelayed s _ _
      · exact (System.Leads.cancel s _).trans (.postDelayed _ _ _)
    · cases hresult
      exact .refl s
  obtain ⟨world, hrun⟩ := Lockout.run_recordFailure host s hresult
  rw [hrun]
  exact hqueue.trans (.of_same rfl rfl rfl)

theorem Regular.leads_runTask (hhost : host.Regular) (task : Task κ) :
    (host.runTask task).Follows System.Leads := by
  have hcoarse := hhost.pervasive_leads.coarse
  have hslot (kind caller sink subject) : (slotNew kind caller sink subject : Op ω κ Unit).Follows System.Leads :=
    hcoarse.slotNew (fun _ => follows_register .refl (fun _ _ => .of_same rfl rfl rfl) _ _)
      fun _ _ => .of_same rfl rfl rfl
  exact hcoarse.runTask (hcoarse.perform_of_all (fun _ => hhost.answer _) hslot leads_recordFailure
    (fun _ => .of_same rfl rfl rfl) (fun _ => .of_same rfl rfl rfl) hhost.client task)

/-! ## Running what is due -/

variable {task : Task κ} {queue : TaskQueue (Task κ)}

/-- A task that has its turn is begun and ended on the running thread. -/
theorem Regular.leads_turn (hhost : host.Regular) (hgoing : s.queue.stopping = false)
    (hpop : s.queue.pop s.clock = (some task, queue)) : s.Leads (host.turn { s with queue } task) where
  thread := (hhost.leads_runTask task _).thread
  leadsTo f hreached hshows hadmits := by
    have hbegan : f.Step (f.begin s.thread queue) := by
      rw [hshows.queue] at hgoing
      rw [hshows.queue, hshows.clock] at hpop
      exact .began (fun hworker hidle => hadmits.idle_iff.1 hidle hworker) hgoing hpop
    have hadmits' : (f.begin s.thread queue).Admits s.thread := by
      refine ⟨hadmits.settled, fun hidle hworker => ?_, fun hclient => ?_⟩
      · rw [← hworker, Floor.executions_begin_self] at hidle
        cases hidle
      · rw [Floor.executions_begin_of_ne (Ne.symm hclient)]
        exact hadmits.idle_iff.2 hclient
    obtain ⟨f₁, hcourse, hshows₁, hsame, hsettled⟩ :=
      (hhost.leads_runTask task (host.engine.mark (some s.thread) { s with queue })).leadsTo _
        (hreached.course (.single hbegan)) ⟨rfl, hshows.clock⟩ hadmits'
    have hthread : f₁.executions s.thread = ⟨true, f.handovers.length + 1⟩ :: f.executions s.thread := by
      rw [hsame, Floor.executions_begin_self]
    have hended : f.Course (f₁.finish s.thread (f.executions s.thread)) :=
      .head hbegan (hcourse.tail (.ended hthread rfl))
    -- Whoever had the mark before the task does not get it back.
    refine .of_course hended (Floor.executions_finish_of_begin hsame) (.of_shows ?_ hsettled)
    exact ⟨congrArg ({ · with executing := none }) hshows₁.queue, hshows₁.clock⟩

/-- Whoever finds no task has looked for one. -/
theorem step_of_pop_eq_none {f : Floor (Task κ)} (hpop : s.queue.pop s.clock = (none, queue)) (hshows : f.Shows s) :
    f.Step { f with queue } := by
  rw [(TaskQueue.pop_eq_none hpop).2, hshows.queue, hshows.clock]
  exact .idle f

/-- To run all that is due is to go through a course of steps. -/
theorem Regular.leads_runPending (hhost : host.Regular) : host.runPending.Follows System.Leads := by
  intro s
  change s.Leads (host.engine.runPending host.patience s).2
  induction host.patience generalizing s with
  | zero => exact .refl s
  | succ room ih =>
    cases hstopping : s.queue.stopping with
    | true =>
      rw [runPending_of_stopping hstopping]
      exact .refl s
    | false =>
      rcases hpop : s.queue.pop s.clock with ⟨_ | task, queue⟩
      · rw [runPending_of_none hstopping hpop]
        exact .of_step fun _ => step_of_pop_eq_none hpop
      · rw [runPending_of_some hstopping hpop]
        exact (hhost.leads_turn hstopping hpop).trans (ih _)

/-- Where nobody has the mark, nobody has it once all is run that is due. -/
theorem executing_runPending_of_none (host : Host ω κ) (room : Nat) (hnone : s.queue.executing = none) :
    (host.engine.runPending room s).2.queue.executing = none := by
  induction room generalizing s with
  | zero => exact hnone
  | succ room ih =>
    cases hstopping : s.queue.stopping with
    | true => rwa [runPending_of_stopping hstopping]
    | false =>
      rcases hpop : s.queue.pop s.clock with ⟨_ | task, queue⟩
      · rw [runPending_of_none hstopping hpop, (TaskQueue.pop_eq_none hpop).2]
        exact hnone
      · rw [runPending_of_some hstopping hpop]
        exact ih rfl

/-- Whoever runs what is due takes the mark from everybody, himself included, unless nothing is due. -/
theorem executing_runPending (host : Host ω κ) (hpatience : 0 < host.patience) (s : System ω κ) :
    (host.runPending.run s).2.queue.executing =
      if s.queue.stopping = false ∧ (s.queue.pop s.clock).1.isSome then none else s.queue.executing := by
  obtain ⟨room, hroom⟩ := Nat.exists_eq_succ_of_ne_zero (Nat.ne_of_gt hpatience)
  change (host.engine.runPending host.patience s).2.queue.executing = _
  rw [hroom]
  cases hstopping : s.queue.stopping with
  | true => rw [runPending_of_stopping hstopping, if_neg (fun h => Bool.noConfusion h.1)]
  | false =>
    rcases hpop : s.queue.pop s.clock with ⟨_ | task, queue⟩
    · rw [runPending_of_none hstopping hpop, (TaskQueue.pop_eq_none hpop).2, if_neg (fun h => Bool.noConfusion h.2)]
      rfl
    · rw [runPending_of_some hstopping hpop, if_pos ⟨rfl, rfl⟩]
      exact executing_runPending_of_none host room rfl

/-- The queue's own thread goes through a course of steps while it does what it has taken, and is at
    work then as before. -/
theorem leadsTo_of_taken {f : Floor (Task κ)} {s' : System ω κ} {since : Nat} (hreached : f.Reached)
    (hidle : f.executions .worker = []) (htaken : f.Step (f.assign queue [⟨false, since⟩]))
    (hshows : (f.assign queue [⟨false, since⟩]).Shows s) (hduty : f.duty = .atWork since) (hthread : s.thread = .worker)
    (hleads : s.Leads s') :
    ∃ f', f.Course f' ∧ f'.Shows s' ∧ f'.executions = f.executions ∧ f'.duty = .atWork since := by
  have hadmits : (f.assign queue [⟨false, since⟩]).Admits s.thread := by
    refine ⟨by simp [Floor.assign, hduty], fun hnone => ?_, fun hclient => absurd hthread hclient⟩
    rw [Floor.executions_assign_self] at hnone
    cases hnone
  obtain ⟨f', hcourse, hshows', hsame, -⟩ := hleads.leadsTo _ (hreached.course (.single htaken)) hshows hadmits
  have hworker : f'.executions .worker = [⟨false, since⟩] := by
    rw [hsame, Floor.executions_assign_self]
  have hduty' : f'.duty = .atWork since :=
    ((hreached.course (.head htaken hcourse)).kept.own .worker _ (hworker ▸ List.mem_singleton_self _) rfl).2
  exact ⟨f'.assign f'.queue [], .head htaken (hcourse.tail (.done hworker rfl)), ⟨hshows'.queue, hshows'.clock⟩,
    Floor.executions_assign_of_assign hsame hidle, hduty'⟩

/-- The queue's own thread leaves a queue that was stopped. -/
theorem leadsTo_leave {f : Floor (Task κ)} {since : Nat} (hshows : f.Shows s) (hduty : f.duty = .atWork since)
    (hidle : f.executions .worker = []) (hstopping : s.queue.stopping = true) :
    f.LeadsTo { s with queue.executing := none } := by
  rw [hshows.queue] at hstopping
  have hleft : f.Step f.leave := .left hduty hidle hstopping
  refine .of_course (.single hleft) rfl (.of_shows ?_ nofun)
  exact ⟨congrArg ({ · with executing := none }) hshows.queue, hshows.clock⟩

theorem leadsTo_endIfStopped {f : Floor (Task κ)} {since : Nat} (hshows : f.Shows s) (hduty : f.duty = .atWork since)
    (hidle : f.executions .worker = []) : f.LeadsTo ((endIfStopped : Op ω κ Unit).run s).2 := by
  change f.LeadsTo { s with queue := if s.queue.stopping then { s.queue with executing := none } else s.queue }
  split
  · next hstopping => exact leadsTo_leave hshows hduty hidle hstopping
  · exact .of_shows hshows (by simp [hduty])

/-- While the queue's own thread is at work and executes nothing, it may go on to run what is due. -/
theorem Regular.leadsTo_work (hhost : host.Regular) (hthread : s.thread = .worker) (room : Nat)
    {f : Floor (Task κ)} (hreached : f.Reached) (hshows : f.Shows s) {since : Nat} (hduty : f.duty = .atWork since)
    (hidle : f.executions .worker = []) : f.LeadsTo (host.engine.work room s) := by
  induction room generalizing s f with
  | zero => exact .of_shows hshows (by simp [hduty])
  | succ room ih =>
    rw [Engine.work]
    split
    · next hstopping => exact leadsTo_leave hshows hduty hidle hstopping
    · next hgoing =>
      split
      · next queue hpop =>
        have hidled := step_of_pop_eq_none hpop hshows
        exact .of_course (.single hidled) rfl (.of_shows ⟨rfl, hshows.clock⟩ (by simp [hduty]))
      · next task queue hpop =>
        have htook : f.Step (f.assign queue [⟨false, since⟩]) := by
          change ¬s.queue.stopping = true at hgoing
          change s.queue.pop s.clock = _ at hpop
          rw [hshows.queue] at hgoing
          rw [hshows.queue, hshows.clock] at hpop
          exact .took hduty hidle (Bool.eq_false_iff.2 hgoing) hpop
        have hrun := hhost.leads_runTask task { s with queue }
        obtain ⟨f', hcourse, hshows', hsame, hduty'⟩ :=
          leadsTo_of_taken (s := { s with queue }) hreached hidle htook ⟨rfl, hshows.clock⟩ hduty hthread hrun
        -- It is at work again, with nothing to do, as at the start.
        have hrest := ih (hrun.thread.trans hthread) (hreached.course hcourse) hshows' hduty' (by rw [hsame, hidle])
        exact hrest.of_course hcourse hsame

/-- So the queue's own thread may, while another one waits. -/
theorem Regular.leads_workThrough (hhost : host.Regular) (hclient : s.thread ≠ .worker) (room : Nat) :
    s.Leads ((host.workThrough room).run s).2 := by
  cases hrunning : s.queue.running with
  | false =>
    rw [workThrough, Op.run_get_bind, hrunning]
    exact .refl s
  | true =>
    rw [run_workThrough hrunning]
    refine ⟨rfl, fun f hreached hshows hadmits => ?_⟩
    rw [hshows.queue] at hrunning
    obtain ⟨since, hduty⟩ := hreached.kept.exists_atWork hrunning hadmits.settled
    obtain ⟨f', hcourse, hshows', hsame, hsettled⟩ :=
      hhost.leadsTo_work (s := { s with thread := .worker }) rfl room hreached ⟨hshows.queue, hshows.clock⟩ hduty
        (hadmits.idle_iff.2 hclient)
    exact ⟨f', hcourse, ⟨hshows'.queue, hshows'.clock⟩, hsame, hsettled⟩

/-! ## Starts and stops -/

/-- A queue that is started gets a thread, and that comes to work. -/
theorem leads_startQueue : (startQueue : Op ω κ Unit).Follows System.Leads := by
  intro s
  change s.Leads { s with queue := s.queue.start }
  refine ⟨rfl, fun f hreached hshows hadmits => ?_⟩
  rw [TaskQueue.start]
  split
  · exact .of_shows hshows hadmits.settled
  · next hfresh =>
    rw [hshows.queue, Bool.or_eq_true, not_or, Bool.not_eq_true, Bool.not_eq_true] at hfresh
    have hcame : f.Course f.hire.arrive := .head (.hired hfresh.1 hfresh.2) (.single (.arrived rfl))
    refine .of_course hcame rfl (.of_shows ⟨?_, hshows.clock⟩ nofun)
    rw [hshows.queue]
    rfl

/-- A queue that is stopped drops what waits. Its own thread leaves, unless it is the one that stops
    the queue. -/
theorem leads_stopQueue : (stopQueue : Op ω κ Unit).Follows System.Leads := by
  intro s
  change s.Leads { s with queue := s.queue.stop s.thread }
  refine ⟨rfl, fun f hreached hshows hadmits => ?_⟩
  have hkept := hreached.kept
  let halted : Floor (Task κ) := { f with queue := { f.queue with stopping := true } }
  have hhalted : f.Step halted := .halted f
  -- Where the mark stays, the queue is told to stop, and what waits is dropped.
  have hstay (h : f.queue.executing = (f.queue.stop s.thread).executing) :
      f.LeadsTo { s with queue := s.queue.stop s.thread } := by
    refine .of_course (.head hhalted (.single (.dropped rfl))) rfl (.of_shows ⟨?_, hshows.clock⟩ hadmits.settled)
    rw [hshows.queue, TaskQueue.stop]
    rw [TaskQueue.stop] at h
    dsimp only at h
    rw [← h]
  by_cases hleaves : (f.queue.started && s.thread != .worker) = true
  · obtain ⟨hstarted, hclient⟩ := Bool.and_eq_true_iff.1 hleaves
    cases hduty : f.duty with
    | unhired => exact absurd hduty (hkept.started.1 hstarted)
    | hired => exact absurd hduty hadmits.settled
    | atWork since =>
      have hidle := hadmits.idle_iff.2 (bne_iff_ne.1 hclient)
      have hleft : halted.Step halted.leave := .left hduty hidle rfl
      refine .of_course (.head hhalted (.head hleft (.single (.dropped rfl)))) rfl
        (.of_shows ⟨?_, hshows.clock⟩ nofun)
      rw [hshows.queue, TaskQueue.stop, if_pos hleaves]
      rfl
    | gone =>
      refine hstay ?_
      rw [TaskQueue.stop, if_pos hleaves]
      exact (hkept.gone hduty).2
  · refine hstay ?_
    rw [TaskQueue.stop, if_neg hleaves]

/-! ## Waiting for the queue -/

/-- A thread does not wait for the queue if it is marked, or if nobody else runs the tasks. -/
theorem run_invoke_of_marked (h : s.queue.runsOn s.thread = true ∨ s.queue.running = false) (op : Op ω κ α) :
    (host.invoke op).run s = op.run s := by
  rw [invoke, Op.run_bind]
  change ((get : Op ω κ (System ω κ)) >>= _ : Op ω κ α).run s = _
  rw [Op.run_get_bind, if_pos (by simpa using h)]

/-- The queue's own thread cannot wait for itself. -/
theorem run_invoke_of_worker (hmark : s.queue.runsOn s.thread = false) (hrunning : s.queue.running = true)
    (hworker : s.thread = .worker) (op : Op ω κ α) :
    (host.invoke op).run s = (.error (.coded .queueStopped), { s with stranded := true }) := by
  rw [invoke, Op.run_bind]
  change ((get : Op ω κ (System ω κ)) >>= _ : Op ω κ α).run s = _
  rw [Op.run_get_bind, if_neg (by simp [hmark, hrunning]), Op.run_get_bind, if_pos hworker]
  rfl

/-- Any other one waits for it, behind the tasks that are ready, and in vain if those stop the queue. -/
theorem run_invoke_of_client (hmark : s.queue.runsOn s.thread = false) (hrunning : s.queue.running = true)
    (hclient : s.thread ≠ .worker) (op : Op ω κ α) {s' : System ω κ}
    (hworked : ((host.workThrough s.queue.ready.length).run s).2 = s') :
    (host.invoke op).run s =
      if s'.queue.running then (lend op).run s'
      else (.error (.coded .queueStopped), { ((endIfStopped : Op ω κ Unit).run s').2 with stranded := true }) := by
  have hok : ((host.workThrough s.queue.ready.length).run s).1 = .ok () := by rw [run_workThrough hrunning]
  rw [invoke, Op.run_bind]
  change ((get : Op ω κ (System ω κ)) >>= _ : Op ω κ α).run s = _
  rw [Op.run_get_bind, if_neg (by simp [hmark, hrunning]), Op.run_get_bind, if_neg hclient, Op.run_get_bind,
    Op.run_bind_of_ok hok, hworked]
  rw [Op.run_get_bind]
  split <;> rfl

/-- What is lent is done on the queue's own thread, which leaves after that if the queue was stopped. -/
theorem run_lend (op : Op ω κ α) (s : System ω κ) :
    (lend op).run s =
      let result := op.run { s with thread := .worker, queue := s.queue.promote s.clock }
      (result.1, ((endIfStopped : Op ω κ Unit).run { result.2 with thread := s.thread }).2) := by
  rw [lend]
  change (Op.settle _ : Op ω κ α).run _ = _
  rw [Op.run_settle]
  rfl

/-- What somebody waits for is one more thing that the queue's own thread does. -/
theorem leads_lend {op : Op ω κ α} (hop : op.Follows System.Leads) (hclient : s.thread ≠ .worker)
    (hrunning : s.queue.running = true) : s.Leads ((lend op).run s).2 := by
  rw [run_lend]
  refine ⟨rfl, fun f hreached hshows hadmits => ?_⟩
  have hidle := hadmits.idle_iff.2 hclient
  rw [hshows.queue] at hrunning
  obtain ⟨since, hduty⟩ := hreached.kept.exists_atWork hrunning hadmits.settled
  have hlent : f.Step (f.assign (s.queue.promote s.clock) [⟨false, since⟩]) := by
    rw [hshows.queue, hshows.clock]
    exact .lent hduty hidle (TaskQueue.stopping_of_running hrunning)
  obtain ⟨f', hcourse, hshows', hsame, hduty'⟩ :=
    leadsTo_of_taken (s := { s with thread := .worker, queue := s.queue.promote s.clock }) hreached hidle hlent
      ⟨rfl, hshows.clock⟩ hduty rfl (hop _)
  have hended := leadsTo_endIfStopped (s := { (op.run _).2 with thread := s.thread }) ⟨hshows'.queue, hshows'.clock⟩
    hduty' (by rw [hsame, hidle])
  exact hended.of_course hcourse hsame

/-- The queue's own thread leaves after the tasks ahead if those have stopped the queue, unless it has left
    before. -/
theorem Regular.leads_workThrough_endIfStopped (hhost : host.Regular) (hclient : s.thread ≠ .worker)
    (hrunning : s.queue.running = true) (room : Nat) :
    s.Leads ((endIfStopped : Op ω κ Unit).run ((host.workThrough room).run s).2).2 := by
  have hworked := hhost.leads_workThrough hclient room
  refine ⟨hworked.thread, fun f hreached hshows hadmits => ?_⟩
  obtain ⟨f', hcourse, hshows', hsame, hsettled⟩ := hworked.leadsTo f hreached hshows hadmits
  refine .of_course hcourse hsame ?_
  have hidle : f'.executions .worker = [] := by rw [hsame, hadmits.idle_iff.2 hclient]
  cases hduty : f'.duty with
  | unhired =>
    rw [hshows.queue] at hrunning
    obtain ⟨since, hatWork⟩ := hreached.kept.exists_atWork hrunning hadmits.settled
    exact absurd hduty (hcourse.duty_ne_unhired (by simp [hatWork]))
  | hired => exact absurd hduty hsettled
  | atWork since => exact leadsTo_endIfStopped hshows' hduty hidle
  | gone =>
    obtain ⟨hstopping, hnobody⟩ := (hreached.course hcourse).kept.gone hduty
    rw [← hshows'.queue] at hstopping hnobody
    refine .of_shows ⟨?_, hshows'.clock⟩ hsettled
    change (if _ then _ else _) = f'.queue
    rw [if_pos hstopping, ← hnobody]
    exact hshows'.queue

/-- To wait for the queue is to go through a course of steps as well, also where it is in vain. -/
theorem Regular.leads_invoke (hhost : host.Regular) {op : Op ω κ α} (hop : op.Follows System.Leads) :
    (host.invoke op).Follows System.Leads := by
  intro s
  by_cases hwaits : s.queue.runsOn s.thread = false ∧ s.queue.running = true
  · by_cases hworker : s.thread = .worker
    · rw [run_invoke_of_worker hwaits.1 hwaits.2 hworker]
      exact .of_same rfl rfl rfl
    · rw [run_invoke_of_client hwaits.1 hwaits.2 hworker op rfl]
      split
      · next hrunning =>
        have hworked := hhost.leads_workThrough hworker s.queue.ready.length
        exact hworked.trans (leads_lend hop (hworked.thread.trans_ne hworker) hrunning)
      · have hended := hhost.leads_workThrough_endIfStopped hworker hwaits.2 s.queue.ready.length
        exact hended.trans (.of_same rfl rfl rfl)
  · rw [run_invoke_of_marked (by simpa [or_iff_not_imp_left] using hwaits)]
    exact hop s

/-- Which thread is running. -/
def whoami : Op ω κ Thread := return (← get).thread

/-! ## What the mark tells -/

/-- What the mark tells at a moment, and what comes of it for those who wait. -/
structure Affinity (host : Host ω κ) (f : Floor (Task κ)) (s : System ω κ) : Prop where
  /-- The mark is with whom it was handed to at last. -/
  executing : s.queue.executing = f.handovers.getLast?.bind TaskQueue.Handover.holder
  /-- A thread is marked for what it executes as long as the mark has not been handed over since. -/
  runsOn_iff : ∀ {thread : Thread} {e : Execution} {rest : List Execution},
    f.executions thread = e :: rest → (s.queue.runsOn thread = true ↔ f.Holds e)
  /-- In the midst of a task, the mark is lost as soon as another one begins. -/
  enclosing : ∀ {thread : Thread} {e : Execution} {rest : List Execution},
    f.executions thread = e :: rest → ∀ other ∈ rest, ¬f.Holds other
  /-- It does not come back. -/
  lost : ∀ {thread : Thread}, ∀ e ∈ f.executions thread, ¬f.Holds e → ∀ f', f.Course f' → ¬f'.Holds e
  /-- Whoever executes nothing is not marked, but for the queue's own thread while it is at work. -/
  unmarked : ∀ {thread : Thread}, f.executions thread = [] →
    (thread = .worker → ∀ since, f.duty ≠ .atWork since) → s.queue.runsOn thread = false
  /-- Nobody waits in the midst of a task as long as that is marked, or nobody else runs tasks. -/
  inline : ∀ {e : Execution} {rest : List Execution}, f.executions s.thread = e :: rest →
    f.Holds e ∨ s.queue.running = false →
    ∀ {α : Type} (op : Op ω κ α), (host.invoke op).run s = op.run s
  /-- Else the queue's own thread is waited for by another one, unless a task ahead stops the queue. -/
  elsewhere : ∀ {e : Execution} {rest : List Execution}, f.executions s.thread = e :: rest →
    ¬f.Holds e → s.queue.running = true → s.thread ≠ .worker →
    ((host.workThrough s.queue.ready.length).run s).2.queue.running = true →
    ((host.invoke whoami).run s).1 = .ok .worker
  /-- Then the wait is in vain. -/
  dropped : ∀ {e : Execution} {rest : List Execution}, f.executions s.thread = e :: rest →
    ¬f.Holds e → s.queue.running = true → s.thread ≠ .worker →
    ((host.workThrough s.queue.ready.length).run s).2.queue.running = false →
    ∀ {α : Type} (op : Op ω κ α), ((host.invoke op).run s).2.stranded = true
  /-- So it is where the queue's own thread waits, as that is for itself: nothing is done any more. -/
  itself : ∀ {e : Execution} {rest : List Execution}, f.executions .worker = e :: rest →
    ¬f.Holds e → s.queue.running = true → s.thread = .worker →
    ∀ {α : Type} (op : Op ω κ α), ((host.invoke op).run s).2 = { s with stranded := true }
  /-- To run what is due leaves nobody marked, unless nothing is due. -/
  drained : 0 < host.patience → (host.runPending.run s).2.queue.executing =
    if s.queue.stopping = false ∧ (s.queue.pop s.clock).1.isSome then none else s.queue.executing
  /-- What is done with the queue as a whole leads on by steps, and so to such moments. -/
  runPending : f.Admits s.thread → f.LeadsTo (host.runPending.run s).2
  work : f.Admits s.thread → s.thread ≠ .worker → f.LeadsTo (host.work.run s).2
  invoke : ∀ {α : Type} {op : Op ω κ α}, op.Follows System.Leads → f.Admits s.thread →
    f.LeadsTo ((host.invoke op).run s).2
  startQueue : f.Admits s.thread → f.LeadsTo ((startQueue : Op ω κ Unit).run s).2
  stopQueue : f.Admits s.thread → f.LeadsTo ((stopQueue : Op ω κ Unit).run s).2

/-- Whatever is done by whichever threads, at every moment it is the handing over of the mark that
    decides whether tasks find themselves on the queue. -/
theorem Regular.affinity (hhost : host.Regular) {f : Floor (Task κ)} (hreached : f.Reached) (hshows : f.Shows s) :
    host.Affinity f s := by
  have hkept := hreached.kept
  have hrunsOn {thread : Thread} {e : Execution} {rest : List Execution} (hthread : f.executions thread = e :: rest) :
      s.queue.runsOn thread = true ↔ f.Holds e := by
    rw [hshows.queue]
    exact hkept.runsOn_iff hthread
  have hunmarked {thread : Thread} {e : Execution} {rest : List Execution} (hthread : f.executions thread = e :: rest)
      (hlost : ¬f.Holds e) : s.queue.runsOn thread = false :=
    Bool.eq_false_iff.2 fun hmarked => hlost ((hrunsOn hthread).1 hmarked)
  exact {
    executing := by
      rw [hshows.queue]
      exact hkept.executing
    runsOn_iff := hrunsOn
    enclosing := fun hthread _ hother => hkept.not_holds_enclosing hthread hother
    lost := fun e he hlost f' hcourse hholds => hlost (hcourse.holds_of_holds (hkept.since_le _ e he) hholds)
    unmarked := fun hthread hworker => by
      rw [hshows.queue]
      exact hkept.runsOn_eq_false hthread hworker
    inline := fun hthread hinline _ op => run_invoke_of_marked (hinline.imp_left (hrunsOn hthread).2) op
    elsewhere := fun hthread hlost hrunning hclient hgoing => by
      rw [run_invoke_of_client (hunmarked hthread hlost) hrunning hclient whoami rfl, if_pos hgoing, run_lend]
      rfl
    dropped := fun hthread hlost hrunning hclient hstopped _ op => by
      rw [run_invoke_of_client (hunmarked hthread hlost) hrunning hclient op rfl, if_neg (by simp [hstopped])]
    itself := fun hthread hlost hrunning hworker _ op => by
      rw [run_invoke_of_worker (by rw [hworker]; exact hunmarked hthread hlost) hrunning hworker]
    drained := fun hpatience => executing_runPending host hpatience s
    runPending := (hhost.leads_runPending s).leadsTo f hreached hshows
    work := fun hadmits hclient => (hhost.leads_workThrough hclient _).leadsTo f hreached hshows hadmits
    invoke := fun hop => (hhost.leads_invoke hop s).leadsTo f hreached hshows
    startQueue := (leads_startQueue s).leadsTo f hreached hshows
    stopQueue := (leads_stopQueue s).leadsTo f hreached hshows }

/-! ### Tasks that run what is due -/

end Host

/-- What a client's task may do. -/
inductive Chore (κ : Type) where
  | post (task : κ)
  | postDelayed (delay : Int) (task : κ)
  | cancel (id : Nat)
  | runPending
  /-- To wait for what a task of a client does. -/
  | invoke (task : κ)
  /-- To look whether the running thread is marked, and to note it. -/
  | look

/-- How a chore is done, `inner` being the host that tasks have which are run meanwhile. -/
def Chore.perform (inner : Host (List Bool) κ) : Chore κ → Op (List Bool) κ Unit
  | post task => Op.post (.client task)
  | postDelayed delay task =>
    modify fun s => { s with queue := (s.queue.postDelayed s.clock delay (.client task)).2 }
  | cancel id => Op.onQueue fun q => (q.cancel id).2
  | runPending => do let _ ← inner.runPending
  | invoke task => inner.invoke (inner.client task)
  | look => do
    let found ← Host.onQueueThread
    modify fun s => { s with world := s.world ++ [found] }

/-- Chores are done one after the other. -/
def Chore.performAll (inner : Host (List Bool) κ) : List (Chore κ) → Op (List Bool) κ Unit
  | [] => pure ()
  | chore :: rest => do
    chore.perform inner
    performAll inner rest

namespace Host

/-- A host whose clients have lists of chores for tasks. Tasks may run what is due while they are
    executed that way, up to a depth at which they do nothing. -/
def doing (chores : κ → List (Chore κ)) (patience depth : Nat) : Host (List Bool) κ where
  setup := {}
  answer _ := throw (.plain "gone")
  observe _ s := s.world
  client task :=
    match depth with
    | 0 => pure ()
    | depth + 1 => Chore.performAll (doing chores patience depth) (chores task)
  patience := patience

theorem Regular.leads_performAll {inner : Host (List Bool) κ} (hinner : inner.Regular) (chores : List (Chore κ)) :
    (Chore.performAll inner chores).Follows System.Leads := by
  have hperform (chore : Chore κ) : (chore.perform inner).Follows System.Leads := by
    cases chore with
    | post task => exact fun s => .post s _
    | postDelayed delay task => exact fun s => .postDelayed s delay _
    | cancel id => exact fun s => .cancel s id
    | runPending => exact hinner.leads_runPending.bind_of .trans fun _ _ s _ => .refl s
    | invoke task => exact hinner.leads_invoke (hinner.client task)
    | look => exact fun _ => .of_same rfl rfl rfl
  induction chores with
  | nil => exact .refl
  | cons chore rest ih => exact (hperform chore).bind_of .trans fun _ _ s _ => ih s

/-- Whatever their chores are, clients come back to what they were at. -/
theorem regular_doing (chores : κ → List (Chore κ)) (patience depth : Nat) :
    (doing chores patience depth).Regular := by
  induction depth with
  | zero => exact ⟨fun _ => .refl, fun _ => .refl⟩
  | succ depth ih => exact ⟨fun _ => .refl, fun task => ih.leads_performAll (chores task)⟩

/-- Each task looks for the mark, but zero posts one and runs what is due before that. -/
def nested : Nat → List (Chore Nat)
  | 0 => [.post 1, .runPending, .look]
  | _ + 1 => [.look]

/-- The task zero is ready. -/
def zeroPosted : TaskQueue (Task Nat) := ({} : TaskQueue (Task Nat)).post (.client 0)

/-- A client runs what is due, which is zero. -/
def zeroBegun : Floor (Task Nat) := ({ now := 0, queue := zeroPosted } : Floor (Task Nat)).begin (.client 0) {}

/-- Zero posts one and begins it, by running what is due. -/
def oneBegun : Floor (Task Nat) :=
  { zeroBegun with queue := zeroBegun.queue.post (.client 1) }.begin (.client 0) zeroBegun.queue

theorem course_oneBegun : ({ now := 0 } : Floor (Task Nat)).Course oneBegun :=
  .head (.post _ (.client 0)) (.head (.began (by decide) rfl rfl)
    (.head (.post _ (.client 1)) (.single (.began (by decide) rfl rfl))))

/-- One is marked, and once it is done, zero goes on without the mark, for good. -/
theorem Regular.affinity_of_nested_drain :
    ∃ (f : Floor (Task Nat)) (s : System (List Bool) Nat), f.Reached ∧ f.Shows s ∧
      f.executions (.client 0) = [⟨true, 1⟩] ∧ (doing nested 9 2).Affinity f s ∧ s.queue.runsOn (.client 0) = false ∧
        oneBegun.queue.runsOn (.client 0) = true := by
  have hended : oneBegun.Step (oneBegun.finish (.client 0) [⟨true, 1⟩]) := .ended rfl rfl
  have hreached : (oneBegun.finish (.client 0) [⟨true, 1⟩]).Reached := ⟨0, course_oneBegun.tail hended⟩
  have haffinity := (regular_doing nested 9 2).affinity
    (s := { queue := (oneBegun.finish (.client 0) [⟨true, 1⟩]).queue, world := [] }) hreached ⟨rfl, rfl⟩
  have hlost : ¬(oneBegun.finish (.client 0) [⟨true, 1⟩]).Holds ⟨true, 1⟩ := by decide
  refine ⟨_, _, hreached, ⟨rfl, rfl⟩, rfl, haffinity, ?_, rfl⟩
  exact Bool.eq_false_iff.2 fun hmarked => hlost ((haffinity.runsOn_iff rfl).1 hmarked)

/-- Zero, as a task of the queue's own thread, that has posted one and has run what is due. -/
def zeroAtWork : Floor (Task Nat) :=
  let arrived := ({ now := 0 } : Floor (Task Nat)).hire.arrive
  let took := arrived.assign arrived.queue [⟨false, 1⟩]
  (took.begin .worker took.queue).finish .worker [⟨false, 1⟩]

/-- Zero posts a task, runs what is due, and waits for one more. -/
def nestedInvoke : Nat → List (Chore Nat)
  | 0 => [.post 1, .runPending, .invoke 1]
  | _ + 1 => [.look]

/-- A task that runs what is due is executed without the mark after that. Where it is executed by the
    queue's own thread, it waits for itself if it waits; and where it is executed by another one, it
    finds that it is not on the queue. -/
theorem not_marked_of_nested_drain :
    (¬∀ f : Floor (Task Nat), f.Reached → ∀ thread, f.executions thread ≠ [] →
      f.queue.runsOn thread = true ∨ f.queue.running = false) ∧
      ((doing nested 9 2).runPending.run { queue := zeroPosted, world := [] }).2.world = [true, false] ∧
      ((doing nestedInvoke 9 2).work.run { queue := zeroPosted.start, world := [] }).2.stranded = true := by
  refine ⟨fun hmarked => ?_, by decide, by decide⟩
  have hreached : zeroAtWork.Reached := by
    refine ⟨0, .head (.hired rfl rfl) (.head (.arrived rfl) (.head (.post _ (.client 0)) ?_))⟩
    refine .head (.took rfl rfl rfl rfl) (.head (.post _ (.client 1)) ?_)
    exact .head (.began (by decide) rfl rfl) (.single (.ended rfl rfl))
  rcases hmarked _ hreached .worker (by decide) with hrunsOn | hrunning
  · exact absurd hrunsOn (by decide)
  · exact absurd hrunning (by decide)

end Host

end Fingerprint
