import Fingerprint.Proofs.Composition
import Fingerprint.Proofs.Ledger

/-!
# How long a lockout lasts

A lockout ends when its timer runs out, and each further failure is to start
the timer anew. A timer that is ready cannot be cancelled any more, though. If
a failure is counted then, the timer ends the lockout that the failure has
just lengthened, and forgets the number of the one that was started for it.

* `Lockout.Passes`: what can happen while no success is counted;
* `Lockout.Holds`: what then keeps a lockout up until a time;
* `Lockout.Reachable.lasts_iff`: a lockout lasts as long as it is to, whatever
  happens, exactly if no timer waits that runs out earlier.
-/

namespace Fingerprint

namespace Lockout

variable {ω κ : Type} (host : Host ω κ)

/-! ## Runs -/

/-- What can happen at one go while no attempt is counted: on the clock, on the queue, and
    elsewhere. Nobody but the lockout itself posts or cancels its timer. What a task does that
    was taken off the queue happens after that, also step by step. -/
inductive Waits : System ω κ → System ω κ → Prop
  | advanced {s : System ω κ} {now : Int} (h : s.clock ≤ now) : Waits s { s with clock := now }
  | posted {s : System ω κ} {task : Task κ} (h : task ≠ .lockoutExpired) :
      Waits s { s with queue := s.queue.post task }
  | delayed {s : System ω κ} {delay : Int} {task : Task κ} (h : task ≠ .lockoutExpired) :
      Waits s { s with queue := (s.queue.postDelayed s.clock delay task).2 }
  | canceled {s : System ω κ} {id : Nat}
      (h : ∀ d ∈ s.queue.delayed, d.id = id → d.task ≠ .lockoutExpired) :
      Waits s { s with queue := (s.queue.cancel id).2 }
  | taken {s : System ω κ} {task : Task κ} {queue : TaskQueue (Task κ)} (h : task ≠ .lockoutExpired)
      (hpop : s.queue.pop s.clock = (some task, queue)) : Waits s { s with queue }
  | expired {s : System ω κ} {queue : TaskQueue (Task κ)}
      (hpop : s.queue.pop s.clock = (some .lockoutExpired, queue)) :
      Waits s (host.engine.run .lockoutExpired { s with queue })
  | drained {s : System ω κ} {queue : TaskQueue (Task κ)}
      (hpop : s.queue.pop s.clock = (none, queue)) :
      Waits s { s with queue }
  /-- Anything that has to do neither with the clock nor with the lockout, nor with what waits. -/
  | elsewhere {s s' : System ω κ} {started : Bool} {executing : Option Thread}
      (hclock : s'.clock = s.clock)
      (hlockout : s'.lockout = s.lockout)
      (hqueue : s'.queue = { s.queue with started, executing }) : Waits s s'

/-- What can happen at one go while no success is counted. -/
inductive Passes : System ω κ → System ω κ → Prop
  /-- A failure is counted, as long as the counter has room. -/
  | failed {s : System ω κ} (h : s.lockout.failed + 1 ≠ 0) : Passes s (host.recordFailure.run s).2
  | waits {s s' : System ω κ} (h : Waits host s s') : Passes s s'

/-- What can happen step by step while no success is counted. -/
abbrev Passing : System ω κ → System ω κ → Prop := Relation.ReflTransGen (Passes host)

/-- The states that are reached from the start. -/
inductive Reachable : System ω κ → Prop
  | fresh {s : System ω κ} (hqueue : s.queue = {}) (hlockout : s.lockout = {}) : Reachable s
  | waits {s s' : System ω κ} (h : Reachable s) (hstep : Waits host s s') : Reachable s'
  | failed {s : System ω κ} (h : Reachable s) : Reachable (host.recordFailure.run s).2
  | succeeded {s : System ω κ} (h : Reachable s) :
      Reachable ((Host.recordSuccess : Op ω κ Unit).run s).2

/-- Until a time, authentication is locked, and is said to be locked until then or longer,
    whatever happens but a success. -/
def Lasts (s : System ω κ) (deadline : Int) : Prop :=
  ∀ s', Passing host s s' → s'.clock < deadline →
    s'.lockout.isLocked host.setup.lockout ∧
      ∃ time, s'.lockout.lockedUntil = some time ∧ deadline ≤ time

/-- A timer is ready, or will be before a time. -/
def HasEarlyExpiry (queue : TaskQueue (Task κ)) (deadline : Int) : Prop :=
  .lockoutExpired ∈ queue.ready ∨ ∃ d ∈ queue.delayed, d.task = .lockoutExpired ∧ d.due < deadline

variable {host} {s s' : System ω κ} {deadline : Int}

/-! ## Failures -/

theorem run_recordFailure (host : Host ω κ) (s : System ω κ) {result : LockoutResult}
    {lockout : Lockout} {queue : TaskQueue (Task κ)}
    (h : s.lockout.recordFailure host.setup.lockout s.clock .lockoutExpired s.queue =
      (result, lockout, queue)) :
    ∃ world, host.recordFailure.run s = (.ok result, { s with lockout, queue, world }) := by
  unfold Host.recordFailure
  rw [Op.run_get_bind]
  simp only [h]
  cases result with
  | stillOpen => exact ⟨_, rfl⟩
  | entered => exact ⟨_, rfl⟩

/-- The system after a failure that enters the lockout or lengthens it. -/
structure Entered (host : Host ω κ) (s s' : System ω κ) : Prop where
  clock : s'.clock = s.clock
  locked : s'.lockout.isLocked host.setup.lockout
  lockedUntil : s'.lockout.lockedUntil = some (s.clock + host.setup.lockout.duration)
  queue : s'.queue =
    ((s.lockout.cancelTimer s.queue).postDelayed s.clock host.setup.lockout.duration
      .lockoutExpired).2
  timer : s'.lockout.timer =
    ((s.lockout.cancelTimer s.queue).postDelayed s.clock host.setup.lockout.duration
      .lockoutExpired).1

/-- A failure beyond the limit enters the lockout. -/
theorem recordFailure_of_lt (h : host.setup.lockout.maxFailedAttempts < s.lockout.failed + 1) :
    (host.recordFailure.run s).1 = .ok .entered ∧ Entered host s (host.recordFailure.run s).2 := by
  obtain ⟨world, hrun⟩ := run_recordFailure host s (by
    rw [recordFailure, if_pos (by simpa [isLocked] using h)])
  rw [hrun]
  exact ⟨rfl, rfl, by simpa [isLocked] using h, rfl, rfl, rfl⟩

/-- Any other failure is no more than counted. -/
theorem recordFailure_of_not_lt (h : ¬host.setup.lockout.maxFailedAttempts < s.lockout.failed + 1) :
    (host.recordFailure.run s).1 = .ok .stillOpen ∧
      ∃ world, (host.recordFailure.run s).2 =
        { s with lockout.failed := s.lockout.failed + 1, world } := by
  obtain ⟨world, hrun⟩ := run_recordFailure host s (by
    rw [recordFailure, if_neg (by simpa [isLocked] using h)])
  rw [hrun]
  exact ⟨rfl, world, rfl⟩

theorem entered_of_result (h : (host.recordFailure.run s).1 = .ok .entered) :
    Entered host s (host.recordFailure.run s).2 := by
  by_cases hlimit : host.setup.lockout.maxFailedAttempts < s.lockout.failed + 1
  · exact (recordFailure_of_lt hlimit).2
  · rw [(recordFailure_of_not_lt hlimit).1] at h
    cases h

/-- The counter goes up by one, as long as it has room. -/
theorem lt_failed_add_one {limit failed : UInt32} (h : limit < failed) (hroom : failed + 1 ≠ 0) :
    limit < failed + 1 := by
  rw [UInt32.lt_iff_toNat_lt] at h ⊢
  rw [Ne, ← UInt32.toNat_inj] at hroom
  have hlt := failed.toNat_lt
  simp only [UInt32.toNat_add, UInt32.toNat_one, UInt32.toNat_zero] at hroom ⊢
  omega

/-! ## The timer on the queue -/

/-- The lockout takes no more off the queue than its timer. -/
theorem ready_cancelTimer (lockout : Lockout) (queue : TaskQueue (Task κ)) :
    (lockout.cancelTimer queue).ready = queue.ready := by
  rw [cancelTimer]
  split
  · rfl
  · exact TaskQueue.ready_cancel

theorem stopping_cancelTimer (lockout : Lockout) (queue : TaskQueue (Task κ)) :
    (lockout.cancelTimer queue).stopping = queue.stopping := by
  rw [cancelTimer]
  split
  · rfl
  · exact TaskQueue.stopping_cancel

theorem delayed_cancelTimer_sublist (lockout : Lockout) (queue : TaskQueue (Task κ)) :
    (lockout.cancelTimer queue).delayed.Sublist queue.delayed := by
  rw [cancelTimer]
  split
  · exact .refl _
  · exact TaskQueue.delayed_cancel_sublist

/-- A failure puts no task on the queue but the timer. -/
theorem mem_tasks_recordFailure {lockout : Lockout} {settings : Settings} {now : Int} {expiry task : Task κ}
    {queue : TaskQueue (Task κ)} (h : task ∈ (lockout.recordFailure settings now expiry queue).2.2.tasks) :
    task ∈ queue.tasks ∨ task = expiry := by
  rw [recordFailure] at h
  split at h
  · refine (TaskQueue.mem_tasks_postDelayed h).imp_left fun hold => ?_
    rw [cancelTimer] at hold
    split at hold
    · exact hold
    · exact TaskQueue.tasks_cancel_subset hold
  · exact .inl h

theorem Entered.ready (h : Entered host s s') : s'.queue.ready = s.queue.ready := by
  rw [h.queue, TaskQueue.ready_postDelayed, ready_cancelTimer]

theorem Entered.inOrder (h : Entered host s s') (horder : s.queue.InOrder) : s'.queue.InOrder := by
  rw [h.queue]
  exact TaskQueue.InOrder.postDelayed (horder.sublist (delayed_cancelTimer_sublist _ _))

/-- A timer that waits after a failure was there before, or runs for as long as a lockout
    lasts. -/
theorem Entered.mem_delayed (h : Entered host s s') {d : Delayed (Task κ)}
    (hd : d ∈ s'.queue.delayed) :
    d ∈ s.queue.delayed ∨ s.clock + host.setup.lockout.duration ≤ d.due := by
  rw [h.queue] at hd
  rcases TaskQueue.mem_delayed_postDelayed hd with hd | rfl
  · exact .inl ((delayed_cancelTimer_sublist _ _).subset hd)
  · right
    dsimp only
    omega

/-- What the timer does when it runs out. -/
theorem run_expiry (host : Host ω κ) (s : System ω κ) :
    ∃ world, host.engine.run .lockoutExpired s = { s with lockout := {}, world } := ⟨_, rfl⟩

theorem Waits.inOrder (hstep : Waits host s s') (h : s.queue.InOrder) : s'.queue.InOrder := by
  cases hstep with
  | advanced => exact h
  | posted =>
    rw [TaskQueue.InOrder, TaskQueue.delayed_post]
    exact h
  | delayed => exact h.postDelayed
  | canceled => exact h.cancel
  | taken _ hpop | expired hpop | drained hpop =>
    have hinOrder := h.pop s.clock
    rw [hpop] at hinOrder
    exact hinOrder
  | elsewhere _ _ hqueue =>
    rw [hqueue]
    exact h

theorem inOrder_recordFailure (h : s.queue.InOrder) :
    (host.recordFailure.run s).2.queue.InOrder := by
  by_cases hlimit : host.setup.lockout.maxFailedAttempts < s.lockout.failed + 1
  · exact (recordFailure_of_lt hlimit).2.inOrder h
  · obtain ⟨-, world, hrun⟩ := recordFailure_of_not_lt hlimit
    rw [hrun]
    exact h

theorem Reachable.inOrder (h : Reachable host s) : s.queue.InOrder := by
  induction h with
  | fresh hqueue =>
    rw [hqueue]
    exact .nil
  | waits _ hstep ih => exact hstep.inOrder ih
  | failed _ ih => exact inOrder_recordFailure ih
  | succeeded _ ih => exact ih

/-! ## Before the deadline -/

/-- A lockout is held up until a deadline: no timer runs out before, and any failure would put
    it off. -/
structure Holds (host : Host ω κ) (deadline : Int) (s : System ω κ) : Prop where
  since : deadline ≤ s.clock + host.setup.lockout.duration
  inOrder : s.queue.InOrder
  delayed : ∀ d ∈ s.queue.delayed, d.task = .lockoutExpired → deadline ≤ d.due
  ready : s.clock < deadline → .lockoutExpired ∉ s.queue.ready
  locked : s.clock < deadline → s.lockout.isLocked host.setup.lockout
  lockedUntil : s.clock < deadline → ∃ time, s.lockout.lockedUntil = some time ∧ deadline ≤ time

/-- Before the deadline, the timer does not get ready. -/
theorem Holds.not_mem_ready_promote (h : Holds host deadline s) (hclock : s.clock < deadline) :
    .lockoutExpired ∉ (s.queue.promote s.clock).ready := by
  rw [TaskQueue.mem_ready_promote h.inOrder]
  rintro (hready | ⟨d, hd, hdue, htask⟩)
  · exact h.ready hclock hready
  · have := h.delayed d hd htask
    omega

/-- A lockout is held up by a change of the queue that adds no early timer. -/
theorem Holds.onQueue (h : Holds host deadline s) {queue : TaskQueue (Task κ)}
    (hinOrder : queue.InOrder)
    (hdelayed : ∀ d ∈ queue.delayed, d.task = .lockoutExpired → d ∈ s.queue.delayed)
    (hready : s.clock < deadline → .lockoutExpired ∉ queue.ready) :
    Holds host deadline { s with queue } where
  since := h.since
  inOrder := hinOrder
  delayed d hd htask := h.delayed d (hdelayed d hd htask) htask
  ready := hready
  locked := h.locked
  lockedUntil := h.lockedUntil

/-- What was popped off the queue holds up no lockout. -/
theorem Holds.popped (h : Holds host deadline s) {next : Option (Task κ)}
    {queue : TaskQueue (Task κ)} (hpop : s.queue.pop s.clock = (next, queue)) :
    Holds host deadline { s with queue } := by
  have hinOrder := h.inOrder.pop s.clock
  rw [hpop] at hinOrder
  have hsame : queue.delayed = (s.queue.promote s.clock).delayed ∧
      ∀ task ∈ queue.ready, task ∈ (s.queue.promote s.clock).ready := by
    cases next with
    | none =>
      obtain ⟨-, rfl⟩ := TaskQueue.pop_eq_none hpop
      exact ⟨rfl, fun _ => id⟩
    | some first =>
      obtain ⟨hready, hqueue⟩ := TaskQueue.pop_eq_some hpop
      rw [hready]
      exact ⟨by rw [hqueue], fun task => List.mem_cons_of_mem first⟩
  refine h.onQueue hinOrder (fun d hd _ => ?_) fun hclock hready => ?_
  · rw [hsame.1] at hd
    exact TaskQueue.delayed_promote_sublist.subset hd
  · exact h.not_mem_ready_promote hclock (hsame.2 _ hready)

theorem Waits.holds (hstep : Waits host s s') (h : Holds host deadline s) :
    Holds host deadline s' := by
  cases hstep with
  | advanced hclock =>
    have hbefore {now : Int} (hnow : now < deadline) (hclock : s.clock ≤ now) :
        s.clock < deadline := by omega
    refine ⟨?_, h.inOrder, h.delayed, fun hnow => h.ready (hbefore hnow hclock),
      fun hnow => h.locked (hbefore hnow hclock), fun hnow => h.lockedUntil (hbefore hnow hclock)⟩
    have := h.since
    dsimp only
    omega
  | posted htask =>
    refine h.onQueue ?_ (fun d hd _ => ?_) fun hclock hready => ?_
    · rw [TaskQueue.InOrder, TaskQueue.delayed_post]
      exact h.inOrder
    · rwa [TaskQueue.delayed_post] at hd
    · rcases TaskQueue.mem_ready_post hready with hready | heq
      · exact h.ready hclock hready
      · exact htask heq.symm
  | delayed htask =>
    refine h.onQueue h.inOrder.postDelayed (fun d hd hexpiry => ?_) fun hclock hready => ?_
    · rcases TaskQueue.mem_delayed_postDelayed hd with hd | rfl
      · exact hd
      · exact absurd hexpiry htask
    · rw [TaskQueue.ready_postDelayed] at hready
      exact h.ready hclock hready
  | canceled =>
    refine h.onQueue h.inOrder.cancel (fun d hd _ => TaskQueue.delayed_cancel_sublist.subset hd)
      fun hclock => ?_
    rw [TaskQueue.ready_cancel]
    exact h.ready hclock
  | taken _ hpop | drained hpop => exact h.popped hpop
  | @expired queue hpop =>
    have hpopped := h.popped hpop
    -- The timer would have been ready before the deadline.
    have hlate : ¬s.clock < deadline := fun hclock => by
      refine h.not_mem_ready_promote hclock ?_
      rw [(TaskQueue.pop_eq_some hpop).1]
      exact List.mem_cons_self
    obtain ⟨world, hrun⟩ := run_expiry host { s with queue }
    rw [hrun]
    exact ⟨hpopped.since, hpopped.inOrder, hpopped.delayed, fun hclock => absurd hclock hlate,
      fun hclock => absurd hclock hlate, fun hclock => absurd hclock hlate⟩
  | elsewhere hclock hlockout hqueue =>
    obtain ⟨hsince, hinOrder, hdelayed, hready, hlocked, hlockedUntil⟩ := h
    rw [← hclock] at hsince hready hlocked hlockedUntil
    rw [← hlockout] at hlocked hlockedUntil
    refine ⟨hsince, ?_, ?_, ?_, hlocked, hlockedUntil⟩ <;> rw [hqueue]
    · exact hinOrder
    · exact hdelayed
    · exact hready

/-- Whatever happens but a success, a lockout that is held up stays so. -/
theorem Passes.holds (hstep : Passes host s s') (h : Holds host deadline s) :
    Holds host deadline s' := by
  cases hstep with
  | failed hroom =>
    by_cases hlimit : host.setup.lockout.maxFailedAttempts < s.lockout.failed + 1
    · have hentered := (recordFailure_of_lt hlimit).2
      refine ⟨?_, hentered.inOrder h.inOrder, fun d hd htask => ?_, fun hclock => ?_,
        fun _ => hentered.locked, fun _ => ⟨_, hentered.lockedUntil, h.since⟩⟩
      · rw [hentered.clock]
        exact h.since
      · rcases hentered.mem_delayed hd with hd | hdue
        · exact h.delayed d hd htask
        · exact Int.le_trans h.since hdue
      · rw [hentered.clock] at hclock
        rw [hentered.ready]
        exact h.ready hclock
    · obtain ⟨-, world, hrun⟩ := recordFailure_of_not_lt hlimit
      rw [hrun]
      refine ⟨h.since, h.inOrder, h.delayed, h.ready, fun hclock => ?_, h.lockedUntil⟩
      exact absurd (lt_failed_add_one (by simpa [isLocked] using h.locked hclock) hroom) hlimit
  | waits hstep => exact hstep.holds h

theorem Holds.lasts (h : Holds host deadline s) : Lasts host s deadline := by
  intro s' hpassing hclock
  have hholds : Holds host deadline s' := by
    clear hclock
    induction hpassing with
    | refl => exact h
    | tail _ hstep ih => exact hstep.holds ih
  exact ⟨hholds.locked hclock, hholds.lockedUntil hclock⟩

/-! ## Early timers -/

/-- A timer that is the next task ends the lockout. -/
theorem exists_unlocked_of_pop {queue : TaskQueue (Task κ)}
    (hpop : s.queue.pop s.clock = (some .lockoutExpired, queue)) :
    ∃ s', Passing host s s' ∧ s'.clock = s.clock ∧ s'.lockout = {} := by
  obtain ⟨world, hrun⟩ := run_expiry host { s with queue }
  exact ⟨_, .single (.waits (.expired hpop)), by rw [hrun], by rw [hrun]⟩

/-- A timer that is ready ends the lockout once the tasks before it were taken. -/
theorem exists_unlocked_of_ready (host : Host ω κ) {s : System ω κ}
    (h : .lockoutExpired ∈ (s.queue.promote s.clock).ready) :
    ∃ s', Passing host s s' ∧ s'.clock = s.clock ∧ s'.lockout = {} := by
  obtain ⟨before, after, hready⟩ := List.append_of_mem h
  clear h
  induction before generalizing s after with
  | nil => exact exists_unlocked_of_pop (TaskQueue.pop_of_ready hready)
  | cons task before ih =>
    have hpop := TaskQueue.pop_of_ready hready
    by_cases htask : task = .lockoutExpired
    · subst htask
      exact exists_unlocked_of_pop hpop
    · -- Whatever gets ready meanwhile waits behind the timer.
      let ready := before ++ Task.lockoutExpired :: after
      let queue := { s.queue.promote s.clock with ready }
      obtain ⟨s', hpassing, hclock, hlockout⟩ := ih (s := { s with queue })
        (after ++ (queue.dueAt s.clock).map (·.task))
        (by simp [queue, ready, TaskQueue.ready_promote])
      exact ⟨s', .head (.waits (.taken htask hpop)) hpassing, hclock, hlockout⟩

/-- A lockout does not last where a timer runs out before. -/
theorem not_lasts_of_hasEarlyExpiry (hinOrder : s.queue.InOrder) (hclock : s.clock < deadline)
    (h : HasEarlyExpiry s.queue deadline) : ¬Lasts host s deadline := by
  intro hlasts
  -- It is ready at some time before the deadline.
  obtain ⟨now, hnow, hdeadline, hready⟩ : ∃ now, s.clock ≤ now ∧ now < deadline ∧
      .lockoutExpired ∈ (s.queue.promote now).ready := by
    rcases h with hready | ⟨d, hd, htask, hdue⟩
    · exact ⟨s.clock, Int.le_refl _, hclock, (TaskQueue.mem_ready_promote hinOrder).2 (.inl hready)⟩
    · refine ⟨max s.clock d.due, Int.le_max_left .., Int.max_lt.2 ⟨hclock, hdue⟩, ?_⟩
      exact (TaskQueue.mem_ready_promote hinOrder).2 (.inr ⟨d, hd, Int.le_max_right .., htask⟩)
  obtain ⟨s', hpassing, hclock', hlockout⟩ :=
    exists_unlocked_of_ready host (s := { s with clock := now }) hready
  have hlocked :=
    (hlasts s' (.head (.waits (.advanced hnow)) hpassing) (by rw [hclock']; exact hdeadline)).1
  rw [hlockout] at hlocked
  simp [isLocked] at hlocked

theorem Entered.holds (h : Entered host s s') (hinOrder : s.queue.InOrder)
    (hearly : ¬HasEarlyExpiry s'.queue (s.clock + host.setup.lockout.duration)) :
    Holds host (s.clock + host.setup.lockout.duration) s' where
  since := Int.le_of_eq (by rw [h.clock])
  inOrder := h.inOrder hinOrder
  delayed d hd htask := Int.not_lt.1 fun hdue => hearly (.inr ⟨d, hd, htask, hdue⟩)
  ready _ hready := hearly (.inl hready)
  locked _ := h.locked
  lockedUntil _ := ⟨_, h.lockedUntil, Int.le_refl _⟩

/-- Of the timers that wait after a failure it depends how long the lockout lasts. -/
theorem Entered.lasts_iff_not_hasEarlyExpiry (h : Entered host s s') (hinOrder : s.queue.InOrder)
    (hduration : 0 < host.setup.lockout.duration) :
    Lasts host s' (s.clock + host.setup.lockout.duration) ↔
      ¬HasEarlyExpiry s'.queue (s.clock + host.setup.lockout.duration) := by
  constructor
  · intro hlasts hearly
    refine not_lasts_of_hasEarlyExpiry (h.inOrder hinOrder) ?_ hearly hlasts
    rw [h.clock]
    omega
  · intro hearly
    exact (h.holds hinOrder hearly).lasts

/-- A lockout that is entered or lengthened lasts as long as it is to, whatever happens but a
    success, exactly if no timer of an earlier one is ready or runs out before. -/
theorem Reachable.lasts_iff (h : Reachable host s) (hduration : 0 < host.setup.lockout.duration)
    (hresult : (host.recordFailure.run s).1 = .ok .entered) :
    Lasts host (host.recordFailure.run s).2 (s.clock + host.setup.lockout.duration) ↔
      ¬HasEarlyExpiry (host.recordFailure.run s).2.queue
        (s.clock + host.setup.lockout.duration) :=
  (entered_of_result hresult).lasts_iff_not_hasEarlyExpiry h.inOrder hduration

/-- The first lockout, which the sixth failure in a row enters, lasts for half a minute. -/
theorem Reachable.lasts_iff_of_sixth :
    let host := Ledger.host {} Ledger.obliging
    let fail s := (host.recordFailure.run s).2
    let s := fail (fail (fail (fail (fail { world := [] }))))
    0 < host.setup.lockout.duration ∧ (host.recordFailure.run s).1 = .ok .entered ∧
      (Lasts host (fail s) 30000 ↔ ¬HasEarlyExpiry (fail s).queue 30000) ∧
      ¬HasEarlyExpiry (fail s).queue 30000 := by
  intro host fail s
  have hreachable : Reachable host s := by
    iterate 5 refine .failed ?_
    exact .fresh rfl rfl
  have hresult : (host.recordFailure.run s).1 = .ok .entered := rfl
  have hearly : ¬HasEarlyExpiry (fail s).queue 30000 := by
    unfold HasEarlyExpiry
    decide
  exact ⟨by decide, hresult, hreachable.lasts_iff (by decide) hresult, hearly⟩

/-- Where no failure is tolerated, and the second one is counted by a task that runs half a
    minute after the first, the timer is ready behind that task. It ends the lockout at once,
    although that was to last for another half a minute. -/
theorem not_lasts_of_ready_timer :
    let host := Ledger.host { lockout.maxFailedAttempts := 0 } Ledger.obliging
    let locked := (host.recordFailure.run { world := [] }).2
    let due := { locked with clock := 30000, queue := locked.queue.post (.rename 0 0 []) }
    let s := { due with queue := (due.queue.pop due.clock).2 }
    Reachable host s ∧ (host.recordFailure.run s).1 = .ok .entered ∧
      ¬Lasts host (host.recordFailure.run s).2 60000 := by
  intro host locked due s
  have hlocked : Reachable host locked := .failed (.fresh rfl rfl)
  have hposted : Reachable host { locked with queue := locked.queue.post (.rename 0 0 []) } :=
    hlocked.waits (.posted (by decide))
  have hdue : Reachable host due := hposted.waits (.advanced (by decide))
  have hreachable : Reachable host s :=
    hdue.waits (.taken (by decide : Task.rename 0 0 [] ≠ _) rfl)
  refine ⟨hreachable, rfl, not_lasts_of_hasEarlyExpiry ?_ (by decide) (.inl (by decide))⟩
  exact hreachable.failed.inOrder

end Lockout

end Fingerprint
