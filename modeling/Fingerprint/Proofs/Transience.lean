import Mathlib.Data.List.TakeWhile
import Fingerprint.Proofs.Conservation

/-!
# No lockout is permanent

The number of the timer that a lockout keeps may be stale: that timer may be
ready already, so that it cannot be cancelled any more, or an older one may
have run out and made the lockout forget the number. So timers may be left
behind. The one that ends the present lockout is always among them.

A timer that is ready has no due time on the queue any more. It is kept beside
the system here, as is the number of failures.

* `Lockout.Tally`, `Lockout.Happens`: what happens to a lockout, one thing at a
  time, on a queue that others use, too;
* `Lockout.Sustained`: while authentication is locked, the timer for that
  waits;
* `Lockout.Happens.sustained`: which each step keeps;
* `Engine.begun`, `Lockout.runs_runPending`: a drain goes step by step;
* `Lockout.Runs.wears_off`: so a drain that is late enough ends the lockout.
-/

namespace Fingerprint

namespace Engine

variable {σ τ : Type} (engine : Engine σ τ)

/-- The tasks that a drain runs, each with the state in which it begins. -/
def begun : (room : Nat) → σ → List (τ × σ)
  | 0, _ => []
  | room + 1, s =>
    if (engine.queue s).stopping then []
    else
      match (engine.queue s).pop (engine.now s) with
      | (none, _) => []
      | (some task, q) =>
        let s := engine.mark (some (engine.thread s)) (engine.setQueue q s)
        (task, s) :: begun room (engine.mark none (engine.run task s))

end Engine

variable {ω κ : Type} {host : Host ω κ}

namespace TaskQueue

variable {q q' : TaskQueue (Task κ)} {now due : Int} {task : Task κ} {d : Delayed (Task κ)}

/-! ## Timers that get ready -/

/-- The due times of the timers that get ready, in the order in which they do. -/
def expiring (q : TaskQueue (Task κ)) (now : Int) : List Int :=
  ((q.dueAt now).filter (·.task.isExpiry)).map (·.due)

theorem length_expiring (q : TaskQueue (Task κ)) (now : Int) :
    (q.promote now).ready.countP (·.isExpiry) =
      q.ready.countP (·.isExpiry) + (q.expiring now).length := by
  rw [ready_promote, List.countP_append, List.countP_map, expiring, List.length_map,
    ← List.countP_eq_length_filter]
  rfl

theorem le_of_mem_expiring (h : due ∈ q.expiring now) : due ≤ now := by
  obtain ⟨d, hd, rfl⟩ := List.mem_map.1 h
  have hdue := List.mem_takeWhile_imp (List.mem_filter.1 hd).1
  simpa using hdue

/-- A timer that is delayed gets ready, or stays delayed. -/
theorem mem_expiring_or_mem_delayed (hd : d ∈ q.delayed) (htask : d.task = .lockoutExpired) (now : Int) :
    d.due ∈ q.expiring now ∨ d ∈ (q.promote now).delayed := by
  rw [← dueAt_append q now, List.mem_append] at hd
  refine hd.imp_left fun hdue => ?_
  exact List.mem_map_of_mem (List.mem_filter.2 ⟨hdue, Task.isExpiry_iff.2 htask⟩)

theorem mem_delayed_of_postDelayed (h : d ∈ q.delayed) (now delay : Int) (task : Task κ) :
    d ∈ (q.postDelayed now delay task).2.delayed := by
  rw [postDelayed]
  split
  · exact h
  · exact mem_insert.2 (.inr h)

variable {moment moment' : TaskQueue (Task κ) × Int}

/-- Others take no timer off the queue. -/
theorem Spares.mem_delayed (h : Spares moment moment') (hd : d ∈ moment.1.delayed)
    (htask : d.task = .lockoutExpired) : d ∈ moment'.1.delayed := by
  cases h with
  | advanced | marked => exact hd
  | posted => rwa [delayed_post]
  | delayed => exact mem_delayed_of_postDelayed hd _ _ _
  | canceled hspared =>
    rw [cancel]
    split
    · exact hd
    · refine List.mem_filter.2 ⟨hd, ?_⟩
      have hid : ¬d.id = _ := fun hid => hspared d hd hid htask
      simp [hid]

/-- Others make no timer ready. -/
theorem Spares.countP_ready (h : Spares moment moment') :
    moment'.1.ready.countP (·.isExpiry) = moment.1.ready.countP (·.isExpiry) := by
  cases h with
  | advanced | marked => rfl
  | posted htask =>
    rw [post]
    split
    · rfl
    · simp [Task.isExpiry_eq_false htask]
  | delayed => rw [ready_postDelayed]
  | canceled => rw [ready_cancel]

end TaskQueue

namespace Lockout

/-! ## What happens to a lockout -/

/-- The system, how many failures were counted so far, and the due times of the timers that are
    ready, first that of the one that runs first. -/
structure Tally (ω κ : Type) where
  failures : Nat
  overdue : List Int
  system : System ω κ

/-- At first, no failure is counted. The queue is not stopped, and has no timer on it. -/
structure Tally.Fresh (a : Tally ω κ) : Prop where
  failures : a.failures = 0
  overdue : a.overdue = []
  lockout : a.system.lockout = {}
  accepting : a.system.queue.stopping = false
  inOrder : a.system.queue.InOrder
  timers : a.system.queue.timers = 0

/-- What can happen at one go. Tasks are taken off the queue, the timers among them, and what a
    task does that was taken happens after that. -/
inductive Happens (host : Host ω κ) : Tally ω κ → Tally ω κ → Prop
  | failed {n : Nat} {overdue : List Int} {s : System ω κ} :
      Happens host ⟨n, overdue, s⟩ ⟨n + 1, overdue, (host.recordFailure.run s).2⟩
  | succeeded {n : Nat} {overdue : List Int} {s : System ω κ} :
      Happens host ⟨n, overdue, s⟩ ⟨n, overdue, ((Host.recordSuccess : Op ω κ Unit).run s).2⟩
  /-- Others use the queue, time goes by, or something else is done that leaves the lockout as it
      is. -/
  | aside {n : Nat} {overdue : List Int} {s s' : System ω κ} (hlockout : s'.lockout = s.lockout)
      (hmoment : TaskQueue.Spares s.moment s'.moment) : Happens host ⟨n, overdue, s⟩ ⟨n, overdue, s'⟩
  | taken {n : Nat} {overdue : List Int} {s : System ω κ} {task : Task κ} {queue : TaskQueue (Task κ)}
      (htask : task ≠ .lockoutExpired) (hpop : s.queue.pop s.clock = (some task, queue)) :
      Happens host ⟨n, overdue, s⟩ ⟨n, overdue ++ s.queue.expiring s.clock, { s with queue }⟩
  | expired {n : Nat} {overdue : List Int} {s : System ω κ} {queue : TaskQueue (Task κ)}
      (hpop : s.queue.pop s.clock = (some .lockoutExpired, queue)) :
      Happens host ⟨n, overdue, s⟩
        ⟨n, (overdue ++ s.queue.expiring s.clock).tail, host.engine.run .lockoutExpired { s with queue }⟩
  | drained {n : Nat} {overdue : List Int} {s : System ω κ} {queue : TaskQueue (Task κ)}
      (hpop : s.queue.pop s.clock = (none, queue)) :
      Happens host ⟨n, overdue, s⟩ ⟨n, overdue ++ s.queue.expiring s.clock, { s with queue }⟩

/-- What can happen step by step. -/
abbrev Runs (host : Host ω κ) : Tally ω κ → Tally ω κ → Prop := Relation.ReflTransGen (Happens host)

/-- From one state to another, no failure is counted. -/
def Forbears (host : Host ω κ) (s s' : System ω κ) : Prop :=
  ∀ n overdue, ∃ overdue', Runs host ⟨n, overdue, s⟩ ⟨n, overdue', s'⟩

/-- A timer waits that is due at a time: it is ready, or delayed until then. -/
def Awaits (a : Tally ω κ) (due : Int) : Prop :=
  due ∈ a.overdue ∨ ∃ d ∈ a.system.queue.delayed, d.task = .lockoutExpired ∧ d.due = due

/-- While authentication is locked, the timer waits that ends the lockout. -/
structure Sustained (host : Host ω κ) (a : Tally ω κ) : Prop where
  accepting : a.system.queue.stopping = false
  inOrder : a.system.queue.InOrder
  counted : a.system.lockout.failed.toNat ≤ a.failures
  /-- A due time is kept for each timer that is ready. -/
  overdue : a.overdue.length = a.system.queue.ready.countP (·.isExpiry)
  late : ∀ due ∈ a.overdue, due ≤ a.system.clock
  lockedUntil : a.system.lockout.lockedUntil.isSome ↔ host.Locked a.system
  awaited : ∀ due, a.system.lockout.lockedUntil = some due → Awaits a due

variable {a b c : Tally ω κ} {n : Nat} {overdue : List Int} {s s' : System ω κ}
  {queue : TaskQueue (Task κ)} {due : Int}

theorem Tally.Fresh.sustained (h : a.Fresh) (host : Host ω κ) : Sustained host a where
  accepting := h.accepting
  inOrder := h.inOrder
  counted := by
    rw [h.lockout]
    exact Nat.zero_le _
  overdue := by
    rw [h.overdue]
    exact (Nat.add_eq_zero_iff.1 h.timers).1.symm
  late := by
    rw [h.overdue]
    exact fun _ hdue => absurd hdue List.not_mem_nil
  lockedUntil := by
    rw [Host.Locked, h.lockout]
    simp [isLocked]
  awaited due huntil := by
    rw [h.lockout] at huntil
    cases huntil

theorem Happens.failures_le (h : Happens host a b) : a.failures ≤ b.failures := by
  cases h with
  | failed => exact Nat.le_succ _
  | succeeded | aside | taken | expired | drained => exact Nat.le_refl _

theorem Runs.failures_le (h : Runs host a b) : a.failures ≤ b.failures := by
  induction h with
  | refl => exact Nat.le_refl _
  | tail _ hstep ih => exact Nat.le_trans ih hstep.failures_le

/-! ## What each step keeps -/

theorem failed_run_recordFailure (host : Host ω κ) (s : System ω κ) :
    (host.recordFailure.run s).2.lockout.failed = s.lockout.failed + 1 := by
  rw [← failed_recordFailure s.lockout host.setup.lockout s.clock (.lockoutExpired : Task κ) s.queue]
  rcases hcount : s.lockout.recordFailure _ _ _ _ with ⟨result, lockout, queue⟩
  obtain ⟨world, hrun⟩ := run_recordFailure host s hcount
  rw [hrun]

namespace Sustained

/-- A change of the queue and the clock that leaves the timers as they are. -/
theorem aside (h : Sustained host ⟨n, overdue, s⟩) (hlockout : s'.lockout = s.lockout)
    (hmoment : TaskQueue.Spares s.moment s'.moment) : Sustained host ⟨n, overdue, s'⟩ where
  accepting := hmoment.sameTimers.stopping.trans h.accepting
  inOrder := hmoment.sameTimers.inOrder h.inOrder
  counted := by
    dsimp only
    rw [hlockout]
    exact h.counted
  overdue := h.overdue.trans hmoment.countP_ready.symm
  late due hdue := Int.le_trans (h.late due hdue) hmoment.clock_le
  lockedUntil := by
    dsimp only
    rw [Host.Locked, hlockout]
    exact h.lockedUntil
  awaited due huntil := by
    rw [hlockout] at huntil
    refine (h.awaited due huntil).imp_right fun ⟨d, hd, htask, hdue⟩ => ?_
    exact ⟨d, hmoment.mem_delayed hd htask, htask, hdue⟩

/-- Timers may get ready. -/
theorem promote (h : Sustained host ⟨n, overdue, s⟩) :
    Sustained host ⟨n, overdue ++ s.queue.expiring s.clock, { s with queue := s.queue.promote s.clock }⟩ where
  accepting := h.accepting
  inOrder := h.inOrder.promote s.clock
  counted := h.counted
  overdue := by
    dsimp only
    rw [TaskQueue.length_expiring, List.length_append, h.overdue]
  late due hdue := (List.mem_append.1 hdue).elim (h.late due) TaskQueue.le_of_mem_expiring
  lockedUntil := h.lockedUntil
  awaited due huntil := by
    rcases h.awaited due huntil with hready | ⟨d, hd, htask, rfl⟩
    · exact .inl (List.mem_append_left _ hready)
    · refine (TaskQueue.mem_expiring_or_mem_delayed hd htask s.clock).imp ?_ ?_
      · exact List.mem_append_right _
      · exact fun hlater => ⟨d, hlater, htask, rfl⟩

theorem taken (h : Sustained host ⟨n, overdue, s⟩) {task : Task κ} (htask : task ≠ .lockoutExpired)
    (hpop : s.queue.pop s.clock = (some task, queue)) :
    Sustained host ⟨n, overdue ++ s.queue.expiring s.clock, { s with queue }⟩ := by
  obtain ⟨hready, hqueue⟩ := TaskQueue.pop_eq_some hpop
  obtain ⟨haccepting, hinOrder, hcounted, hoverdue, hlate, huntil, hawaited⟩ := h.promote
  rw [hready, List.countP_cons_of_neg (by simp [Task.isExpiry_eq_false htask])] at hoverdue
  rw [hqueue]
  exact ⟨haccepting, hinOrder, hcounted, hoverdue, hlate, huntil, hawaited⟩

theorem expired (h : Sustained host ⟨n, overdue, s⟩)
    (hpop : s.queue.pop s.clock = (some .lockoutExpired, queue)) :
    Sustained host
      ⟨n, (overdue ++ s.queue.expiring s.clock).tail, host.engine.run .lockoutExpired { s with queue }⟩ := by
  obtain ⟨hready, hqueue⟩ := TaskQueue.pop_eq_some hpop
  obtain ⟨haccepting, hinOrder, -, hoverdue, hlate, -, -⟩ := h.promote
  rw [hready, List.countP_cons_of_pos (by rfl)] at hoverdue
  obtain ⟨world, hrun⟩ := run_expiry host { s with queue }
  rw [hrun]
  refine ⟨?_, ?_, Nat.zero_le _, ?_, fun due hdue => hlate due (List.mem_of_mem_tail hdue), ?_, nofun⟩
  · rw [hqueue]
    exact haccepting
  · rw [hqueue]
    exact hinOrder
  · rw [List.length_tail, hoverdue, Nat.add_sub_cancel]
  · simp [Host.Locked, isLocked]

theorem succeeded (h : Sustained host ⟨n, overdue, s⟩) :
    Sustained host ⟨n, overdue, ((Host.recordSuccess : Op ω κ Unit).run s).2⟩ where
  accepting := h.accepting
  inOrder := h.inOrder
  counted := Nat.zero_le _
  overdue := h.overdue
  late := h.late
  lockedUntil := by
    have hunlocked : s.lockout.recordSuccess.isLocked host.setup.lockout = false := by
      simp [isLocked, recordSuccess]
    exact iff_of_false Bool.false_ne_true (Bool.eq_false_iff.1 hunlocked)
  awaited := nofun

/-- As long as there are not too many of them, failures are all counted. -/
theorem failed_toNat (h : Sustained host a) (hn : a.failures + 1 < UInt32.size) :
    (a.system.lockout.failed + 1).toNat = a.system.lockout.failed.toNat + 1 := by
  have hroom : a.system.lockout.failed.toNat + 1 < UInt32.size := Nat.lt_of_le_of_lt (Nat.succ_le_succ h.counted) hn
  rw [UInt32.toNat_add, UInt32.toNat_one]
  exact Nat.mod_eq_of_lt hroom

/-- Beyond the limit, each failure starts a timer for the lockout that it enters or lengthens. -/
theorem failed (h : Sustained host ⟨n, overdue, s⟩) (hn : n + 1 < UInt32.size)
    (hduration : 0 ≤ host.setup.lockout.duration) :
    Sustained host ⟨n + 1, overdue, (host.recordFailure.run s).2⟩ := by
  have hfailed := h.failed_toNat hn
  have hcounted := h.counted
  dsimp only at hfailed hcounted
  by_cases hlimit : host.setup.lockout.maxFailedAttempts < s.lockout.failed + 1
  · have hentered := (recordFailure_of_lt hlimit).2
    have hcancel : (s.lockout.cancelTimer s.queue).stopping = false :=
      (stopping_cancelTimer _ _).trans h.accepting
    refine ⟨?_, hentered.inOrder h.inOrder, ?_, ?_, ?_, ?_, fun due hdue => .inr ?_⟩
    · dsimp only
      rw [hentered.queue, TaskQueue.stopping_postDelayed]
      exact hcancel
    · dsimp only
      rw [failed_run_recordFailure]
      omega
    · dsimp only
      rw [hentered.ready]
      exact h.overdue
    · dsimp only
      rw [hentered.clock]
      exact h.late
    · dsimp only
      rw [hentered.lockedUntil]
      exact iff_of_true rfl hentered.locked
    · -- The timer that is started now is the one that is awaited, whatever became of older ones.
      dsimp only at hdue ⊢
      rw [hentered.lockedUntil, Option.some_inj] at hdue
      rw [hentered.queue, TaskQueue.postDelayed, if_neg (by simp [hcancel])]
      refine ⟨_, TaskQueue.mem_insert.2 (.inl rfl), rfl, ?_⟩
      rw [← hdue]
      exact congrArg (s.clock + ·) (Int.max_eq_left hduration)
  · obtain ⟨-, world, hrun⟩ := recordFailure_of_not_lt hlimit
    -- Authentication was not locked before, either.
    have hunlocked : ¬host.Locked s := by
      simp only [Host.Locked, isLocked, decide_eq_true_eq]
      rw [UInt32.lt_iff_toNat_lt] at hlimit ⊢
      omega
    have hnone : ¬s.lockout.lockedUntil.isSome := fun hsome => hunlocked (h.lockedUntil.1 hsome)
    rw [hrun]
    refine ⟨h.accepting, h.inOrder, ?_, h.overdue, h.late, iff_of_false hnone ?_, h.awaited⟩
    · dsimp only
      omega
    · simpa [Host.Locked, isLocked] using hlimit

end Sustained

/-- Whatever happens, the timer is kept that ends the lockout. -/
theorem Happens.sustained (hstep : Happens host a b) (h : Sustained host a) (hn : b.failures < UInt32.size)
    (hduration : 0 ≤ host.setup.lockout.duration) : Sustained host b := by
  cases hstep with
  | failed => exact h.failed hn hduration
  | succeeded => exact h.succeeded
  | aside hlockout hmoment => exact h.aside hlockout hmoment
  | taken htask hpop => exact h.taken htask hpop
  | expired hpop => exact h.expired hpop
  | drained hpop =>
    obtain ⟨-, rfl⟩ := TaskQueue.pop_eq_none hpop
    exact h.promote

theorem Runs.sustained (hruns : Runs host a b) (h : Sustained host a) (hn : b.failures < UInt32.size)
    (hduration : 0 ≤ host.setup.lockout.duration) : Sustained host b := by
  induction hruns with
  | refl => exact h
  | tail _ hstep ih => exact hstep.sustained (ih (Nat.lt_of_le_of_lt hstep.failures_le hn)) hn hduration

/-! ## Drains -/

/-- As long as no failure is counted, a lockout stays as it is, until it is ended. -/
theorem Happens.same_or_open (h : Happens host a b) (hsame : b.failures = a.failures) :
    b.system.lockout = a.system.lockout ∨ b.system.lockout.failed = 0 := by
  cases h with
  | failed => exact absurd hsame (Nat.succ_ne_self _)
  | aside hlockout => exact .inl hlockout
  | taken | drained => exact .inl rfl
  | succeeded | expired => exact .inr rfl

theorem Runs.same_or_open (h : Runs host a b) (hsame : b.failures = a.failures) :
    b.system.lockout = a.system.lockout ∨ b.system.lockout.failed = 0 := by
  induction h with
  | refl => exact .inl rfl
  | @tail b c hruns hstep ih =>
    have hbefore := Runs.failures_le hruns
    have hafter := hstep.failures_le
    have ih := ih (by omega)
    rcases hstep.same_or_open (by omega) with hlockout | hopen
    · rwa [hlockout]
    · exact .inr hopen

/-- A timer that is due waits nowhere once there is nothing left to run. -/
theorem Sustained.not_awaits (h : Sustained host a) (hdue : due ≤ a.system.clock)
    (hidle : (a.system.queue.promote a.system.clock).ready = []) : ¬Awaits a due := by
  rintro (hoverdue | ⟨d, hd, htask, rfl⟩)
  · have hlength := h.overdue
    rw [TaskQueue.ready_promote] at hidle
    rw [(List.append_eq_nil_iff.1 hidle).1] at hlength
    rw [List.length_eq_zero_iff.1 hlength] at hoverdue
    cases hoverdue
  · have hmem := (TaskQueue.mem_ready_promote h.inOrder).2 (.inr ⟨d, hd, hdue, htask⟩)
    rw [hidle] at hmem
    cases hmem

/-- Authentication is not locked, and no failure is held against anybody. -/
structure Over (host : Host ω κ) (s : System ω κ) : Prop where
  unlocked : ¬host.Locked s
  failed : s.lockout.failed = 0
  lockedUntil : s.lockout.lockedUntil = none

/-- Where all was run that is due, no lockout is left from before that was to end by now. -/
theorem Sustained.over (h : Sustained host b) (hruns : Runs host a b) (hsame : b.failures = a.failures)
    (huntil : a.system.lockout.lockedUntil = some due) (hdue : due ≤ b.system.clock)
    (hidle : (b.system.queue.promote b.system.clock).ready = []) : Over host b.system := by
  rcases hruns.same_or_open hsame with hlockout | hopen
  · rw [← hlockout] at huntil
    exact absurd (h.awaited due huntil) (h.not_awaits hdue hidle)
  · have hunlocked : ¬host.Locked b.system := by
      rw [Host.Locked, isLocked, hopen]
      simp
    refine ⟨hunlocked, hopen, Option.not_isSome_iff_eq_none.1 fun hsome => ?_⟩
    exact hunlocked (h.lockedUntil.1 hsome)

theorem runs_mark (host : Host ω κ) (n : Nat) (overdue : List Int) (s : System ω κ) (thread : Option Thread) :
    Runs host ⟨n, overdue, s⟩ ⟨n, overdue, host.engine.mark thread s⟩ :=
  .single (.aside rfl (.marked s.queue.started thread))

/-- A drain goes step by step, and counts no failure if none of its tasks does. -/
theorem runs_runPending {room : Nat} {s : System ω κ}
    (htasks : ∀ x ∈ host.engine.begun room s, x.1 ≠ .lockoutExpired → Forbears host x.2 (host.engine.run x.1 x.2)) :
    Forbears host s (host.engine.runPending room s).2 := by
  induction room generalizing s with
  | zero => exact fun n overdue => ⟨overdue, .refl⟩
  | succ room ih =>
    intro n overdue
    cases hstopping : s.queue.stopping with
    | true =>
      rw [Host.runPending_of_stopping hstopping]
      exact ⟨overdue, .refl⟩
    | false =>
      rcases hpop : s.queue.pop s.clock with ⟨_ | task, queue⟩
      · rw [Host.runPending_of_none hstopping hpop]
        exact ⟨_, .single (.drained hpop)⟩
      · rw [Host.runPending_of_some hstopping hpop]
        have hbegun : host.engine.begun (room + 1) s =
            (task, Host.taken s queue) :: host.engine.begun room (host.turn { s with queue } task) := by
          rw [Engine.begun, if_neg (by simp [Host.engine, hstopping]),
            show (host.engine.queue s).pop (host.engine.now s) = (some task, queue) from hpop]
          rfl
        rw [hbegun, List.forall_mem_cons] at htasks
        -- The thread may as well be marked before the task is taken.
        have hmarked := runs_mark host n overdue s (some s.thread)
        have hnext : ∃ overdue', Runs host ⟨n, overdue, host.engine.mark (some s.thread) s⟩
            ⟨n, overdue', host.engine.run task (Host.taken s queue)⟩ := by
          by_cases htask : task = .lockoutExpired
          · subst htask
            exact ⟨_, .single (.expired (TaskQueue.pop_mark (some s.thread) hpop))⟩
          · obtain ⟨overdue', hrun⟩ := htasks.1 htask n _
            exact ⟨overdue', .head (.taken htask (TaskQueue.pop_mark (some s.thread) hpop)) hrun⟩
        obtain ⟨overdue', hnext⟩ := hnext
        obtain ⟨rest, hrest⟩ := ih htasks.2 n overdue'
        exact ⟨rest, ((hmarked.trans hnext).trans (runs_mark host n overdue' _ none)).trans hrest⟩

/-- A drain that had room for more tasks has left none that is due. -/
theorem ready_promote_of_runPending {room : Nat} (hroom : (host.engine.runPending room s).1 < room)
    (haccepting : (host.engine.runPending room s).2.queue.stopping = false) :
    let drained := (host.engine.runPending room s).2
    (drained.queue.promote drained.clock).ready = [] := by
  induction room generalizing s with
  | zero => exact absurd hroom (Nat.not_lt_zero _)
  | succ room ih =>
    cases hstopping : s.queue.stopping with
    | true =>
      rw [Host.runPending_of_stopping hstopping, hstopping] at haccepting
      cases haccepting
    | false =>
      rcases hpop : s.queue.pop s.clock with ⟨_ | task, queue⟩
      · rw [Host.runPending_of_none hstopping hpop]
        exact TaskQueue.ready_promote_of_pop hpop
      · rw [Host.runPending_of_some hstopping hpop] at hroom haccepting ⊢
        exact ih (Nat.lt_of_succ_lt_succ hroom) haccepting

/-- Whatever happens, as long as the timers are left to the lockout, and the counter is not
    exhausted: the lockout is said to last until some time exactly while authentication is locked,
    and a timer then waits that is due at that time. So once that has come, and all was run that is
    due, the lockout is over, and no failure is held against anybody, unless another one was
    counted meanwhile; a drain does so. -/
theorem Runs.wears_off (h : Runs host a b) (ha : a.Fresh) (hn : b.failures < UInt32.size)
    (hduration : 0 ≤ host.setup.lockout.duration) :
    b.overdue.length = b.system.queue.ready.countP (·.isExpiry) ∧
    (b.system.lockout.lockedUntil.isSome ↔
      host.setup.lockout.maxFailedAttempts < b.system.lockout.failed) ∧
    (host.Locked b.system → ∃ due, b.system.lockout.lockedUntil = some due ∧ Awaits b due ∧
      (∀ c, Runs host b c → c.failures = b.failures → due ≤ c.system.clock →
        (c.system.queue.promote c.system.clock).ready = [] → Over host c.system) ∧
      ∀ room,
        (∀ x ∈ host.engine.begun room b.system, x.1 ≠ .lockoutExpired →
          Forbears host x.2 (host.engine.run x.1 x.2)) →
        let (count, drained) := host.engine.runPending room b.system
        count < room → due ≤ drained.clock → Over host drained) := by
  have hsustained := h.sustained (ha.sustained host) hn hduration
  refine ⟨hsustained.overdue, ?_, fun hlocked => ?_⟩
  · exact hsustained.lockedUntil.trans decide_eq_true_iff
  · obtain ⟨due, huntil⟩ := Option.isSome_iff_exists.1 (hsustained.lockedUntil.2 hlocked)
    have hlater (c : Tally ω κ) (hruns : Runs host b c) (hsame : c.failures = b.failures) :
        Sustained host c := hruns.sustained hsustained (hsame ▸ hn) hduration
    refine ⟨due, huntil, hsustained.awaited due huntil, fun c hruns hsame hdue hidle => ?_,
      fun room htasks hroom hdue => ?_⟩
    · exact (hlater c hruns hsame).over hruns hsame huntil hdue hidle
    · obtain ⟨overdue, hruns⟩ := runs_runPending htasks b.failures b.overdue
      have hdrained := hlater _ hruns rfl
      exact hdrained.over hruns rfl huntil hdue (ready_promote_of_runPending hroom hdrained.accepting)

/-- No failure is tolerated. The timer of a first one is ready behind a task that counts another
    one, so that it ends the lockout that it does not belong to, and forgets the timer that does. A
    third failure starts one more. Both run out at the same time. -/
theorem Runs.wears_off_of_stale_timer :
    let host : Host Unit Empty :=
      { setup := { lockout := ⟨0, 10⟩ }, answer := fun _ => throw (.plain "gone"), observe := fun _ _ => (),
        client := nofun, patience := 9 }
    let late : System Unit Empty :=
      { clock := 20
        queue :=
          { delayed := [⟨20, 2, .lockoutExpired⟩, ⟨20, 3, .lockoutExpired⟩], dueTimes := [(3, 20), (2, 20)],
            nextId := 4 }
        lockout := ⟨1, some 20, 3⟩
        world := () }
    (∃ a : Tally Unit Empty, a.Fresh ∧ Runs host a ⟨3, [], late⟩) ∧ host.Locked late ∧
      late.lockout.lockedUntil = some 20 ∧ Awaits ⟨3, [], late⟩ 20 ∧
      Over host (host.engine.runPending 9 late).2 := by
  intro host late
  let posted : System Unit Empty :=
    { queue :=
        { ready := [.rename 0 0 []], delayed := [⟨10, 1, .lockoutExpired⟩], dueTimes := [(1, 10)], nextId := 2 }
      lockout := ⟨1, some 10, 1⟩
      world := () }
  let second : System Unit Empty :=
    { clock := 10
      queue :=
        { ready := [.lockoutExpired], delayed := [⟨20, 2, .lockoutExpired⟩], dueTimes := [(2, 20)], nextId := 3 }
      lockout := ⟨2, some 20, 2⟩
      world := () }
  have hstart : Tally.Fresh (⟨0, [], { world := () }⟩ : Tally Unit Empty) := ⟨rfl, rfl, rfl, rfl, .nil, rfl⟩
  have hposted : Runs host ⟨0, [], { world := () }⟩ ⟨1, [], posted⟩ :=
    .tail (.single .failed) (.aside rfl (.posted (by decide)))
  have hdue : Runs host ⟨0, [], { world := () }⟩ ⟨1, [], { posted with clock := 10 }⟩ :=
    hposted.tail (.aside rfl (.advanced (by decide)))
  have hrenamed : Task.rename 0 0 [] ≠ (.lockoutExpired : Task Empty) := by decide
  have hsecond : Runs host ⟨0, [], { world := () }⟩ ⟨2, [10], second⟩ :=
    (hdue.tail (.taken hrenamed rfl)).tail .failed
  have hthird : Runs host ⟨0, [], { world := () }⟩ ⟨3, [], { late with clock := 10 }⟩ :=
    (hsecond.tail (.expired rfl)).tail .failed
  have hlate : Runs host ⟨0, [], { world := () }⟩ ⟨3, [], late⟩ :=
    hthird.tail (.aside rfl (.advanced (by decide)))
  have hlocked : host.Locked late := rfl
  obtain ⟨-, -, hover⟩ := hlate.wears_off hstart (by decide) (by decide)
  obtain ⟨time, huntil, hawaits, -, hdrain⟩ := hover hlocked
  obtain rfl : 20 = time := Option.some.inj huntil
  -- The drain runs nothing but the timers.
  have honly : (host.engine.begun 9 late).all (·.1.isExpiry) := by decide
  refine ⟨⟨_, hstart, hlate⟩, hlocked, huntil, hawaits, ?_⟩
  refine hdrain 9 (fun x hx hne => ?_) (by decide) (by decide)
  exact absurd (Task.isExpiry_iff.1 (List.all_eq_true.1 honly x hx)) hne

end Lockout

end Fingerprint
