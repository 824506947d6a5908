import Mathlib.Logic.Relation
import Fingerprint.Lockout
import Fingerprint.Proofs.Queue
import Fingerprint.System

/-!
# The timer of a lockout on the queue

While authentication is locked, one timer waits for the end of the lockout,
and else there is none. That is so if a failure is counted only while
authentication is not locked, and if the timer is left to the lockout by all
the others who use the queue.

* `TaskQueue.Spares`: what the others do with the queue, and with the clock;
* `TaskQueue.Armed`: the one timer that waits;
* `Lockout.Guarded`: a lockout has its timer, which all that can happen to the
  queue keeps so.
-/

namespace Fingerprint

variable {κ : Type}

/-- Whether a task ends a lockout. -/
def Task.isExpiry : Task κ → Bool
  | lockoutExpired => true
  | _ => false

theorem Task.isExpiry_iff {task : Task κ} : task.isExpiry ↔ task = .lockoutExpired := by
  cases task <;> simp [isExpiry]

theorem Task.isExpiry_eq_false {task : Task κ} (h : task ≠ .lockoutExpired) :
    task.isExpiry = false := by
  rwa [Bool.eq_false_iff, Ne, isExpiry_iff]

namespace TaskQueue

variable {q q' : TaskQueue (Task κ)} {now due : Int} {task : Task κ}

/-! ## Timers -/

/-- How many timers of lockouts wait, delayed or ready. -/
def timers (q : TaskQueue (Task κ)) : Nat :=
  q.ready.countP (·.isExpiry) + q.delayed.countP (·.task.isExpiry)

theorem timers_eq_zero_iff : q.timers = 0 ↔
    .lockoutExpired ∉ q.ready ∧ ∀ d ∈ q.delayed, d.task ≠ .lockoutExpired := by
  simp only [timers, Nat.add_eq_zero_iff, List.countP_eq_zero, Task.isExpiry_iff]
  exact and_congr_left' ⟨fun h hmem => h _ hmem rfl, fun h task htask heq => h (heq ▸ htask)⟩

theorem timers_promote (q : TaskQueue (Task κ)) (now : Int) : (q.promote now).timers = q.timers := by
  have hdelayed := congrArg (List.countP (·.task.isExpiry)) (dueAt_append q now)
  rw [List.countP_append] at hdelayed
  rw [timers, ready_promote, List.countP_append, List.countP_map, timers, ← hdelayed, Nat.add_assoc]
  rfl

/-- The timer that is taken off the queue is one less. -/
theorem timers_pop_some (h : q.pop now = (some task, q')) :
    q.timers = q'.timers + if task.isExpiry then 1 else 0 := by
  obtain ⟨hready, hq'⟩ := pop_eq_some h
  have hdelayed : q'.delayed = (q.promote now).delayed := by rw [hq']
  rw [← timers_promote q now, timers, hready, List.countP_cons, timers, hdelayed]
  omega

/-- A timer that is delayed is one more. -/
theorem timers_postDelayed (q : TaskQueue (Task κ)) (now delay : Int) (task : Task κ) :
    (q.postDelayed now delay task).2.timers =
      q.timers + if q.stopping || !task.isExpiry then 0 else 1 := by
  rw [postDelayed]
  split
  · next hstopping => simp [hstopping]
  · next hstopping =>
    rw [timers, (insert_perm q.delayed).countP_eq, List.countP_cons]
    cases task.isExpiry <;> simp [timers, hstopping, Nat.add_assoc]

/-- One timer waits. If it is delayed, it is due at a time, and if it is ready, that has come. -/
structure Armed (q : TaskQueue (Task κ)) (now due : Int) : Prop where
  alone : q.timers = 1
  delayed : ∀ d ∈ q.delayed, d.task = .lockoutExpired → d.due = due
  ready : .lockoutExpired ∈ q.ready → due ≤ now

/-- Once the due time has come, the timer is among the tasks that are made ready. -/
theorem Armed.mem_ready_promote (h : q.Armed now due) (horder : q.InOrder) (hdue : due ≤ now) :
    .lockoutExpired ∈ (q.promote now).ready := by
  rw [TaskQueue.mem_ready_promote horder]
  refine Classical.byContradiction fun hnone => ?_
  have hzero : q.timers = 0 := by
    refine timers_eq_zero_iff.2 ⟨fun hready => hnone (.inl hready), fun d hd htask => hnone (.inr ?_)⟩
    exact ⟨d, hd, by rwa [h.delayed d hd htask], htask⟩
  exact absurd (hzero.symm.trans h.alone) (by decide)

theorem Armed.promote (h : q.Armed now due) (horder : q.InOrder) :
    (q.promote now).Armed now due where
  alone := (timers_promote q now).trans h.alone
  delayed d hd := h.delayed d (delayed_promote_sublist.subset hd)
  ready hready := by
    rcases (TaskQueue.mem_ready_promote horder).1 hready with hready | ⟨d, hd, hdue, htask⟩
    · exact h.ready hready
    · rwa [← h.delayed d hd htask]

/-! ## The others -/

/-- What those do who leave the timer to the lockout, with a queue that is not stopped and with
    the clock: they neither post nor cancel a timer. -/
inductive Spares : TaskQueue (Task κ) × Int → TaskQueue (Task κ) × Int → Prop
  | advanced {q : TaskQueue (Task κ)} {now later : Int} (h : now ≤ later) : Spares (q, now) (q, later)
  | posted {q : TaskQueue (Task κ)} {now : Int} {task : Task κ} (h : task ≠ .lockoutExpired) :
      Spares (q, now) (q.post task, now)
  | delayed {q : TaskQueue (Task κ)} {now delay : Int} {task : Task κ} (h : task ≠ .lockoutExpired) :
      Spares (q, now) ((q.postDelayed now delay task).2, now)
  | canceled {q : TaskQueue (Task κ)} {now : Int} {id : Nat}
      (h : ∀ d ∈ q.delayed, d.id = id → d.task ≠ .lockoutExpired) :
      Spares (q, now) ((q.cancel id).2, now)
  | marked {q : TaskQueue (Task κ)} {now : Int} (started : Bool) (executing : Option Thread) :
      Spares (q, now) ({ q with started, executing }, now)

/-- What they do, one after the other. -/
abbrev Sparing : TaskQueue (Task κ) × Int → TaskQueue (Task κ) × Int → Prop :=
  Relation.ReflTransGen Spares

variable {moment moment' : TaskQueue (Task κ) × Int}

theorem Spares.clock_le (h : Spares moment moment') : moment.2 ≤ moment'.2 := by
  cases h with
  | advanced h => exact h
  | posted | delayed | canceled | marked => exact Int.le_refl _

theorem Sparing.clock_le (h : Sparing moment moment') : moment.2 ≤ moment'.2 := by
  induction h with
  | refl => exact Int.le_refl _
  | tail _ hstep ih => exact Int.le_trans ih hstep.clock_le

/-- What is ready stays so, in front of what gets ready. -/
theorem Spares.ready (h : Spares moment moment') :
    ∃ more, moment'.1.ready = moment.1.ready ++ more := by
  cases h with
  | posted =>
    rw [post]
    split
    · exact ⟨[], (List.append_nil _).symm⟩
    · exact ⟨_, rfl⟩
  | delayed => exact ⟨[], by rw [ready_postDelayed, List.append_nil]⟩
  | canceled => exact ⟨[], by rw [ready_cancel, List.append_nil]⟩
  | advanced | marked => exact ⟨[], (List.append_nil _).symm⟩

theorem Sparing.ready (h : Sparing moment moment') :
    ∃ more, moment'.1.ready = moment.1.ready ++ more := by
  induction h with
  | refl => exact ⟨[], (List.append_nil _).symm⟩
  | tail _ hstep ih =>
    obtain ⟨more, hmore⟩ := ih
    obtain ⟨last, hlast⟩ := hstep.ready
    exact ⟨more ++ last, by rw [hlast, hmore, List.append_assoc]⟩

/-- The timers are left as they are. -/
structure SameTimers (q q' : TaskQueue (Task κ)) : Prop where
  stopping : q'.stopping = q.stopping
  inOrder : q.InOrder → q'.InOrder
  timers : q'.timers = q.timers
  delayed : ∀ d ∈ q'.delayed, d.task = .lockoutExpired → d ∈ q.delayed
  ready : .lockoutExpired ∈ q'.ready → .lockoutExpired ∈ q.ready

theorem SameTimers.refl (q : TaskQueue (Task κ)) : SameTimers q q :=
  ⟨rfl, id, rfl, fun _ hd _ => hd, id⟩

theorem sameTimers_post (q : TaskQueue (Task κ)) (h : task ≠ .lockoutExpired) :
    SameTimers q (q.post task) := by
  rw [post]
  split
  · exact .refl q
  · refine ⟨rfl, id, ?_, fun _ hd _ => hd, fun hready => ?_⟩
    · simp [timers, Task.isExpiry_eq_false h]
    · exact (List.mem_append.1 hready).resolve_right fun hmem => h (List.mem_singleton.1 hmem).symm

theorem sameTimers_postDelayed (q : TaskQueue (Task κ)) (delay : Int) (h : task ≠ .lockoutExpired) :
    SameTimers q (q.postDelayed now delay task).2 where
  stopping := by
    rw [postDelayed]
    split <;> rfl
  inOrder := InOrder.postDelayed
  timers := by
    rw [timers_postDelayed, Task.isExpiry_eq_false h]
    simp
  delayed d hd htask := by
    rcases mem_delayed_postDelayed hd with hd | rfl
    · exact hd
    · exact absurd htask h
  ready := by
    rw [ready_postDelayed]
    exact id

theorem sameTimers_cancel {id : Nat} (h : ∀ d ∈ q.delayed, d.id = id → d.task ≠ .lockoutExpired) :
    SameTimers q (q.cancel id).2 where
  stopping := by
    rw [cancel]
    split <;> rfl
  inOrder := InOrder.cancel
  timers := by
    rw [cancel]
    split
    · rfl
    · rw [timers, timers, List.countP_filter]
      refine congrArg (_ + ·) (List.countP_congr fun d hd => ?_)
      -- Whatever is taken out is no timer.
      by_cases hid : d.id = id
      · simp [Task.isExpiry_eq_false (h d hd hid)]
      · simp [hid]
  delayed d hd _ := delayed_cancel_sublist.subset hd
  ready hready := by
    rwa [ready_cancel] at hready

theorem Spares.sameTimers (h : Spares moment moment') : SameTimers moment.1 moment'.1 := by
  cases h with
  | advanced => exact .refl _
  | posted h => exact sameTimers_post _ h
  | delayed h => exact sameTimers_postDelayed _ _ h
  | canceled h => exact sameTimers_cancel h
  | marked => exact ⟨rfl, id, rfl, fun _ hd _ => hd, id⟩

theorem SameTimers.armed (h : SameTimers q q') {later : Int} (hlater : now ≤ later)
    (harmed : q.Armed now due) : q'.Armed later due where
  alone := h.timers.trans harmed.alone
  delayed d hd htask := harmed.delayed d (h.delayed d hd htask) htask
  ready hready := Int.le_trans (harmed.ready (h.ready hready)) hlater

end TaskQueue

namespace Lockout

variable {settings : Settings} {lockout : Lockout} {q q' : TaskQueue (Task κ)} {now due : Int}

/-! ## Lockouts and their timers -/

/-- The one timer waits as long as authentication is locked, and no longer. -/
structure Guarded (settings : Settings) (lockout : Lockout) (q : TaskQueue (Task κ)) (now : Int) : Prop where
  accepting : q.stopping = false
  inOrder : q.InOrder
  bounded : lockout.failed.toNat ≤ settings.maxFailedAttempts.toNat + 1
  armed : lockout.isLocked settings → ∃ due, lockout.lockedUntil = some due ∧ q.Armed now due
  disarmed : lockout.isLocked settings = false →
    lockout.lockedUntil = none ∧ lockout.timer = 0 ∧ q.timers = 0

theorem isLocked_fresh (settings : Settings) : ({} : Lockout).isLocked settings = false := by
  simp [isLocked]

namespace Guarded

/-- At first, and once the timer has run out, none waits. -/
theorem fresh (accepting : q.stopping = false) (inOrder : q.InOrder) (htimers : q.timers = 0) :
    Guarded settings {} q now where
  accepting := accepting
  inOrder := inOrder
  bounded := Nat.zero_le _
  armed hlocked := by simp [isLocked_fresh] at hlocked
  disarmed _ := ⟨rfl, rfl, htimers⟩

theorem sameTimers (h : Guarded settings lockout q now) (hsame : TaskQueue.SameTimers q q')
    {later : Int} (hlater : now ≤ later) : Guarded settings lockout q' later where
  accepting := hsame.stopping.trans h.accepting
  inOrder := hsame.inOrder h.inOrder
  bounded := h.bounded
  armed hlocked := by
    obtain ⟨due, huntil, harmed⟩ := h.armed hlocked
    exact ⟨due, huntil, hsame.armed hlater harmed⟩
  disarmed hunlocked := by
    rw [hsame.timers]
    exact h.disarmed hunlocked

theorem sparing {moment moment' : TaskQueue (Task κ) × Int} (hsparing : TaskQueue.Sparing moment moment')
    (h : Guarded settings lockout moment.1 moment.2) :
    Guarded settings lockout moment'.1 moment'.2 := by
  induction hsparing with
  | refl => exact h
  | tail _ hstep ih => exact ih.sameTimers hstep.sameTimers hstep.clock_le

/-! ### Pops -/

theorem promote (h : Guarded settings lockout q now) : Guarded settings lockout (q.promote now) now where
  accepting := h.accepting
  inOrder := h.inOrder.promote now
  bounded := h.bounded
  armed hlocked := by
    obtain ⟨due, huntil, harmed⟩ := h.armed hlocked
    exact ⟨due, huntil, harmed.promote h.inOrder⟩
  disarmed hunlocked := by
    rw [TaskQueue.timers_promote]
    exact h.disarmed hunlocked

theorem drained (h : Guarded settings lockout q now) (hpop : q.pop now = (none, q')) :
    Guarded settings lockout q' now := by
  obtain ⟨-, rfl⟩ := TaskQueue.pop_eq_none hpop
  exact h.promote

/-- Any other task may be taken. -/
theorem taken (h : Guarded settings lockout q now) {task : Task κ} (htask : task ≠ .lockoutExpired)
    (hpop : q.pop now = (some task, q')) : Guarded settings lockout q' now := by
  obtain ⟨hready, hq'⟩ := TaskQueue.pop_eq_some hpop
  refine h.promote.sameTimers ?_ (Int.le_refl now)
  have htimers := TaskQueue.timers_pop_some hpop
  rw [Task.isExpiry_eq_false htask] at htimers
  refine ⟨by rw [hq'], fun horder => by rw [hq']; exact horder, ?_, fun d hd _ => ?_, fun hmem => ?_⟩
  · rw [TaskQueue.timers_promote]
    exact htimers.symm
  · rw [hq'] at hd
    exact hd
  · rw [hready]
    exact List.mem_cons_of_mem _ hmem

/-- The timer is taken only while authentication is locked, and not before the lockout is to
    end. -/
theorem expired (h : Guarded settings lockout q now) (hpop : q.pop now = (some .lockoutExpired, q')) :
    Guarded settings {} q' now ∧ lockout.isLocked settings ∧
      ∃ due, lockout.lockedUntil = some due ∧ due ≤ now := by
  obtain ⟨hready, hq'⟩ := TaskQueue.pop_eq_some hpop
  have htimers : q.timers = q'.timers + 1 := TaskQueue.timers_pop_some hpop
  have hlocked : lockout.isLocked settings := by
    refine Bool.of_not_eq_false fun hunlocked => ?_
    have := (h.disarmed hunlocked).2.2
    omega
  obtain ⟨due, huntil, harmed⟩ := h.promote.armed hlocked
  have halone : q.timers = 1 := (TaskQueue.timers_promote q now).symm.trans harmed.alone
  refine ⟨.fresh ?_ ?_ (by omega), hlocked, due, huntil, harmed.ready ?_⟩
  · rw [hq']
    exact h.accepting
  · rw [hq']
    exact h.inOrder.promote now
  · rw [hready]
    exact List.mem_cons_self

/-! ### Attempts -/

/-- Where none waits, the one that is started is the only one. -/
theorem armed_postDelayed (h : Guarded settings lockout q now)
    (hunlocked : lockout.isLocked settings = false) {delay : Int} (hdelay : 0 ≤ delay) :
    (q.postDelayed now delay .lockoutExpired).2.Armed now (now + delay) := by
  obtain ⟨hready, hdelayed⟩ := TaskQueue.timers_eq_zero_iff.1 (h.disarmed hunlocked).2.2
  refine ⟨?_, fun d hd htask => ?_, fun hmem => ?_⟩
  · rw [TaskQueue.timers_postDelayed, (h.disarmed hunlocked).2.2, h.accepting]
    rfl
  · rcases TaskQueue.mem_delayed_postDelayed hd with hd | rfl
    · exact absurd htask (hdelayed d hd)
    · exact congrArg (now + ·) (Int.max_eq_left hdelay)
  · rw [TaskQueue.ready_postDelayed] at hmem
    exact absurd hmem hready

/-- A failure that is counted while authentication is not locked may enter the lockout. -/
theorem recordFailure (h : Guarded settings lockout q now)
    (hunlocked : lockout.isLocked settings = false) (hduration : 0 ≤ settings.duration) :
    let counted := lockout.recordFailure settings now .lockoutExpired q
    Guarded settings counted.2.1 counted.2.2 now ∧
      (counted.2.1.isLocked settings → counted.2.1.lockedUntil = some (now + settings.duration)) := by
  obtain ⟨huntil, htimer, htimers⟩ := h.disarmed hunlocked
  have hbelow : lockout.failed.toNat ≤ settings.maxFailedAttempts.toNat := by
    rw [← UInt32.le_iff_toNat_le, ← UInt32.not_lt]
    simpa [isLocked] using hunlocked
  by_cases hlimit : settings.maxFailedAttempts < lockout.failed + 1
  · have hcancel : ({ lockout with failed := lockout.failed + 1 } : Lockout).cancelTimer q = q := by
      rw [cancelTimer, if_pos htimer]
    simp only [Lockout.recordFailure, isLocked, hlimit, decide_true, ↓reduceIte, hcancel]
    refine ⟨⟨?_, h.inOrder.postDelayed, ?_, fun _ => ⟨_, rfl, h.armed_postDelayed hunlocked hduration⟩,
      fun hnot => ?_⟩, fun _ => trivial⟩
    · rw [TaskQueue.postDelayed, if_neg (by simp [h.accepting])]
      exact h.accepting
    · have hsum := UInt32.toNat_add lockout.failed 1
      have hone := UInt32.toNat_one
      have hmod := Nat.mod_le (lockout.failed.toNat + UInt32.toNat 1) (2 ^ 32)
      dsimp only
      omega
    · simp [isLocked, hlimit] at hnot
  · simp only [Lockout.recordFailure, isLocked, hlimit, decide_false, Bool.false_eq_true, ↓reduceIte]
    refine ⟨⟨h.accepting, h.inOrder, ?_, fun hlocked => ?_, fun _ => ⟨huntil, htimer, htimers⟩⟩,
      fun hlocked => absurd hlocked (by simp)⟩
    · have hle : lockout.failed + 1 ≤ settings.maxFailedAttempts := UInt32.not_lt.1 hlimit
      exact Nat.le_succ_of_le (UInt32.le_iff_toNat_le.1 hle)
    · exact absurd (by simpa [isLocked] using hlocked) hlimit

theorem recordSuccess (h : Guarded settings lockout q now)
    (hunlocked : lockout.isLocked settings = false) :
    Guarded settings lockout.recordSuccess q now ∧
      lockout.recordSuccess.isLocked settings = false := by
  have hzero : lockout.recordSuccess.isLocked settings = false := isLocked_fresh settings
  refine ⟨⟨h.accepting, h.inOrder, Nat.zero_le _, fun hlocked => ?_, fun _ => ?_⟩, hzero⟩
  · rw [hzero] at hlocked
    cases hlocked
  · exact ⟨rfl, (h.disarmed hunlocked).2⟩

end Guarded

end Lockout

end Fingerprint
