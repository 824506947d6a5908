import Mathlib.Logic.Function.Basic
import Mathlib.Logic.Relation
import Fingerprint.Proofs.Queue

/-!
# Who executes the tasks of a queue

A queue has one mark, for the thread that executes its tasks. There may be many
who do: its own thread takes one task after the other, any thread may run what
is due, and tasks may run what is due themselves, while they are executed. So
who executes what is kept apart from the mark, on a floor, and with it how
often the mark was handed over, and to whom. Whatever is done under the lock of
the queue is one step, so that steps of all threads may come in any order.

A mark is good for one task only. Whoever runs what is due hands it over to
nobody at the end of each task, also if the thread is in the midst of another
one. So a task is marked as long as nothing has been handed over since it
began, and never again after that. The tasks that the queue's own thread takes
have one mark in common, which it brings along when it comes to work.

* `TaskQueue.Floor`, `TaskQueue.Floor.Step`: who executes what, and what can be done;
* `TaskQueue.Floor.Course`, `TaskQueue.Floor.Reached`: what is done step by step, in any order;
* `TaskQueue.Floor.Holds`: the mark has not been handed over;
* `TaskQueue.Floor.Kept`: what every step keeps (`TaskQueue.Floor.Step.kept`);
* `TaskQueue.Floor.Kept.runsOn_iff`, `TaskQueue.Floor.Kept.runsOn_eq_false`: who is marked;
* `TaskQueue.Floor.Course.holds_of_holds`: a mark that is lost does not come back.
-/

namespace Fingerprint

namespace TaskQueue

variable {τ : Type}

/-- A queue has the mark at the same place as another, and is started and stopped if that is. -/
structure SameState (q q' : TaskQueue τ) : Prop where
  executing : q'.executing = q.executing
  started : q'.started = q.started
  stopping : q'.stopping = q.stopping

section

variable (q : TaskQueue τ)

theorem sameState_post (task : τ) : q.SameState (q.post task) := by
  rw [TaskQueue.post]
  split <;> exact ⟨rfl, rfl, rfl⟩

theorem sameState_postDelayed (now delay : Int) (task : τ) : q.SameState (q.postDelayed now delay task).2 := by
  rw [TaskQueue.postDelayed]
  split <;> exact ⟨rfl, rfl, rfl⟩

theorem sameState_cancel (id : Nat) : q.SameState (q.cancel id).2 := by
  rw [TaskQueue.cancel]
  split <;> exact ⟨rfl, rfl, rfl⟩

theorem sameState_promote (now : Int) : q.SameState (q.promote now) := ⟨rfl, rfl, rfl⟩

theorem sameState_of_pop {q q' : TaskQueue τ} {now : Int} {task : τ} (h : q.pop now = (some task, q')) :
    q.SameState q' := by
  rw [(pop_eq_some h).2]
  exact ⟨rfl, rfl, rfl⟩

end

/-- The mark changes hands. -/
inductive Handover where
  /-- A thread that runs what is due begins a task. -/
  | began (thread : Thread)
  /-- A thread that runs what is due is done with a task. -/
  | ended (thread : Thread)
  /-- The queue's own thread comes to work. -/
  | arrived
  /-- The queue's own thread leaves. -/
  | left
  deriving DecidableEq, Repr

/-- Who has the mark then. -/
def Handover.holder : Handover → Option Thread
  | began thread => some thread
  | arrived => some .worker
  | ended _ | left => none

/-- How a task is being executed. -/
structure Execution where
  /-- Whether it was taken by somebody who runs what is due. Else the queue's own thread has
      taken it at its work. -/
  drained : Bool
  /-- How often the mark had been handed over by when it was handed to whoever executes this. -/
  since : Nat
  deriving DecidableEq, Repr

/-- The whereabouts of the queue's own thread. -/
inductive Duty where
  /-- The queue has no thread of its own. -/
  | unhired
  | hired
  /-- It came to work when the mark was handed over for that time. -/
  | atWork (since : Nat)
  | gone
  deriving DecidableEq, Repr

/-- A queue, with who executes what. -/
structure Floor (τ : Type) where
  queue : TaskQueue τ := {}
  now : Int
  /-- Each time that the mark was handed over, oldest first. -/
  handovers : List Handover := []
  duty : Duty := .unhired
  /-- What each thread executes, innermost first. -/
  executions : Thread → List Execution := fun _ => []

namespace Floor

/-- A task that was taken off the queue begins, on a thread that runs what is due. -/
def begin (f : Floor τ) (thread : Thread) (queue : TaskQueue τ) : Floor τ :=
  { f with
    queue := { queue with executing := some thread }
    handovers := f.handovers ++ [.began thread]
    executions := Function.update f.executions thread
      (⟨true, f.handovers.length + 1⟩ :: f.executions thread) }

/-- A thread that runs what is due is done with a task, `rest` being what it executes besides. -/
def finish (f : Floor τ) (thread : Thread) (rest : List Execution) : Floor τ :=
  { f with
    queue := { f.queue with executing := none }
    handovers := f.handovers ++ [.ended thread]
    executions := Function.update f.executions thread rest }

/-- The queue is given a thread of its own. -/
def hire (f : Floor τ) : Floor τ := { f with queue := { f.queue with started := true }, duty := .hired }

/-- The queue's own thread comes to work. -/
def arrive (f : Floor τ) : Floor τ :=
  { f with
    queue := { f.queue with executing := some .worker }
    handovers := f.handovers ++ [.arrived]
    duty := .atWork (f.handovers.length + 1) }

/-- The queue's own thread leaves. -/
def leave (f : Floor τ) : Floor τ :=
  { f with
    queue := { f.queue with executing := none }
    handovers := f.handovers ++ [.left]
    duty := .gone }

/-- What the queue's own thread executes at its work. -/
def assign (f : Floor τ) (queue : TaskQueue τ) (executions : List Execution) : Floor τ :=
  { f with queue, executions := Function.update f.executions .worker executions }

/-- What can be done, by whichever thread: each step is under the lock of the queue. -/
inductive Step : Floor τ → Floor τ → Prop
  | post (f : Floor τ) (task : τ) : Step f { f with queue := f.queue.post task }
  | postDelayed (f : Floor τ) (delay : Int) (task : τ) :
      Step f { f with queue := (f.queue.postDelayed f.now delay task).2 }
  | cancel (f : Floor τ) (id : Nat) : Step f { f with queue := (f.queue.cancel id).2 }
  | advance (f : Floor τ) (later : Int) : Step f { f with now := later }
  /-- Somebody looks for a task and finds none. -/
  | idle (f : Floor τ) : Step f { f with queue := f.queue.promote f.now }
  /-- Somebody runs what is due, the queue's own thread only if it executes a task. -/
  | began {f : Floor τ} {task : τ} {queue : TaskQueue τ} {thread : Thread}
      (hworker : thread = .worker → f.executions .worker ≠ []) (hgoing : f.queue.stopping = false)
      (hpop : f.queue.pop f.now = (some task, queue)) : Step f (f.begin thread queue)
  | ended {f : Floor τ} {thread : Thread} {e : Execution} {rest : List Execution}
      (h : f.executions thread = e :: rest) (hdrained : e.drained = true) : Step f (f.finish thread rest)
  | hired {f : Floor τ} (hstarted : f.queue.started = false) (hgoing : f.queue.stopping = false) : Step f f.hire
  | arrived {f : Floor τ} (hduty : f.duty = .hired) : Step f f.arrive
  /-- The queue's own thread takes a task, if it has none. -/
  | took {f : Floor τ} {since : Nat} {task : τ} {queue : TaskQueue τ} (hduty : f.duty = .atWork since)
      (hidle : f.executions .worker = []) (hgoing : f.queue.stopping = false)
      (hpop : f.queue.pop f.now = (some task, queue)) : Step f (f.assign queue [⟨false, since⟩])
  /-- The queue's own thread does what somebody waits for, if it has no task. -/
  | lent {f : Floor τ} {since : Nat} (hduty : f.duty = .atWork since) (hidle : f.executions .worker = [])
      (hgoing : f.queue.stopping = false) : Step f (f.assign (f.queue.promote f.now) [⟨false, since⟩])
  /-- The queue's own thread is done with a task, or with what somebody waits for. -/
  | done {f : Floor τ} {e : Execution} (h : f.executions .worker = [e]) (hdrained : e.drained = false) :
      Step f (f.assign f.queue [])
  /-- The queue is told to stop. -/
  | halted (f : Floor τ) : Step f { f with queue := { f.queue with stopping := true } }
  | left {f : Floor τ} {since : Nat} (hduty : f.duty = .atWork since) (hidle : f.executions .worker = [])
      (hstopping : f.queue.stopping = true) : Step f f.leave
  /-- What waits on a queue that was stopped is dropped. -/
  | dropped {f : Floor τ} (hstopping : f.queue.stopping = true) :
      Step f { f with queue := { f.queue with ready := [], delayed := [], dueTimes := [] } }

/-- Steps of any threads, in any order. -/
abbrev Course : Floor τ → Floor τ → Prop := Relation.ReflTransGen Step

/-- What a fresh queue may come to, at any moment. -/
def Reached (f : Floor τ) : Prop := ∃ now : Int, Course { now } f

/-- The mark has not been handed over since it was handed to whoever executes a task. -/
def Holds (f : Floor τ) (e : Execution) : Prop := f.handovers.length = e.since

instance (f : Floor τ) (e : Execution) : Decidable (f.Holds e) :=
  inferInstanceAs (Decidable (f.handovers.length = e.since))

section

variable {f : Floor τ} {thread other : Thread} {queue : TaskQueue τ} {e : Execution}
  {rest : List Execution}

theorem executions_begin_self : (f.begin thread queue).executions thread =
    ⟨true, f.handovers.length + 1⟩ :: f.executions thread := by
  simp only [begin, Function.update_self]

theorem executions_begin_of_ne (h : other ≠ thread) :
    (f.begin thread queue).executions other = f.executions other := by
  simp only [begin, Function.update_of_ne h]

theorem executions_finish_self : (f.finish thread rest).executions thread = rest := by
  simp only [finish, Function.update_self]

theorem executions_finish_of_ne (h : other ≠ thread) :
    (f.finish thread rest).executions other = f.executions other := by
  simp only [finish, Function.update_of_ne h]

/-- A thread that is done with a task executes what it did before the task began. -/
theorem executions_finish_of_begin {f' : Floor τ} (h : f'.executions = (f.begin thread queue).executions) :
    (f'.finish thread (f.executions thread)).executions = f.executions := by
  simp only [finish, begin, h, Function.update_idem, Function.update_eq_self]

theorem executions_assign_self : (f.assign queue rest).executions .worker = rest := by
  simp only [assign, Function.update_self]

theorem executions_assign_of_ne (h : other ≠ .worker) :
    (f.assign queue rest).executions other = f.executions other := by
  simp only [assign, Function.update_of_ne h]

/-- Once the queue's own thread is done with a task, it executes nothing, as before. -/
theorem executions_assign_of_assign {f' : Floor τ} (h : f'.executions = (f.assign queue rest).executions)
    (hidle : f.executions .worker = []) : (f'.assign f'.queue []).executions = f.executions := by
  simp only [assign, h, Function.update_idem, ← hidle, Function.update_eq_self]

theorem mem_begin : e ∈ (f.begin thread queue).executions other ↔
    other = thread ∧ e = ⟨true, f.handovers.length + 1⟩ ∨ e ∈ f.executions other := by
  by_cases hother : other = thread
  · subst hother
    rw [executions_begin_self, List.mem_cons, and_iff_right rfl]
  · rw [executions_begin_of_ne hother]
    exact (or_iff_right fun h => hother h.1).symm

/-- Nobody but the thread that is done with a task executes less than before. -/
theorem sublist_finish (h : f.executions thread = e :: rest) (other : Thread) :
    ((f.finish thread rest).executions other).Sublist (f.executions other) := by
  by_cases hother : other = thread
  · subst hother
    rw [h, executions_finish_self]
    exact List.sublist_cons_self e rest
  · simp [executions_finish_of_ne hother]

end

/-! ## What every step keeps -/

/-- What is known of who executes what, and of the mark. -/
structure Kept (f : Floor τ) : Prop where
  /-- The mark is with whom it was handed to at last. -/
  executing : f.queue.executing = f.handovers.getLast?.bind Handover.holder
  /-- Whom it was handed to is still there, as long as it is with him. -/
  holds : ∀ thread, f.queue.executing = some thread ↔
    (∃ e ∈ f.executions thread, f.Holds e) ∨ thread = .worker ∧ f.duty = .atWork f.handovers.length
  since_le : ∀ thread, ∀ e ∈ f.executions thread, e.since ≤ f.handovers.length
  atWork_le : ∀ since, f.duty = .atWork since → since ≤ f.handovers.length
  /-- Whatever is executed in the midst of a task has begun after it. -/
  nested : ∀ thread, (f.executions thread).Pairwise fun e enclosing => enclosing.since < e.since
  /-- What the queue's own thread takes at its work has its mark. -/
  own : ∀ thread, ∀ e ∈ f.executions thread, e.drained = false → thread = .worker ∧ f.duty = .atWork e.since
  /-- It executes nothing unless it is at work. -/
  present : f.executions .worker ≠ [] → ∃ since, f.duty = .atWork since
  /-- What it takes otherwise it takes after it has come. -/
  extra : ∀ since, f.duty = .atWork since → ∀ e ∈ f.executions .worker, e.drained = true → since < e.since
  gone : f.duty = .gone → f.queue.stopping = true ∧ f.queue.executing = none
  started : f.queue.started = true ↔ f.duty ≠ .unhired

namespace Kept

variable {f : Floor τ}

theorem fresh (now : Int) : ({ now } : Floor τ).Kept where
  executing := rfl
  holds _ := ⟨nofun, by rintro (⟨e, he, -⟩ | ⟨-, hduty⟩) <;> contradiction⟩
  since_le _ _ he := absurd he List.not_mem_nil
  atWork_le _ := nofun
  nested _ := .nil
  own _ _ he := absurd he List.not_mem_nil
  present h := absurd rfl h
  extra _ := nofun
  gone := nofun
  started := ⟨nofun, fun h => absurd rfl h⟩

/-- Where neither the mark nor anybody who executes a task is concerned, all is kept. -/
theorem of_sameState (h : f.Kept) {queue : TaskQueue τ} (now : Int) (hsame : f.queue.SameState queue) :
    ({ f with queue, now } : Floor τ).Kept where
  executing := hsame.executing.trans h.executing
  holds thread := by
    rw [hsame.executing]
    exact h.holds thread
  since_le := h.since_le
  atWork_le := h.atWork_le
  nested := h.nested
  own := h.own
  present := h.present
  extra := h.extra
  gone hduty := ⟨hsame.stopping.trans (h.gone hduty).1, hsame.executing.trans (h.gone hduty).2⟩
  started := by
    rw [hsame.started]
    exact h.started

theorem halt (h : f.Kept) : ({ f with queue := { f.queue with stopping := true } } : Floor τ).Kept :=
  { h with gone := fun hduty => ⟨rfl, (h.gone hduty).2⟩ }

section

/-! Once the mark is handed over, nobody who had it before has it. -/

variable {f' : Floor τ} {handover : Handover} {thread : Thread} {e : Execution}

theorem executing_of_handover (hover : f'.handovers = f.handovers ++ [handover])
    (hexecuting : f'.queue.executing = handover.holder) :
    f'.queue.executing = f'.handovers.getLast?.bind Handover.holder := by
  rw [hexecuting, hover, List.getLast?_concat]
  rfl

theorem length_of_handover (hover : f'.handovers = f.handovers ++ [handover]) :
    f.handovers.length + 1 = f'.handovers.length := by
  rw [hover, List.length_append, List.length_singleton]

variable (h : f.Kept) (hover : f'.handovers = f.handovers ++ [handover])

include h hover

theorem lt_of_handover (he : e ∈ f.executions thread) : e.since < f'.handovers.length :=
  Nat.lt_of_lt_of_eq (Nat.lt_succ_of_le (h.since_le thread e he)) (length_of_handover hover)

theorem atWork_lt_of_handover {since : Nat} (hduty : f.duty = .atWork since) : since < f'.handovers.length :=
  Nat.lt_of_lt_of_eq (Nat.lt_succ_of_le (h.atWork_le since hduty)) (length_of_handover hover)

theorem not_holds_of_handover (he : e ∈ f.executions thread) : ¬f'.Holds e :=
  (Nat.ne_of_lt (h.lt_of_handover hover he)).symm

theorem not_atWork_of_handover : f.duty ≠ .atWork f'.handovers.length := fun hduty =>
  Nat.lt_irrefl _ (h.atWork_lt_of_handover hover hduty)

end

variable {thread : Thread} {e : Execution} {rest : List Execution} {queue : TaskQueue τ}

/-- Once a task has begun, its thread has the mark. -/
theorem begin (h : f.Kept) (hworker : thread = .worker → f.executions .worker ≠ [])
    (hgoing : f.queue.stopping = false) (hstarted : queue.started = f.queue.started) :
    (f.begin thread queue).Kept where
  executing := executing_of_handover (f := f) rfl rfl
  holds other := by
    constructor
    · rintro ⟨⟩
      exact .inl ⟨_, mem_begin.2 (.inl ⟨rfl, rfl⟩), (length_of_handover rfl).symm⟩
    · rintro (⟨e, he, hholds⟩ | ⟨-, hduty⟩)
      · rcases mem_begin.1 he with ⟨rfl, -⟩ | he
        · rfl
        · exact absurd hholds (h.not_holds_of_handover rfl he)
      · exact absurd hduty (h.not_atWork_of_handover rfl)
  since_le other e he := by
    rcases mem_begin.1 he with ⟨-, rfl⟩ | he
    · exact Nat.le_of_eq (length_of_handover rfl)
    · exact Nat.le_of_lt (h.lt_of_handover rfl he)
  atWork_le since hduty := Nat.le_of_lt (h.atWork_lt_of_handover rfl hduty)
  nested other := by
    by_cases hother : other = thread
    · subst hother
      rw [executions_begin_self]
      exact List.pairwise_cons.2 ⟨fun e he => Nat.lt_succ_of_le (h.since_le other e he), h.nested other⟩
    · rw [executions_begin_of_ne hother]
      exact h.nested other
  own other e he howned := by
    rcases mem_begin.1 he with ⟨-, rfl⟩ | he
    · cases howned
    · exact h.own other e he howned
  present hbusy := by
    by_cases hthread : thread = .worker
    · exact h.present (hworker hthread)
    · rw [executions_begin_of_ne (Ne.symm hthread)] at hbusy
      exact h.present hbusy
  extra since hduty e he hdrained := by
    rcases mem_begin.1 he with ⟨-, rfl⟩ | he
    · exact Nat.lt_succ_of_le (h.atWork_le since hduty)
    · exact h.extra since hduty e he hdrained
  gone hduty := by
    rw [(h.gone hduty).1] at hgoing
    cases hgoing
  started := by
    have hsame : (f.begin thread queue).queue.started = f.queue.started := hstarted
    rw [hsame]
    exact h.started

/-- Once a task is done, nobody has the mark. -/
theorem finish (h : f.Kept) (hthread : f.executions thread = e :: rest) : (f.finish thread rest).Kept := by
  have hmem {other : Thread} {e' : Execution} (he : e' ∈ (f.finish thread rest).executions other) :
      e' ∈ f.executions other := (sublist_finish hthread other).subset he
  exact {
    executing := executing_of_handover (f := f) rfl rfl
    holds := fun other => by
      refine ⟨nofun, ?_⟩
      rintro (⟨e', he, hholds⟩ | ⟨-, hduty⟩)
      · exact absurd hholds (h.not_holds_of_handover rfl (hmem he))
      · exact absurd hduty (h.not_atWork_of_handover rfl)
    since_le := fun other e' he => Nat.le_of_lt (h.lt_of_handover rfl (hmem he))
    atWork_le := fun since hduty => Nat.le_of_lt (h.atWork_lt_of_handover rfl hduty)
    nested := fun other => (h.nested other).sublist (sublist_finish hthread other)
    own := fun other e' he => h.own other e' (hmem he)
    present := fun hbusy => h.present fun hnone => hbusy (List.sublist_nil.1 (hnone ▸ sublist_finish hthread .worker))
    extra := fun since hduty e' he => h.extra since hduty e' (hmem he)
    gone := fun hduty => ⟨(h.gone hduty).1, rfl⟩
    started := h.started }

/-! ### The queue's own thread -/

theorem hire (h : f.Kept) (hstarted : f.queue.started = false) : f.hire.Kept := by
  have hduty : f.duty = .unhired := by
    by_contra hne
    rw [h.started.2 hne] at hstarted
    cases hstarted
  exact {
    executing := h.executing
    holds := fun thread => by simpa [hduty, Floor.hire, Holds] using h.holds thread
    since_le := h.since_le
    atWork_le := nofun
    nested := h.nested
    own := fun thread e he howned => by simpa [hduty] using h.own thread e he howned
    present := fun hbusy => by simpa [hduty] using h.present hbusy
    extra := nofun
    gone := nofun
    started := by simp [Floor.hire] }

/-- Once it has come, it has the mark. -/
theorem arrive (h : f.Kept) (hduty : f.duty = .hired) : f.arrive.Kept where
  executing := executing_of_handover (f := f) rfl rfl
  holds thread := by
    have hsince : f.arrive.duty = .atWork f.arrive.handovers.length := congrArg Duty.atWork (length_of_handover rfl)
    constructor
    · rintro ⟨⟩
      exact .inr ⟨rfl, hsince⟩
    · rintro (⟨e, he, hholds⟩ | ⟨rfl, -⟩)
      · exact absurd hholds (h.not_holds_of_handover rfl he)
      · rfl
  since_le thread e he := Nat.le_of_lt (h.lt_of_handover rfl he)
  atWork_le since hsince := by
    cases hsince
    exact Nat.le_of_eq (length_of_handover rfl)
  nested := h.nested
  own thread e he howned := by simpa [hduty] using h.own thread e he howned
  present _ := ⟨_, rfl⟩
  extra since _ e he := by
    obtain ⟨_, hatWork⟩ := h.present (List.ne_nil_of_mem he)
    rw [hduty] at hatWork
    cases hatWork
  gone := nofun
  started := by
    have hstarted : f.queue.started = true := h.started.2 (by simp [hduty])
    exact ⟨fun _ => nofun, fun _ => hstarted⟩

/-- Once it has left, nobody has the mark. -/
theorem leave (h : f.Kept) {since : Nat} (hduty : f.duty = .atWork since) (hidle : f.executions .worker = [])
    (hstopping : f.queue.stopping = true) : f.leave.Kept where
  executing := executing_of_handover (f := f) rfl rfl
  holds thread := by
    refine ⟨nofun, ?_⟩
    rintro (⟨e, he, hholds⟩ | ⟨-, hgone⟩)
    · exact absurd hholds (h.not_holds_of_handover rfl he)
    · cases hgone
  since_le thread e he := Nat.le_of_lt (h.lt_of_handover rfl he)
  atWork_le := nofun
  nested := h.nested
  own thread e he howned := by
    obtain ⟨rfl, -⟩ := h.own thread e he howned
    have hnone : e ∈ f.executions .worker := he
    rw [hidle] at hnone
    cases hnone
  present hbusy := absurd hidle hbusy
  extra := nofun
  gone _ := ⟨hstopping, rfl⟩
  started := by
    have hstarted : f.queue.started = true := h.started.2 (by simp [hduty])
    exact ⟨fun _ => nofun, fun _ => hstarted⟩

/-- Whatever it executes at its work, it has the mark if that was not handed over since it came. -/
theorem holds_own_iff {since : Nat} {executions : List Execution} (hduty : f.duty = .atWork since)
    (hexecutions : ∀ e ∈ executions, e.since = since) :
    ((∃ e ∈ executions, f.Holds e) ∨ f.duty = .atWork f.handovers.length) ↔ f.handovers.length = since := by
  rw [hduty]
  constructor
  · rintro (⟨e, he, hholds⟩ | hsince)
    · exact hholds.trans (hexecutions e he)
    · cases hsince
      rfl
  · rintro rfl
    exact .inr rfl

/-- So what that is makes no difference to the mark. -/
theorem assign (h : f.Kept) {since : Nat} {executions : List Execution} (hduty : f.duty = .atWork since)
    (hbefore : ∀ e ∈ f.executions .worker, e.since = since)
    (hexecutions : executions.Pairwise fun e enclosing => enclosing.since < e.since)
    (hown : ∀ e ∈ executions, e.drained = false ∧ e.since = since) (hsame : f.queue.SameState queue) :
    (f.assign queue executions).Kept := by
  have hmem {thread : Thread} {e : Execution} (he : e ∈ (f.assign queue executions).executions thread) :
      thread = .worker ∧ e.drained = false ∧ e.since = since ∨ e ∈ f.executions thread := by
    by_cases hthread : thread = .worker
    · subst hthread
      rw [executions_assign_self] at he
      exact .inl ⟨rfl, hown e he⟩
    · rw [executions_assign_of_ne hthread] at he
      exact .inr he
  exact {
    executing := hsame.executing.trans h.executing
    holds := fun thread => by
      have hholds := h.holds thread
      rw [← hsame.executing] at hholds
      refine hholds.trans ?_
      by_cases hthread : thread = .worker
      · subst hthread
        rw [executions_assign_self]
        simp only [true_and]
        exact (holds_own_iff hduty hbefore).trans (holds_own_iff hduty fun e he => (hown e he).2).symm
      · rw [executions_assign_of_ne hthread]
        rfl
    since_le := fun thread e he => by
      rcases hmem he with ⟨-, -, hsince⟩ | he
      · rw [hsince]
        exact h.atWork_le since hduty
      · exact h.since_le thread e he
    atWork_le := h.atWork_le
    nested := fun thread => by
      by_cases hthread : thread = .worker
      · subst hthread
        rwa [executions_assign_self]
      · rw [executions_assign_of_ne hthread]
        exact h.nested thread
    own := fun thread e he howned => by
      rcases hmem he with ⟨rfl, -, rfl⟩ | he
      · exact ⟨rfl, hduty⟩
      · exact h.own thread e he howned
    present := fun _ => ⟨since, hduty⟩
    extra := fun since' hsince e he hdrained => by
      rcases hmem he with ⟨-, howned, -⟩ | he
      · rw [howned] at hdrained
        cases hdrained
      · exact h.extra since' hsince e he hdrained
    gone := fun hgone => by
      rw [show f.duty = .gone from hgone] at hduty
      cases hduty
    started := by
      rw [show (f.assign queue executions).queue.started = f.queue.started from hsame.started]
      exact h.started }

/-- What it takes has its mark, as long as that has not been handed over. -/
theorem take (h : f.Kept) {since : Nat} (hduty : f.duty = .atWork since) (hidle : f.executions .worker = [])
    (hsame : f.queue.SameState queue) : (f.assign queue [⟨false, since⟩]).Kept := by
  refine h.assign hduty (fun e he => ?_) (List.pairwise_singleton _ _) (fun e he => ?_) hsame
  · rw [hidle] at he
    cases he
  · rw [List.mem_singleton.1 he]
    exact ⟨rfl, rfl⟩

end Kept

variable {f f' : Floor τ}

theorem Step.kept (hstep : f.Step f') (h : f.Kept) : f'.Kept := by
  cases hstep with
  | post task => exact h.of_sameState f.now (sameState_post f.queue task)
  | postDelayed delay task => exact h.of_sameState f.now (sameState_postDelayed f.queue f.now delay task)
  | cancel id => exact h.of_sameState f.now (sameState_cancel f.queue id)
  | advance later => exact h.of_sameState later ⟨rfl, rfl, rfl⟩
  | idle => exact h.of_sameState f.now (sameState_promote f.queue f.now)
  | began hworker hgoing hpop => exact h.begin hworker hgoing (sameState_of_pop hpop).started
  | ended hthread => exact h.finish hthread
  | hired hstarted => exact h.hire hstarted
  | arrived hduty => exact h.arrive hduty
  | took hduty hidle _ hpop => exact h.take hduty hidle (sameState_of_pop hpop)
  | lent hduty hidle => exact h.take hduty hidle (sameState_promote f.queue f.now)
  | @done e hworker howned =>
    have hduty := (h.own .worker e (hworker ▸ List.mem_singleton_self e) howned).2
    refine h.assign hduty (fun e' he => ?_) .nil (fun e' he => absurd he List.not_mem_nil) ⟨rfl, rfl, rfl⟩
    rw [hworker] at he
    rw [List.mem_singleton.1 he]
  | halted => exact h.halt
  | left hduty hidle hstopping => exact h.leave hduty hidle hstopping
  | dropped => exact h.of_sameState f.now ⟨rfl, rfl, rfl⟩

theorem Course.kept (hcourse : f.Course f') (h : f.Kept) : f'.Kept := by
  induction hcourse with
  | refl => exact h
  | tail _ hstep ih => exact hstep.kept ih

theorem Reached.kept (h : f.Reached) : f.Kept := by
  obtain ⟨now, hcourse⟩ := h
  exact hcourse.kept (.fresh now)

theorem Reached.course (h : f.Reached) (hcourse : f.Course f') : f'.Reached := by
  obtain ⟨now, hbefore⟩ := h
  exact ⟨now, hbefore.trans hcourse⟩

/-- A queue that runs has its thread at work, once that has come. -/
theorem Kept.exists_atWork (h : f.Kept) (hrunning : f.queue.running = true) (hsettled : f.duty ≠ .hired) :
    ∃ since, f.duty = .atWork since := by
  rw [running, Bool.and_eq_true, Bool.not_eq_true'] at hrunning
  cases hduty : f.duty with
  | unhired => exact absurd hduty (h.started.1 hrunning.1)
  | hired => exact absurd hduty hsettled
  | atWork since => exact ⟨since, rfl⟩
  | gone =>
    rw [(h.gone hduty).1] at hrunning
    exact absurd hrunning.2 Bool.noConfusion

/-- A queue keeps the thread that it was given. -/
theorem Step.duty_ne_unhired (hstep : f.Step f') (h : f.duty ≠ .unhired) : f'.duty ≠ .unhired := by
  cases hstep with
  | hired | arrived | left => exact nofun
  | _ => exact h

theorem Course.duty_ne_unhired (hcourse : f.Course f') (h : f.duty ≠ .unhired) : f'.duty ≠ .unhired := by
  induction hcourse with
  | refl => exact h
  | tail _ hstep ih => exact hstep.duty_ne_unhired ih

/-! ## Who is marked -/

variable {thread : Thread} {e enclosing : Execution} {rest : List Execution}

/-- In the midst of a task, the mark was handed over when the other one began. -/
theorem Kept.not_holds_enclosing (h : f.Kept) (hthread : f.executions thread = e :: rest) (he : enclosing ∈ rest) :
    ¬f.Holds enclosing := by
  intro hholds
  have hnested := h.nested thread
  rw [hthread] at hnested
  have hlater := (List.pairwise_cons.1 hnested).1 enclosing he
  have hle := h.since_le thread e (hthread ▸ List.mem_cons_self)
  rw [Holds] at hholds
  omega

/-- A thread is marked for what it executes as long as the mark has not been handed over. -/
theorem Kept.runsOn_iff (h : f.Kept) (hthread : f.executions thread = e :: rest) :
    f.queue.runsOn thread = true ↔ f.Holds e := by
  have he : e ∈ f.executions thread := hthread ▸ List.mem_cons_self
  rw [runsOn, decide_eq_true_eq, h.holds]
  constructor
  · rintro (⟨e', he', hholds⟩ | ⟨rfl, hduty⟩)
    · rw [hthread] at he'
      rcases List.mem_cons.1 he' with rfl | he'
      · exact hholds
      · exact absurd hholds (h.not_holds_enclosing hthread he')
    · cases hdrained : e.drained with
      | true =>
        -- It would have been handed over once more than it was.
        have hafter := h.extra _ hduty e he hdrained
        have hle := h.since_le _ e he
        omega
      | false =>
        have hown := (h.own _ e he hdrained).2
        rw [hduty] at hown
        exact Duty.atWork.inj hown
  · exact fun hholds => .inl ⟨e, he, hholds⟩

/-- Whoever executes nothing is not marked, but for the queue's own thread while it is at work. -/
theorem Kept.runsOn_eq_false (h : f.Kept) (hthread : f.executions thread = [])
    (hworker : thread = .worker → ∀ since, f.duty ≠ .atWork since) : f.queue.runsOn thread = false := by
  rw [runsOn, decide_eq_false_iff_not, h.holds]
  rintro (⟨e, he, -⟩ | ⟨heq, hduty⟩)
  · rw [hthread] at he
    cases he
  · exact hworker heq _ hduty

/-- What was handed over has been. -/
theorem Step.handovers_prefix (hstep : f.Step f') : f.handovers <+: f'.handovers := by
  cases hstep with
  | began | ended | arrived | left => exact List.prefix_append _ _
  | _ => exact List.prefix_rfl

theorem Course.handovers_prefix (hcourse : f.Course f') : f.handovers <+: f'.handovers := by
  induction hcourse with
  | refl => exact List.prefix_rfl
  | tail _ hstep ih => exact ih.trans hstep.handovers_prefix

/-- A mark that is lost does not come back. -/
theorem Course.holds_of_holds (hcourse : f.Course f') (hsince : e.since ≤ f.handovers.length) (h : f'.Holds e) :
    f.Holds e := by
  have hle := hcourse.handovers_prefix.length_le
  rw [Holds] at h ⊢
  omega

end Floor

end TaskQueue

end Fingerprint
