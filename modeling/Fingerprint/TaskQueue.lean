/-!
# The serial task queue

Tasks run one at a time, in the order in which they get ready. A posted task
is ready at once, behind all that are; a delayed one becomes ready at the
first pop at or after its due time, those due together in the order of their
due times, and of their numbers among equal ones. A delayed task can be
cancelled by its number as long as it is not ready. A queue that was stopped
accepts no task and lets none start.

Times are in milliseconds.

* `TaskQueue`: the tasks that wait, and who runs tasks at the moment;
* `TaskQueue.pop`: the next task at a time;
* `Engine.runPending`: runs all that is due, on the calling thread;
* `Engine.work`: runs all that is due, on the queue's own thread.
-/

namespace Fingerprint

/-- A thread: that of a queue, or one of those that use it. -/
inductive Thread where
  | worker
  | client (number : Nat)
  deriving DecidableEq, Repr

/-- A task that waits for its due time. -/
structure Delayed (τ : Type) where
  due : Int
  id : Nat
  task : τ
  deriving DecidableEq, Repr

namespace Delayed

variable {τ : Type}

/-- Whether a task comes before another: it is due earlier, or at the same time with a
    smaller number. -/
def before (a b : Delayed τ) : Bool := a.due < b.due || (a.due = b.due && a.id < b.id)

end Delayed

/-- The tasks that wait, and who runs tasks at the moment. -/
structure TaskQueue (τ : Type) where
  /-- Tasks that may start, first the one that starts first. -/
  ready : List τ := []
  /-- Tasks that wait for their due times, in the order in which they get ready. -/
  delayed : List (Delayed τ) := []
  /-- The due times of the delayed tasks by their numbers. -/
  dueTimes : List (Nat × Int) := []
  /-- The number of the next delayed task. -/
  nextId : Nat := 1
  /-- Whether the queue was given a thread of its own. -/
  started : Bool := false
  stopping : Bool := false
  /-- The thread that is marked as running tasks. -/
  executing : Option Thread := none
  deriving DecidableEq, Repr

namespace TaskQueue

variable {τ : Type}

/-- How many tasks wait. -/
def pending (q : TaskQueue τ) : Nat := q.ready.length + q.delayed.length

/-- Whether the queue's own thread runs its tasks. -/
def running (q : TaskQueue τ) : Bool := q.started && !q.stopping

/-- Whether a thread is marked as running tasks. -/
def runsOn (q : TaskQueue τ) (thread : Thread) : Bool := q.executing = some thread

/-- Makes a task ready, behind all that are. -/
def post (q : TaskQueue τ) (task : τ) : TaskQueue τ :=
  if q.stopping then q else { q with ready := q.ready ++ [task] }

/-- Puts a task in front of the first that comes after it. -/
def insert (task : Delayed τ) : List (Delayed τ) → List (Delayed τ)
  | [] => [task]
  | other :: rest => if task.before other then task :: other :: rest else other :: insert task rest

/-- Lets a task wait for a delay from `now` on, or not at all if the delay is negative,
    and gives its number. A queue that was stopped gives the number zero. -/
def postDelayed (q : TaskQueue τ) (now : Int) (delay : Int) (task : τ) : Nat × TaskQueue τ :=
  if q.stopping then (0, q)
  else
    let due := now + max delay 0
    (q.nextId,
      { q with
        delayed := insert ⟨due, q.nextId, task⟩ q.delayed
        dueTimes := (q.nextId, due) :: q.dueTimes
        nextId := q.nextId + 1 })

/-- Takes out a delayed task, if there is one with that number. -/
def cancel (q : TaskQueue τ) (id : Nat) : Bool × TaskQueue τ :=
  match q.dueTimes.lookup id with
  | none => (false, q)
  | some due =>
    (true,
      { q with
        delayed := q.delayed.filter fun d => !(d.due = due && d.id = id)
        dueTimes := q.dueTimes.filter (·.1 != id) })

/-- Makes the delayed tasks ready that are due at `now`. -/
def promote (q : TaskQueue τ) (now : Int) : TaskQueue τ :=
  let due := q.delayed.takeWhile fun d => d.due ≤ now
  { q with
    ready := q.ready ++ due.map (·.task)
    delayed := q.delayed.dropWhile fun d => d.due ≤ now
    dueTimes := q.dueTimes.filter fun entry => !due.any (·.id == entry.1) }

/-- Takes the next task, if there is one at `now`. -/
def pop (q : TaskQueue τ) (now : Int) : Option τ × TaskQueue τ :=
  let q := q.promote now
  match q.ready with
  | [] => (none, q)
  | task :: rest => (some task, { q with ready := rest })

/-- Gives the queue a thread of its own, which is marked as running tasks from then on. -/
def start (q : TaskQueue τ) : TaskQueue τ :=
  if q.started || q.stopping then q else { q with started := true, executing := some .worker }

/-- Drops all tasks and accepts none any more. The queue's own thread ends, unless it is
    the one that stops the queue: then it ends with the task that it runs. -/
def stop (q : TaskQueue τ) (thread : Thread) : TaskQueue τ :=
  { q with
    ready := []
    delayed := []
    dueTimes := []
    stopping := true
    executing := if q.started && thread != .worker then none else q.executing }

/-! ## What waits -/

theorem mem_insert {task other : Delayed τ} {tasks : List (Delayed τ)} :
    other ∈ insert task tasks ↔ other = task ∨ other ∈ tasks := by
  induction tasks with
  | nil => simp [insert]
  | cons first rest ih =>
    rw [insert]
    split
    · rw [List.mem_cons]
    · rw [List.mem_cons, ih, List.mem_cons]
      exact or_left_comm

/-- Making tasks ready neither adds nor loses one. -/
@[simp] theorem pending_promote (q : TaskQueue τ) (now : Int) : (q.promote now).pending = q.pending := by
  have hsplit : q.delayed.takeWhile (fun d => d.due ≤ now) ++ q.delayed.dropWhile (fun d => d.due ≤ now) = q.delayed :=
    List.takeWhile_append_dropWhile
  replace hsplit := congrArg List.length hsplit
  rw [List.length_append] at hsplit
  simp only [pending, promote, List.length_append, List.length_map]
  omega

end TaskQueue

/-- What runs the tasks of a queue that is part of a state. -/
structure Engine (σ τ : Type) where
  queue : σ → TaskQueue τ
  setQueue : TaskQueue τ → σ → σ
  /-- The time on the queue's clock. -/
  now : σ → Int
  /-- The thread that is running. -/
  thread : σ → Thread
  /-- Runs one task to its end, whatever that is. -/
  run : τ → σ → σ

namespace Engine

variable {σ τ : Type} (engine : Engine σ τ)

/-- Marks a thread, or none, as running tasks. -/
def mark (thread : Option Thread) (s : σ) : σ :=
  engine.setQueue { engine.queue s with executing := thread } s

/-- Runs the tasks that are due, those included that they post, until none is left or
    the queue is stopped, and counts them. The running thread is marked during each
    task, and no thread after it. At most `room` tasks are run. -/
def runPending : (room : Nat) → σ → Nat × σ
  | 0, s => (0, s)
  | room + 1, s =>
    if (engine.queue s).stopping then (0, s)
    else
      match (engine.queue s).pop (engine.now s) with
      | (none, q) => (0, engine.setQueue q s)
      | (some task, q) =>
        let s := engine.mark (some (engine.thread s)) (engine.setQueue q s)
        let s := engine.mark none (engine.run task s)
        let (count, s) := runPending room s
        (count + 1, s)

/-- Runs the tasks that are due on the queue's own thread, until none is left or the
    queue is stopped, which ends the thread. At most `room` tasks are run. -/
def work : (room : Nat) → σ → σ
  | 0, s => s
  | room + 1, s =>
    if (engine.queue s).stopping then engine.mark none s
    else
      match (engine.queue s).pop (engine.now s) with
      | (none, q) => engine.setQueue q s
      | (some task, q) => work room (engine.run task (engine.setQueue q s))

end Engine

end Fingerprint
