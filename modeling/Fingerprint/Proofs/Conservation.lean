import Mathlib.Data.List.DropRight
import Fingerprint.Proofs.Calm
import Fingerprint.Proofs.Order
import Fingerprint.Proofs.Roster

/-!
# No task is lost

Tasks may do themselves to the queue whatever can be done to it, and may end
with a fault. So what is done to the queue while all is run that is due is one
list of deeds as well: the next task is taken, then comes what this task does,
then what comes after it. Hence each task is accounted for at every moment, and
a run to the end leaves nothing behind that is due, whichever tasks have
failed.

* `Host.Orderly`: the hosts that use the queue by its operations;
* `Host.does_perform`: then so does every task;
* `Host.Drains`: what is done to the queue while all is run that is due;
* `TaskQueue.Drained`: what is left behind;
* `Host.Orderly.conserves`.
-/

namespace Fingerprint

open TaskQueue (Deed Roster Accounted after)

variable {ω κ α β : Type} {host : Host ω κ} {s s' : System ω κ}

/-! ## What tasks do to the queue -/

/-- Whoever answers a call or runs a client's task does to the queue, and to its clock, what can be
    done to them. -/
structure Host.Orderly (host : Host ω κ) : Prop where
  answer : ∀ (call : Call) (s : System ω κ), ∃ deeds : List (Deed (Task κ)),
    ((host.answer call).run s).2.moment = deeds.foldl Deed.act s.moment
  client : ∀ (task : κ) (s : System ω κ), ∃ deeds : List (Deed (Task κ)),
    ((host.client task).run s).2.moment = deeds.foldl Deed.act s.moment

namespace Host

/-- What an operation does to the queue are deeds, whatever it ends with. -/
def Does (op : Op ω κ α) : Prop :=
  ∀ s, ∃ deeds : List (Deed (Task κ)), (op.run s).2.moment = deeds.foldl Deed.act s.moment

/-- Acts of the coordinator leave the queue to others. -/
theorem Orderly.does (hhost : host.Orderly) {op : Op ω κ α} (h : host.Conducts True op) :
    Does op := by
  intro s
  have hacts := h s
  generalize (op.run s).2 = s' at hacts
  induction hacts with
  | refl => exact ⟨[], rfl⟩
  | @tail s₁ s₂ _ hact ih =>
    obtain ⟨deeds, hdeeds⟩ := ih
    have hmore : ∃ more : List (Deed (Task κ)), s₂.moment = more.foldl Deed.act s₁.moment := by
      cases hact with
      | published | changed => exact ⟨[], rfl⟩
      | called call => exact hhost.answer call s₁
      | client task => exact hhost.client task s₁
    obtain ⟨more, hmore⟩ := hmore
    exact ⟨deeds ++ more, by rw [List.foldl_append, ← hdeeds, hmore]⟩

/-- A lockout cancels its timer, if it has one, and starts it anew. -/
theorem does_recordFailure : Does host.recordFailure := by
  intro s
  by_cases hlimit : host.setup.lockout.maxFailedAttempts < s.lockout.failed + 1
  · obtain ⟨-, hentered⟩ := Lockout.recordFailure_of_lt hlimit
    rw [System.moment, hentered.queue, hentered.clock, Lockout.cancelTimer]
    split
    · exact ⟨[.postDelayed host.setup.lockout.duration .lockoutExpired], rfl⟩
    · exact ⟨[.cancel s.lockout.timer, .postDelayed host.setup.lockout.duration .lockoutExpired], rfl⟩
  · obtain ⟨-, world, hcounted⟩ := Lockout.recordFailure_of_not_lt hlimit
    exact ⟨[], by rw [hcounted]; rfl⟩

theorem does_recordSuccess : Does (recordSuccess : Op ω κ Unit) := fun _ => ⟨[], rfl⟩

/-- Deeds go through composition. -/
theorem Orderly.pervasive_does (hhost : host.Orderly) : host.Pervasive Does Does := by
  let R (s s' : System ω κ) : Prop := ∃ deeds : List (Deed (Task κ)), s'.moment = deeds.foldl Deed.act s.moment
  refine pervasive_follows (R := R) (fun _ => ⟨[], rfl⟩) (fun h h' => ?_) (fun _ _ => ⟨[], rfl⟩)
    (fun _ => hhost.answer _) (fun _ _ _ _ _ => ⟨[], rfl⟩) fun _ _ _ => ⟨[], rfl⟩
  obtain ⟨deeds, hdeeds⟩ := h
  obtain ⟨more, hmore⟩ := h'
  exact ⟨deeds ++ more, by rw [List.foldl_append, ← hdeeds, hmore]⟩

/-- What a task does to the queue are deeds. -/
theorem Orderly.does_perform (hhost : host.Orderly) (task : Task κ) : Does (host.perform task) := by
  have hslot (kind caller sink subject) : Does (slotNew kind caller sink subject : Op ω κ Unit) :=
    hhost.does (conducts_slotNew (fun _ => trivial) caller sink subject)
  exact hhost.pervasive_does.coarse.perform_of_all (fun _ => hhost.answer _) hslot does_recordFailure does_recordSuccess
    (fun _ => ⟨[], rfl⟩) hhost.client task

end Host

/-! ## What is left behind -/

namespace TaskQueue

variable {τ : Type} {q : TaskQueue τ} {now : Int} {deeds : List (Deed τ)}

/-- Nothing is left that is due: each task that was accepted has started, was cancelled, or waits
    for a time to come. -/
structure Drained (now : Int) (deeds : List (Deed τ)) : Prop where
  ready : (after now deeds).1.ready = []
  due : ∀ d ∈ (after now deeds).1.delayed, (after now deeds).2 < d.due
  settled : ∀ n < (Roster.of now deeds).accepted,
    n ∈ (Roster.of now deeds).started ∨ n ∈ (Roster.of now deeds).canceled ∨
      ∃ d ∈ (Roster.of now deeds).queue.delayed, d.task.1 = n ∧ (after now deeds).2 < d.due

/-- All that is due at a time is made ready at once. -/
theorem dueAt_promote (q : TaskQueue τ) (now : Int) : (q.promote now).dueAt now = [] := by
  have hsplit := dueAt_append (q.promote now) now
  have hdelayed : ((q.promote now).promote now).delayed = (q.promote now).delayed :=
    List.dropWhile_idempotent _ _
  rw [hdelayed] at hsplit
  exact List.append_left_eq_self.1 hsplit

/-- A pop that finds no task leaves none that another would find. -/
theorem ready_promote_of_pop {q' : TaskQueue τ} (h : q.pop now = (none, q')) :
    (q'.promote now).ready = [] := by
  obtain ⟨hready, rfl⟩ := pop_eq_none h
  rw [ready_promote, dueAt_promote, hready]
  rfl

/-- Where a pop would find no task, and the queue was not stopped, nothing is left that is due. -/
theorem drained_of_ready_promote (hstopping : (after now deeds).1.stopping = false)
    (h : ((after now deeds).1.promote (after now deeds).2).ready = []) : Drained now deeds := by
  have hkept := Roster.Kept.of now deeds
  have hqueue : (Roster.of now deeds).queue.map (·.2) = (after now deeds).1 :=
    congrArg Prod.fst (Roster.moment_of now deeds)
  have hclock : (Roster.of now deeds).now = (after now deeds).2 :=
    congrArg Prod.snd (Roster.moment_of now deeds)
  have hroster : ((Roster.of now deeds).queue.promote (after now deeds).2).ready = [] := by
    rw [← hqueue, ← map_promote] at h
    exact List.map_eq_nil_iff.1 h
  have hdue : ∀ d ∈ (Roster.of now deeds).queue.delayed, (after now deeds).2 < d.due := by
    intro d hd
    by_contra hle
    have hmem : d.task ∈ ((Roster.of now deeds).queue.promote (after now deeds).2).ready :=
      (mem_ready_promote hkept.inOrder).2 (.inr ⟨d, hd, Int.not_lt.1 hle, rfl⟩)
    rw [hroster] at hmem
    cases hmem
  have hready : (Roster.of now deeds).queue.ready = [] := by
    rw [ready_promote] at hroster
    exact (List.append_eq_nil_iff.1 hroster).1
  refine ⟨?_, fun d hd => ?_, fun n hn => ?_⟩
  · rw [← hqueue]
    exact List.map_eq_nil_iff.2 hready
  · rw [← hqueue] at hd
    obtain ⟨e, he, rfl⟩ := List.mem_map.1 hd
    exact hdue e he
  · have hdropped : (Roster.of now deeds).dropped = [] := by
      rw [← hqueue] at hstopping
      exact hkept.dropped hstopping
    have hmem := hkept.fates.mem_iff.1 (List.mem_range.2 hn)
    rw [hdropped, Roster.waiting, hready] at hmem
    simp only [List.append_nil, List.map_nil, List.nil_append, List.mem_append, or_assoc] at hmem
    refine hmem.imp_right (·.imp_right fun hwaits => ?_)
    obtain ⟨d, hd, rfl⟩ := List.mem_map.1 hwaits
    exact ⟨d, hd, rfl, hdue d hd⟩

end TaskQueue

/-! ## Running all that is due -/

namespace Host

variable {room count : Nat} {more : List (Deed (Task κ))}

/-- The state in which a task starts that was taken off the queue in a state. -/
def taken (s : System ω κ) (queue : TaskQueue (Task κ)) : System ω κ :=
  { s with queue := { queue with executing := some s.thread } }

/-- From a state on, at most `room` of the tasks that are due are run, with what is done to the
    queue meanwhile, how many tasks are taken, and the state at the end. Whatever a task ends with,
    what it does to the queue are deeds. -/
inductive Drains (host : Host ω κ) : Nat → System ω κ → List (Deed (Task κ)) → Nat × System ω κ → Prop
  | exhausted (s : System ω κ) : Drains host 0 s [] (0, s)
  | stopped {room : Nat} {s : System ω κ} (hstopping : s.queue.stopping = true) :
      Drains host (room + 1) s [] (0, s)
  | idle {room : Nat} {s : System ω κ} {queue : TaskQueue (Task κ)} (hstopping : s.queue.stopping = false)
      (hpop : s.queue.pop s.clock = (none, queue)) :
      Drains host (room + 1) s [.pop] (0, { s with queue })
  | ran {room : Nat} {s s₁ s₂ : System ω κ} {task : Task κ} {queue : TaskQueue (Task κ)}
      {outcome : Except Fault Unit} {deeds more : List (Deed (Task κ))} {count : Nat}
      (hstopping : s.queue.stopping = false) (hpop : s.queue.pop s.clock = (some task, queue))
      (hrun : (host.perform task).run (taken s queue) = (outcome, s₁))
      (hdeeds : s₁.moment = deeds.foldl Deed.act (taken s queue).moment)
      (hmore : Drains host room (host.engine.mark none (host.engine.run task (taken s queue))) more (count, s₂)) :
      Drains host (room + 1) s ([.pop, .mark (some s.thread)] ++ deeds ++ [.mark none] ++ more) (count + 1, s₂)

/-- That a task has failed makes no difference to the queue. -/
theorem moment_run (task : Task κ) (s : System ω κ) :
    (host.engine.run task s).moment = ((host.perform task).run s).2.moment := by
  rcases host.run_task task s with hrun | ⟨fault, hrun⟩ <;> rw [hrun]
  rfl

/-- All that is due is run in this way. -/
theorem Orderly.exists_drains (hhost : host.Orderly) (room : Nat) (s : System ω κ) :
    ∃ more, host.Drains room s more (host.engine.runPending room s) := by
  induction room generalizing s with
  | zero => exact ⟨[], .exhausted s⟩
  | succ room ih =>
    cases hstopping : s.queue.stopping with
    | true =>
      rw [runPending_of_stopping hstopping]
      exact ⟨[], .stopped hstopping⟩
    | false =>
      rcases hpop : s.queue.pop s.clock with ⟨_ | task, queue⟩
      · rw [runPending_of_none hstopping hpop]
        exact ⟨[.pop], .idle hstopping hpop⟩
      · rw [runPending_of_some hstopping hpop]
        obtain ⟨deeds, hdeeds⟩ := hhost.does_perform task (taken s queue)
        obtain ⟨more, hmore⟩ := ih (host.engine.mark none (host.engine.run task (taken s queue)))
        exact ⟨_, .ran hstopping hpop rfl hdeeds hmore⟩

/-- Running all that is due does the deeds, and ends where a pop would find no task, unless there
    was no room for more or the queue was stopped. -/
theorem Drains.spec {result : Nat × System ω κ} (h : host.Drains room s more result) :
    host.engine.runPending room s = result ∧
      result.2.moment = more.foldl Deed.act s.moment ∧
      (result.1 < room → result.2.queue.stopping = false →
        (result.2.queue.promote result.2.clock).ready = []) := by
  induction h with
  | exhausted => exact ⟨rfl, rfl, fun hcount => absurd hcount (Nat.lt_irrefl 0)⟩
  | stopped hstopping =>
    refine ⟨runPending_of_stopping hstopping _, rfl, fun _ hgoing => ?_⟩
    rw [hstopping] at hgoing
    cases hgoing
  | @idle room s queue hstopping hpop =>
    refine ⟨runPending_of_none hstopping hpop room, ?_, fun _ _ => TaskQueue.ready_promote_of_pop hpop⟩
    change (queue, s.clock) = ((s.queue.pop s.clock).2, s.clock)
    rw [hpop]
  | @ran room s s₁ s₂ task queue outcome deeds more count hstopping hpop hrun hdeeds _ ih =>
    obtain ⟨hpending, hmoment, hrest⟩ := ih
    refine ⟨?_, ?_, fun hcount => hrest (Nat.lt_of_succ_lt_succ hcount)⟩
    · rw [runPending_of_some hstopping hpop]
      exact congrArg (fun rest : Nat × System ω κ => (rest.1 + 1, rest.2)) hpending
    · have htaken : (taken s queue).moment = [.pop, .mark (some s.thread)].foldl Deed.act s.moment := by
        change _ = ({ (s.queue.pop s.clock).2 with executing := some s.thread }, s.clock)
        rw [hpop]
        rfl
      have hmark : (host.engine.mark none (host.engine.run task (taken s queue))).moment =
          Deed.act s₁.moment (.mark none) := by
        have hended : (host.engine.run task (taken s queue)).moment = s₁.moment := by
          rw [moment_run, hrun]
        rw [← hended]
        rfl
      rw [hmoment, hmark, hdeeds, htaken, List.foldl_append, List.foldl_append, List.foldl_append]
      rfl

/-- Whatever is done to a fresh queue, by those who use it and by the tasks that run, each task is
    accounted for at every moment; and once all is run that is due, nothing is left behind that
    is, whatever tasks have ended with. -/
theorem Orderly.conserves (hhost : host.Orderly) {now : Int} {deeds : List (Deed (Task κ))}
    (hs : s.moment = after now deeds) (room : Nat) :
    (∃ more, host.Drains room s more (host.engine.runPending room s)) ∧
      ∀ more count s', host.Drains room s more (count, s') →
        host.engine.runPending room s = (count, s') ∧
        s'.moment = after now (deeds ++ more) ∧
        (∀ done, done <+: deeds ++ more → Accounted now done) ∧
        (count < room → s'.queue.stopping = false → TaskQueue.Drained now (deeds ++ more)) := by
  refine ⟨hhost.exists_drains room s, fun more count s' hdrains => ?_⟩
  obtain ⟨hpending, hmoment, hidle⟩ := hdrains.spec
  rw [hs, after, ← List.foldl_append] at hmoment
  refine ⟨hpending, hmoment, fun done _ => TaskQueue.accounted now done, fun hcount hstopping => ?_⟩
  have hqueue : s'.queue = (after now (deeds ++ more)).1 := congrArg Prod.fst hmoment
  have hclock : s'.clock = (after now (deeds ++ more)).2 := congrArg Prod.snd hmoment
  have hready := hidle hcount hstopping
  dsimp only at hready
  rw [hqueue, hclock] at hready
  rw [hqueue] at hstopping
  exact TaskQueue.drained_of_ready_promote hstopping hready

/-- A host whose clients have numbers for tasks. The task zero cancels the first delayed task, posts
    the task one and lets another wait, and fails; the others do nothing. -/
def clumsy : Host Unit Nat where
  setup := {}
  answer _ := throw (.plain "gone")
  observe _ _ := ()
  client
    | 0 => do
      modify fun s =>
        { s with queue := (((s.queue.cancel 1).2.post (.client 1)).postDelayed s.clock 5 (.client 2)).2 }
      throw (.plain "failed")
    | _ + 1 => pure ()
  patience := 9

theorem orderly_clumsy : clumsy.Orderly where
  answer _ _ := ⟨[], rfl⟩
  client task _ := by
    cases task with
    | zero => exact ⟨[.cancel 1, .post (.client 1), .postDelayed 5 (.client 2)], rfl⟩
    | succ => exact ⟨[], rfl⟩

/-- What is done before the tasks run: three is delayed, zero and four are posted. -/
def clumsyDeeds : List (Deed (Task Nat)) :=
  [.postDelayed 10 (.client 3), .post (.client 0), .post (.client 4)]

/-- Three is cancelled by zero, which fails; four starts behind it, and so does one, which zero has
    posted; two waits. -/
theorem Orderly.conserves_of_failure :
    ∃ (more : List (Deed (Task Nat))) (s' : System Unit Nat),
      clumsy.Drains 9 { queue := (after 0 clumsyDeeds).1, world := () } more (3, s') ∧
        TaskQueue.Drained 0 (clumsyDeeds ++ more) ∧
        (Roster.of 0 (clumsyDeeds ++ more)).started = [1, 2, 3] ∧
        (Roster.of 0 (clumsyDeeds ++ more)).canceled = [0] ∧
        (Roster.of 0 (clumsyDeeds ++ more)).queue.delayed = [⟨5, 2, (4, .client 2)⟩] := by
  let start : System Unit Nat := { queue := (after 0 clumsyDeeds).1, world := () }
  let marked (deeds : List (Deed (Task Nat))) : List (Deed (Task Nat)) :=
    [.pop, .mark (some (.client 0))] ++ deeds ++ [.mark none]
  have hdrains : clumsy.Drains 9 start
      (marked [.cancel 1, .post (.client 1), .postDelayed 5 (.client 2)] ++
        (marked [] ++ (marked [] ++ [.pop]))) (3, _) :=
    .ran rfl rfl rfl rfl (.ran rfl rfl rfl rfl (.ran rfl rfl rfl rfl (.idle rfl rfl)))
  have hstart : start.moment = after 0 clumsyDeeds := rfl
  obtain ⟨-, hconserves⟩ := orderly_clumsy.conserves hstart 9
  obtain ⟨-, -, -, hdrained⟩ := hconserves _ _ _ hdrains
  exact ⟨_, _, hdrains, hdrained (by decide) rfl, by decide, by decide, by decide⟩

end Host

end Fingerprint
