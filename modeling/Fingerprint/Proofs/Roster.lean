import Mathlib.Data.List.Perm.Basic
import Fingerprint.Proofs.Queue

/-!
# What becomes of tasks

Whatever is done to a queue is a list of deeds. To tell the tasks apart, even
those that are alike, they are numbered in the order in which they are
accepted. A roster keeps the numbers with the tasks on the queue, and notes
what becomes of each: it starts, it is cancelled, it is dropped when the queue
is stopped, or it still waits. Each number is in one of these places, and in
it once, whatever is done.

* `TaskQueue.Deed`, `TaskQueue.after`: what is done to a queue;
* `TaskQueue.Roster`: the numbers of the tasks, and what has become of them;
* `TaskQueue.Roster.Kept`: what every deed keeps;
* `TaskQueue.Accounted`, `TaskQueue.accounted`: what can be said at any moment.
-/

namespace Fingerprint

/-- The same delay for another task. -/
def Delayed.map {τ τ' : Type} (f : τ → τ') (d : Delayed τ) : Delayed τ' := ⟨d.due, d.id, f d.task⟩

namespace TaskQueue

variable {τ τ' : Type} {now : Int}

/-! ## Other tasks in the same places -/

/-- The queue with other tasks in the same places. -/
def map (f : τ → τ') (q : TaskQueue τ) : TaskQueue τ' where
  ready := q.ready.map f
  delayed := q.delayed.map (·.map f)
  dueTimes := q.dueTimes
  nextId := q.nextId
  started := q.started
  stopping := q.stopping
  executing := q.executing

/-! What the tasks are makes no difference to the queue. -/

theorem map_post (f : τ → τ') (q : TaskQueue τ) (task : τ) :
    (q.post task).map f = (q.map f).post (f task) := by
  by_cases hstopping : q.stopping = true
  · rw [post, if_pos hstopping, post, if_pos (show (q.map f).stopping = true from hstopping)]
  · rw [post, if_neg hstopping, post, if_neg (show ¬(q.map f).stopping = true from hstopping)]
    simp only [map, List.map_append, List.map_singleton]

theorem map_insert (f : τ → τ') (d : Delayed τ) (tasks : List (Delayed τ)) :
    (insert d tasks).map (·.map f) = insert (d.map f) (tasks.map (·.map f)) := by
  induction tasks with
  | nil => rfl
  | cons other rest ih =>
    have hbefore : (d.map f).before (other.map f) = d.before other := rfl
    rw [List.map_cons, insert, insert, hbefore]
    split
    · rfl
    · rw [List.map_cons, ih]

theorem map_postDelayed (f : τ → τ') (q : TaskQueue τ) (now delay : Int) (task : τ) :
    (q.postDelayed now delay task).2.map f = ((q.map f).postDelayed now delay (f task)).2 := by
  by_cases hstopping : q.stopping = true
  · rw [postDelayed, if_pos hstopping, postDelayed,
      if_pos (show (q.map f).stopping = true from hstopping)]
  · rw [postDelayed, if_neg hstopping, postDelayed,
      if_neg (show ¬(q.map f).stopping = true from hstopping)]
    simp only [map, map_insert]
    rfl

theorem map_cancel (f : τ → τ') (q : TaskQueue τ) (id : Nat) :
    (q.cancel id).2.map f = ((q.map f).cancel id).2 := by
  cases hlookup : q.dueTimes.lookup id with
  | none => simp only [cancel, map, hlookup]
  | some due =>
    simp only [cancel, map, hlookup, List.filter_map]
    rfl

theorem map_promote (f : τ → τ') (q : TaskQueue τ) (now : Int) :
    (q.promote now).map f = (q.map f).promote now := by
  simp only [promote, map, List.takeWhile_map, List.dropWhile_map, List.map_append, List.map_map,
    List.any_map]
  rfl

theorem map_pop (f : τ → τ') (q : TaskQueue τ) (now : Int) :
    (q.pop now).2.map f = ((q.map f).pop now).2 := by
  have hready : ((q.map f).promote now).ready = (q.promote now).ready.map f := by
    rw [← map_promote]
    rfl
  rw [pop, pop, hready, ← map_promote]
  cases (q.promote now).ready <;> rfl

/-! ## Deeds -/

/-- What can be done to a queue, and to its clock. -/
inductive Deed (τ : Type) where
  | post (task : τ)
  | postDelayed (delay : Int) (task : τ)
  | cancel (id : Nat)
  | stop (thread : Thread)
  /-- The clock gets to a time. -/
  | advance (later : Int)
  /-- The next task is taken and starts, if there is one. -/
  | pop
  /-- Somebody is marked as running tasks. -/
  | mark (executing : Option Thread)

/-- What a deed makes of a queue and its clock. -/
def Deed.act : TaskQueue τ × Int → Deed τ → TaskQueue τ × Int
  | (q, now), .post task => (q.post task, now)
  | (q, now), .postDelayed delay task => ((q.postDelayed now delay task).2, now)
  | (q, now), .cancel id => ((q.cancel id).2, now)
  | (q, now), .stop thread => (q.stop thread, now)
  | (q, _), .advance later => (q, later)
  | (q, now), .pop => ((q.pop now).2, now)
  | (q, now), .mark executing => ({ q with executing }, now)

/-- What deeds make of a fresh queue, and of a clock that stands at `now`. -/
def after (now : Int) (deeds : List (Deed τ)) : TaskQueue τ × Int := deeds.foldl Deed.act ({}, now)

/-! ## The roster -/

/-- The tasks with their numbers, and what has become of them. -/
structure Roster (τ : Type) where
  /-- The queue, each task with its number. -/
  queue : TaskQueue (Nat × τ) := {}
  now : Int
  /-- How many tasks were accepted. -/
  accepted : Nat := 0
  started : List Nat := []
  canceled : List Nat := []
  dropped : List Nat := []

namespace Roster

/-- The tasks that wait. -/
def waiting (roster : Roster τ) : List Nat :=
  roster.queue.ready.map (·.1) ++ roster.queue.delayed.map (·.task.1)

/-- How many tasks are accepted once there is one more to accept. A queue that was stopped
    accepts none. -/
def admitted (roster : Roster τ) : Nat :=
  if roster.queue.stopping then roster.accepted else roster.accepted + 1

/-- What is noted of a deed. -/
def note (roster : Roster τ) : Deed τ → Roster τ
  | .post task =>
    { roster with
      queue := roster.queue.post (roster.accepted, task)
      accepted := roster.admitted }
  | .postDelayed delay task =>
    { roster with
      queue := (roster.queue.postDelayed roster.now delay (roster.accepted, task)).2
      accepted := roster.admitted }
  | .cancel id =>
    let found := roster.queue.delayed.filter (·.id = id)
    { roster with
      queue := (roster.queue.cancel id).2
      canceled := roster.canceled ++ if (roster.queue.cancel id).1 then found.map (·.task.1) else [] }
  | .stop thread =>
    { roster with
      queue := roster.queue.stop thread
      dropped := roster.dropped ++ roster.waiting }
  | .advance later => { roster with now := later }
  | .pop =>
    let next := (roster.queue.pop roster.now).1
    { roster with
      queue := (roster.queue.pop roster.now).2
      started := roster.started ++ (next.map (·.1)).toList }
  | .mark executing => { roster with queue := { roster.queue with executing } }

/-- The roster of a fresh queue after deeds, the clock having stood at `now`. -/
def of (now : Int) (deeds : List (Deed τ)) : Roster τ := deeds.foldl note { now }

theorem of_append (now : Int) (deeds more : List (Deed τ)) :
    of now (deeds ++ more) = more.foldl note (of now deeds) :=
  List.foldl_append

/-- The queue and its clock, without the numbers. -/
def moment (roster : Roster τ) : TaskQueue τ × Int := (roster.queue.map (·.2), roster.now)

theorem moment_note (roster : Roster τ) (deed : Deed τ) :
    (roster.note deed).moment = Deed.act roster.moment deed := by
  cases deed with
  | post task => exact congrArg (·, roster.now) (map_post ..)
  | postDelayed delay task => exact congrArg (·, roster.now) (map_postDelayed ..)
  | cancel id => exact congrArg (·, roster.now) (map_cancel ..)
  | pop => exact congrArg (·, roster.now) (map_pop ..)
  | stop thread | advance later | mark executing => rfl

/-- The roster is one of the queue that the deeds are done to. -/
theorem moment_of (now : Int) (deeds : List (Deed τ)) : (of now deeds).moment = after now deeds :=
  (List.foldl_hom moment fun roster deed => (moment_note roster deed).symm).symm

/-! ## What every deed keeps -/

/-- Each number that was given is in one place, and the queue is in order. -/
structure Kept (roster : Roster τ) : Prop where
  indexed : roster.queue.Indexed
  inOrder : roster.queue.InOrder
  /-- A number is among those that have started, those that were cancelled or dropped, or those
      that wait, and it is there once. -/
  fates : (List.range roster.accepted).Perm
    (roster.started ++ roster.canceled ++ roster.dropped ++ roster.waiting)
  stopped : roster.queue.stopping = true → roster.queue.pending = 0
  dropped : roster.queue.stopping = false → roster.dropped = []

namespace Kept

variable {roster : Roster τ}

theorem fresh (now : Int) : Kept ({ now } : Roster τ) where
  indexed := .empty
  inOrder := .nil
  fates := .nil
  stopped := nofun
  dropped _ := rfl

/-- A number that is given to a task that waits. -/
theorem fates_accept (h : Kept roster) {waiting : List Nat}
    (hwaiting : waiting.Perm (roster.accepted :: roster.waiting)) :
    (List.range (roster.accepted + 1)).Perm
      (roster.started ++ roster.canceled ++ roster.dropped ++ waiting) := by
  rw [List.range_succ]
  refine (List.perm_append_singleton _ _).trans ((h.fates.cons _).trans ?_)
  exact List.perm_middle.symm.trans (hwaiting.symm.append_left _)

theorem waiting_post (roster : Roster τ) (x : Nat × τ) (h : roster.queue.stopping = false) :
    ({ roster with queue := roster.queue.post x } : Roster τ).waiting.Perm (x.1 :: roster.waiting) := by
  have hpost : roster.queue.post x = { roster.queue with ready := roster.queue.ready ++ [x] } := by
    rw [TaskQueue.post, if_neg (by simp [h])]
  simp only [hpost, waiting, List.map_append, List.append_assoc]
  exact List.perm_middle

theorem waiting_postDelayed (roster : Roster τ) (delay : Int) (x : Nat × τ)
    (h : roster.queue.stopping = false) :
    ({ roster with queue := (roster.queue.postDelayed roster.now delay x).2 } : Roster τ).waiting.Perm
      (x.1 :: roster.waiting) := by
  simp only [TaskQueue.postDelayed, h, waiting, Bool.false_eq_true, if_false]
  exact (((insert_perm _).map _).append_left _).trans List.perm_middle

theorem waiting_promote (roster : Roster τ) :
    ({ roster with queue := roster.queue.promote roster.now } : Roster τ).waiting = roster.waiting := by
  have hsplit := congrArg (List.map (·.task.1)) (roster.queue.dueAt_append roster.now)
  rw [List.map_append] at hsplit
  simp only [waiting, ready_promote, List.map_append, List.map_map, List.append_assoc, ← hsplit]
  rfl

theorem waiting_pop (roster : Roster τ) :
    roster.waiting = ((roster.queue.pop roster.now).1.map (·.1)).toList ++
      ({ roster with queue := (roster.queue.pop roster.now).2 } : Roster τ).waiting := by
  rw [← waiting_promote, pop]
  cases hready : (roster.queue.promote roster.now).ready with
  | nil => simp only [waiting, hready]; rfl
  | cons x rest => simp only [waiting, hready]; rfl

theorem waiting_cancel (h : Kept roster) (id : Nat) :
    roster.waiting.Perm ((roster.queue.delayed.filter (·.id = id)).map (·.task.1) ++
      ({ roster with queue := (roster.queue.cancel id).2 } : Roster τ).waiting) := by
  have hsplit : (roster.queue.delayed.filter (·.id = id) ++ (roster.queue.cancel id).2.delayed).Perm
      roster.queue.delayed := by
    rw [delayed_cancel h.indexed]
    exact List.filter_append_perm (fun d => d.id = id) roster.queue.delayed
  have hnumbers := hsplit.map (·.task.1)
  simp only [waiting, ready_cancel, List.perm_iff_count, List.count_append, List.map_append] at hnumbers ⊢
  intro n
  have := hnumbers n
  omega

/-- Numbers that leave those that wait are in one place again, whichever it is. -/
theorem fates_leave (h : Kept roster) {gone waiting : List Nat}
    (hwaiting : roster.waiting.Perm (gone ++ waiting)) :
    (List.range roster.accepted).Perm
        (roster.started ++ gone ++ roster.canceled ++ roster.dropped ++ waiting) ∧
      (List.range roster.accepted).Perm
        (roster.started ++ (roster.canceled ++ gone) ++ roster.dropped ++ waiting) ∧
      (List.range roster.accepted).Perm
        (roster.started ++ roster.canceled ++ (roster.dropped ++ gone) ++ waiting) := by
  have hfates := h.fates
  simp only [List.perm_iff_count, List.count_append] at hfates hwaiting ⊢
  refine ⟨fun n => ?_, fun n => ?_, fun n => ?_⟩ <;> have := hfates n <;> have := hwaiting n <;> omega

theorem post (h : Kept roster) (task : τ) : Kept (roster.note (.post task)) := by
  have hindexed : (roster.queue.post (roster.accepted, task)).Indexed := h.indexed.post
  cases hstopping : roster.queue.stopping with
  | true =>
    have hpost : roster.queue.post (roster.accepted, task) = roster.queue := by
      rw [TaskQueue.post, if_pos hstopping]
    simp only [note, hpost, admitted, hstopping, if_true]
    exact h
  | false =>
    have hfates := h.fates_accept (waiting_post roster (roster.accepted, task) hstopping)
    have hpost : (roster.queue.post (roster.accepted, task)).stopping = false := by
      rw [TaskQueue.post, if_neg (by simp [hstopping]), hstopping]
    simp only [note, admitted, hstopping, Bool.false_eq_true, if_false]
    refine ⟨hindexed, ?_, hfates, fun hstopped => ?_, fun _ => h.dropped hstopping⟩
    · rw [InOrder, delayed_post]
      exact h.inOrder
    · rw [hpost] at hstopped
      cases hstopped

theorem postDelayed (h : Kept roster) (delay : Int) (task : τ) :
    Kept (roster.note (.postDelayed delay task)) := by
  have hindexed : (roster.queue.postDelayed roster.now delay (roster.accepted, task)).2.Indexed :=
    h.indexed.postDelayed
  have hinOrder : (roster.queue.postDelayed roster.now delay (roster.accepted, task)).2.InOrder :=
    h.inOrder.postDelayed
  cases hstopping : roster.queue.stopping with
  | true =>
    have hpost : (roster.queue.postDelayed roster.now delay (roster.accepted, task)).2 = roster.queue := by
      rw [TaskQueue.postDelayed, if_pos hstopping]
    simp only [note, hpost, admitted, hstopping, if_true]
    exact h
  | false =>
    have hfates := h.fates_accept (waiting_postDelayed roster delay (roster.accepted, task) hstopping)
    have hpost : (roster.queue.postDelayed roster.now delay (roster.accepted, task)).2.stopping = false := by
      rw [TaskQueue.postDelayed, if_neg (by simp [hstopping]), hstopping]
    simp only [note, admitted, hstopping, Bool.false_eq_true, if_false]
    refine ⟨hindexed, hinOrder, hfates, fun hstopped => ?_, fun _ => h.dropped hstopping⟩
    rw [hpost] at hstopped
    cases hstopped

theorem cancel (h : Kept roster) (id : Nat) : Kept (roster.note (.cancel id)) where
  indexed := h.indexed.cancel
  inOrder := h.inOrder.cancel
  fates := by
    have hleave := (h.fates_leave (h.waiting_cancel id)).2.1
    cases hfound : (roster.queue.cancel id).1 with
    | true =>
      simp only [note, hfound, if_true]
      exact hleave
    | false =>
      simp only [note, hfound, Bool.false_eq_true, if_false, List.append_nil, cancel_of_not_found hfound]
      exact h.fates
  stopped hstopping := by
    rw [note, stopping_cancel] at hstopping
    have hlength : (roster.queue.cancel id).2.delayed.length ≤ roster.queue.delayed.length :=
      delayed_cancel_sublist.length_le
    have hpending := h.stopped hstopping
    simp only [note, pending, ready_cancel] at hpending ⊢
    omega
  dropped hstopping := by
    rw [note, stopping_cancel] at hstopping
    exact h.dropped hstopping

theorem pop (h : Kept roster) : Kept (roster.note .pop) where
  indexed := h.indexed.pop _
  inOrder := h.inOrder.pop _
  fates := by
    have hwaiting : roster.waiting.Perm _ := .of_eq (waiting_pop roster)
    exact (h.fates_leave hwaiting).1
  stopped hstopping := by
    rw [note, stopping_pop] at hstopping
    have hpending := h.stopped hstopping
    have hle : (roster.queue.pop roster.now).2.pending ≤ roster.queue.pending := pending_pop_le
    simp only [note]
    omega
  dropped hstopping := by
    rw [note, stopping_pop] at hstopping
    exact h.dropped hstopping

theorem stop (h : Kept roster) (thread : Thread) : Kept (roster.note (.stop thread)) where
  indexed := h.indexed.stop thread
  inOrder := .nil
  fates := by
    have hwaiting : roster.waiting.Perm (roster.waiting ++ []) := .of_eq (List.append_nil _).symm
    exact (h.fates_leave hwaiting).2.2
  stopped _ := rfl
  dropped hstopping := nomatch hstopping

/-- Every deed keeps the roster. -/
theorem note (h : Kept roster) (deed : Deed τ) : Kept (roster.note deed) := by
  cases deed with
  | post task => exact h.post task
  | postDelayed delay task => exact h.postDelayed delay task
  | cancel id => exact h.cancel id
  | stop thread => exact h.stop thread
  | pop => exact h.pop
  | advance later => exact ⟨h.indexed, h.inOrder, h.fates, h.stopped, h.dropped⟩
  | mark executing =>
    have hindexed := h.indexed
    exact ⟨⟨hindexed.next, hindexed.distinct, hindexed.given, hindexed.times⟩, h.inOrder, h.fates,
      h.stopped, h.dropped⟩

theorem foldl (h : Kept roster) (deeds : List (Deed τ)) : Kept (deeds.foldl Roster.note roster) := by
  induction deeds generalizing roster with
  | nil => exact h
  | cons deed rest ih => exact ih (h.note deed)

theorem of (now : Int) (deeds : List (Deed τ)) : Kept (Roster.of now deeds) :=
  (fresh now).foldl deeds

end Kept

/-! ## What stays as it is -/

variable {roster : Roster τ}

/-- What has become of a task stays so. -/
theorem canceled_subset_note (roster : Roster τ) (deed : Deed τ) :
    roster.canceled ⊆ (roster.note deed).canceled := by
  cases deed with
  | cancel id => exact List.subset_append_left _ _
  | _ => exact List.Subset.refl _

theorem canceled_subset_foldl (roster : Roster τ) (deeds : List (Deed τ)) :
    roster.canceled ⊆ (deeds.foldl note roster).canceled := by
  induction deeds generalizing roster with
  | nil => exact List.Subset.refl _
  | cons deed rest ih => exact List.Subset.trans (canceled_subset_note roster deed) (ih _)

/-- A queue that was stopped accepts no task and lets none start. -/
structure Closed (roster later : Roster τ) : Prop where
  stopping : later.queue.stopping = true
  pending : later.queue.pending = 0
  accepted : later.accepted = roster.accepted
  started : later.started = roster.started

theorem Closed.note {later : Roster τ} (h : Closed roster later) (hkept : later.Kept) (deed : Deed τ) :
    Closed roster (later.note deed) := by
  have hstopping : (later.note deed).queue.stopping = true := by
    cases deed with
    | post task => rw [Roster.note, TaskQueue.post, if_pos h.stopping]; exact h.stopping
    | postDelayed delay task => rw [Roster.note, TaskQueue.postDelayed, if_pos h.stopping]; exact h.stopping
    | cancel id => exact stopping_cancel.trans h.stopping
    | pop => exact stopping_pop.trans h.stopping
    | stop thread => rfl
    | advance later | mark executing => exact h.stopping
  refine ⟨hstopping, (hkept.note deed).stopped hstopping, ?_, ?_⟩
  · rw [← h.accepted]
    cases deed with
    | post task | postDelayed delay task => exact if_pos h.stopping
    | _ => rfl
  · rw [← h.started]
    cases deed with
    | pop =>
      -- Nothing waits that could start.
      have hwaiting := Kept.waiting_pop later
      have hnone : later.waiting = [] := by
        have hpending := h.pending
        rw [TaskQueue.pending, Nat.add_eq_zero_iff, List.length_eq_zero_iff, List.length_eq_zero_iff] at hpending
        rw [waiting, hpending.1, hpending.2]
        rfl
      rw [hnone, eq_comm, List.append_eq_nil_iff] at hwaiting
      rw [Roster.note, hwaiting.1, List.append_nil]
    | _ => rfl

theorem Closed.foldl {later : Roster τ} (h : Closed roster later) (hkept : later.Kept)
    (deeds : List (Deed τ)) : Closed roster (deeds.foldl Roster.note later) := by
  induction deeds generalizing later with
  | nil => exact h
  | cons deed rest ih => exact ih (h.note hkept deed) (hkept.note deed)

theorem Closed.stop (roster : Roster τ) (thread : Thread) : Closed roster (roster.note (.stop thread)) :=
  ⟨rfl, rfl, rfl, rfl⟩

end Roster

/-! ## What can be said at any moment -/

/-- What can be said once deeds are done to a fresh queue. -/
structure Accounted (now : Int) (deeds : List (Deed τ)) : Prop where
  /-- The roster has the tasks that wait on the queue. -/
  moment : (Roster.of now deeds).moment = after now deeds
  /-- Each task that was accepted is in one place: it has started, it was cancelled or dropped, or
      it waits; and it is there once. -/
  fates : (List.range (Roster.of now deeds).accepted).Perm
    ((Roster.of now deeds).started ++ (Roster.of now deeds).canceled ++
      (Roster.of now deeds).dropped ++ (Roster.of now deeds).waiting)
  /-- Tasks are dropped by a stop only. -/
  dropped : (after now deeds).1.stopping = false → (Roster.of now deeds).dropped = []
  /-- The due times are kept of exactly the delayed tasks, which have numbers of their own. -/
  indexed : (after now deeds).1.Indexed
  /-- A cancellation finds a task if it is delayed. -/
  cancels : ∀ id, ((after now deeds).1.cancel id).1 = true ↔ ∃ d ∈ (after now deeds).1.delayed, d.id = id
  /-- A task that was cancelled does not start any more. -/
  canceled : ∀ (before later : List (Deed τ)) (id : Nat), deeds = before ++ .cancel id :: later →
    ∀ d ∈ (Roster.of now before).queue.delayed, d.id = id →
      d.task.1 ∈ (Roster.of now deeds).canceled ∧ d.task.1 ∉ (Roster.of now deeds).started
  /-- From a stop on no task is accepted, none starts, and none waits. -/
  stopped : ∀ (before later : List (Deed τ)) (thread : Thread), deeds = before ++ .stop thread :: later →
    (Roster.of now deeds).accepted = (Roster.of now before).accepted ∧
      (Roster.of now deeds).started = (Roster.of now before).started ∧
      (after now deeds).1.pending = 0

theorem pending_map (f : τ → τ') (q : TaskQueue τ) : (q.map f).pending = q.pending := by
  simp only [pending, map, List.length_map]

theorem Indexed.map {q : TaskQueue τ} (h : q.Indexed) (f : τ → τ') : (q.map f).Indexed where
  next := h.next
  distinct := List.pairwise_map.2 h.distinct
  given d hd := by
    obtain ⟨e, he, rfl⟩ := List.mem_map.1 hd
    exact h.given e he
  times id due := by
    refine (h.times id due).trans ⟨?_, ?_⟩
    · rintro ⟨d, hd, hid, hdue⟩
      exact ⟨d.map f, List.mem_map_of_mem hd, hid, hdue⟩
    · rintro ⟨e, he, hid, hdue⟩
      obtain ⟨d, hd, rfl⟩ := List.mem_map.1 he
      exact ⟨d, hd, hid, hdue⟩

namespace Roster

variable {roster : Roster τ}

theorem nodup_fates (h : Kept roster) :
    (roster.started ++ roster.canceled ++ roster.dropped ++ roster.waiting).Nodup :=
  h.fates.nodup_iff.1 List.nodup_range

theorem not_started_of_canceled (h : Kept roster) {n : Nat} (hn : n ∈ roster.canceled) :
    n ∉ roster.started := fun hstarted => by
  have hnodup := nodup_fates h
  rw [List.append_assoc, List.append_assoc] at hnodup
  exact (List.nodup_append.1 hnodup).2.2 n hstarted n (List.mem_append_left _ hn) rfl

/-- A cancellation of a delayed task is noted. -/
theorem mem_canceled_note (h : Kept roster) {d : Delayed (Nat × τ)} (hd : d ∈ roster.queue.delayed) :
    d.task.1 ∈ (roster.note (.cancel d.id)).canceled := by
  have hfound := (cancel_iff h.indexed d.id).2 ⟨d, hd, rfl⟩
  rw [note, if_pos hfound]
  exact List.mem_append_right _ (List.mem_map.2 ⟨d, List.mem_filter.2 ⟨hd, decide_eq_true rfl⟩, rfl⟩)

end Roster

/-- Whatever is done to a queue, each task is accounted for. -/
theorem accounted (now : Int) (deeds : List (Deed τ)) : Accounted now deeds := by
  have hkept := Roster.Kept.of now deeds
  have hmoment := Roster.moment_of now deeds
  have hqueue : (Roster.of now deeds).queue.map (·.2) = (after now deeds).1 := congrArg Prod.fst hmoment
  have hindexed : (after now deeds).1.Indexed := hqueue ▸ hkept.indexed.map _
  refine ⟨hmoment, hkept.fates, ?_, hindexed, cancel_iff hindexed, ?_, ?_⟩
  · rw [← hqueue]
    exact hkept.dropped
  · rintro before later id rfl d hd rfl
    have hcanceled : d.task.1 ∈ (Roster.of now (before ++ .cancel d.id :: later)).canceled := by
      rw [Roster.of_append]
      exact Roster.canceled_subset_foldl _ later (Roster.mem_canceled_note (.of now before) hd)
    exact ⟨hcanceled, Roster.not_started_of_canceled hkept hcanceled⟩
  · rintro before later thread rfl
    have hclosed := (Roster.Closed.stop (Roster.of now before) thread).foldl
      ((Roster.Kept.of now before).note _) later
    rw [← hqueue, pending_map, Roster.of_append, List.foldl_cons]
    exact ⟨hclosed.accepted, hclosed.started, hclosed.pending⟩

end TaskQueue

end Fingerprint
