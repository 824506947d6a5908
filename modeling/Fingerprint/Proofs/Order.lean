import Mathlib.Data.List.Nodup
import Fingerprint.Proofs.Queue

/-!
# The order in which tasks start

What happens to a queue, seen from outside, is a list of incidents: tasks are
posted, delayed or cancelled, and the next one is taken. Of these the rules of
the queue say which tasks get ready, and in which order: one that is posted
does so at once, a delayed one at the first pop at or after its due time,
behind all that are ready by then, those that get ready together in the order
of their due times, and of their numbers. That is the `Timetable`. Whatever is
done to a queue, tasks start in the order of the timetable.

* `TaskQueue.Incident`, `TaskQueue.Runs`: what is done to a queue, by its users
  and by the tasks themselves;
* `TaskQueue.Timetable`: which tasks get ready, by the rules;
* `TaskQueue.Keeps`: a queue keeps to the timetable, which every step preserves
  (`TaskQueue.Step.keeps`);
* `TaskQueue.InTurn`: what follows for the tasks that start;
* `Engine.Program`: what is done with an engine, by those who use it and by its
  tasks;
* `Engine.Program.starts_in_turn`.
-/

namespace Fingerprint

namespace Delayed

variable {τ : Type} {a b c : Delayed τ}

theorem before_iff : a.before b ↔ a.due < b.due ∨ a.due = b.due ∧ a.id < b.id := by
  simp [before]

/-- Whether a task does not come after another. -/
def notAfter (a b : Delayed τ) : Bool := !b.before a

theorem notAfter_iff : a.notAfter b ↔ a.due < b.due ∨ a.due = b.due ∧ a.id ≤ b.id := by
  rw [notAfter, Bool.not_eq_true', Bool.eq_false_iff, Ne, before_iff]
  omega

theorem notAfter_of_before (h : a.before b) : a.notAfter b := by
  rw [before_iff] at h
  rw [notAfter_iff]
  omega

theorem before_trans (hab : a.before b) (hbc : b.before c) : a.before c := by
  rw [before_iff] at *
  omega

end Delayed

namespace TaskQueue

variable {τ : Type} {q q' : TaskQueue τ} {now : Int} {d : Delayed τ}

/-! ## Incidents -/

/-- What happens to a queue. -/
inductive Incident (τ : Type) where
  | posted (task : τ)
  /-- A task is delayed, until the due time and under the number in `d`. -/
  | delayed (d : Delayed τ)
  /-- The delayed task with a number is cancelled. -/
  | canceled (id : Nat)
  /-- The next task is taken at a time and starts, if there is one. -/
  | popped (now : Int) (next : Option τ)

/-- What can be done to a queue at a time, with what happens. -/
inductive Step : TaskQueue τ × Int → List (Incident τ) → TaskQueue τ × Int → Prop
  | post {q : TaskQueue τ} {now : Int} (task : τ) : Step (q, now) [.posted task] (q.post task, now)
  | postDelayed {q : TaskQueue τ} {now : Int} (delay : Int) (task : τ) :
      Step (q, now) [.delayed ⟨now + max delay 0, (q.postDelayed now delay task).1, task⟩]
        ((q.postDelayed now delay task).2, now)
  | cancel {q : TaskQueue τ} {now : Int} (id : Nat) :
      Step (q, now) (if (q.cancel id).1 then [.canceled id] else []) ((q.cancel id).2, now)
  | advance {q : TaskQueue τ} {now later : Int} (h : now ≤ later) : Step (q, now) [] (q, later)
  | pop {q : TaskQueue τ} {now : Int} :
      Step (q, now) [.popped now (q.pop now).1] ((q.pop now).2, now)
  /-- Somebody is marked as running tasks. -/
  | mark {q : TaskQueue τ} {now : Int} (executing : Option Thread) :
      Step (q, now) [] ({ q with executing }, now)

/-- What is done to a queue, step by step, with all that happens. -/
inductive Runs (start : TaskQueue τ × Int) : List (Incident τ) → TaskQueue τ × Int → Prop
  | refl : Runs start [] start
  | tail {incidents more : List (Incident τ)} {moment later : TaskQueue τ × Int}
      (h : Runs start incidents moment) (hstep : Step moment more later) :
      Runs start (incidents ++ more) later

theorem Runs.single {start later : TaskQueue τ × Int} {incidents : List (Incident τ)}
    (h : Step start incidents later) : Runs start incidents later :=
  .tail .refl h

theorem Runs.trans {start moment later : TaskQueue τ × Int} {incidents more : List (Incident τ)}
    (h : Runs start incidents moment) (hmore : Runs moment more later) :
    Runs start (incidents ++ more) later := by
  induction hmore with
  | refl => rwa [List.append_nil]
  | tail _ hstep ih =>
    rw [← List.append_assoc]
    exact ih.tail hstep

/-- The tasks that are posted, in order. -/
def posts (incidents : List (Incident τ)) : List τ :=
  incidents.filterMap fun
    | .posted task => some task
    | _ => none

/-- The tasks that start, in order, with the times at which they do. -/
def starts (incidents : List (Incident τ)) : List (τ × Int) :=
  incidents.filterMap fun
    | .popped now (some task) => some (task, now)
    | _ => none

theorem starts_append (incidents more : List (Incident τ)) :
    starts (incidents ++ more) = starts incidents ++ starts more :=
  List.filterMap_append

/-! ## The timetable -/

/-- A task that gets ready. -/
inductive Arrival (τ : Type) where
  | posted (task : τ)
  | delayed (d : Delayed τ)

namespace Arrival

def task : Arrival τ → τ
  | posted task => task
  | delayed d => d.task

/-- The task, if it was posted. -/
def posted? : Arrival τ → Option τ
  | posted task => some task
  | delayed _ => none

/-- The task with its due time and number, if it was delayed. -/
def delayed? : Arrival τ → Option (Delayed τ)
  | posted _ => none
  | delayed d => some d

end Arrival

/-- What is to be expected of a queue by its rules. -/
structure Timetable (τ : Type) where
  /-- The delayed tasks that are neither cancelled nor ready, in the order in which they came. -/
  waiting : List (Delayed τ) := []
  /-- The tasks that have got ready so far, in the order in which they have. -/
  arrivals : List (Arrival τ) := []

namespace Timetable

/-- The delayed tasks that get ready at a time, in the order in which they do. -/
def dueAt (table : Timetable τ) (now : Int) : List (Delayed τ) :=
  (table.waiting.filter (·.due ≤ now)).mergeSort Delayed.notAfter

/-- What the rules say on an incident. -/
def note (table : Timetable τ) : Incident τ → Timetable τ
  | .posted task => { table with arrivals := table.arrivals ++ [.posted task] }
  | .delayed d => { table with waiting := table.waiting ++ [d] }
  | .canceled id => { table with waiting := table.waiting.filter (·.id != id) }
  | .popped now _ =>
    { waiting := table.waiting.filter (now < ·.due)
      arrivals := table.arrivals ++ (table.dueAt now).map .delayed }

/-- The timetable after some incidents. -/
def of (incidents : List (Incident τ)) : Timetable τ := incidents.foldl note {}

theorem of_append (incidents more : List (Incident τ)) :
    of (incidents ++ more) = more.foldl note (of incidents) :=
  List.foldl_append

/-- The delayed tasks among those that have got ready, in the order in which they have. -/
def delayedArrivals (table : Timetable τ) : List (Delayed τ) :=
  table.arrivals.filterMap (·.delayed?)

end Timetable

/-! ## Delayed tasks in order -/

/-- The delayed tasks are in the order of their due times and numbers. -/
def Sorted (q : TaskQueue τ) : Prop := q.delayed.Pairwise fun a b => a.before b

theorem Sorted.inOrder (h : q.Sorted) : q.InOrder :=
  h.imp fun hbefore => by
    rw [Delayed.before_iff] at hbefore
    omega

theorem sorted_insert {tasks : List (Delayed τ)} (h : tasks.Pairwise fun a b => a.before b)
    (hid : ∀ e ∈ tasks, e.id ≠ d.id) : (insert d tasks).Pairwise fun a b => a.before b := by
  induction tasks with
  | nil => exact List.pairwise_singleton _ _
  | cons other rest ih =>
    obtain ⟨hother, hrest⟩ := List.pairwise_cons.1 h
    rw [insert]
    split
    · next hbefore =>
      refine List.pairwise_cons.2 ⟨fun e he => ?_, h⟩
      rcases List.mem_cons.1 he with rfl | he
      · exact hbefore
      · exact Delayed.before_trans hbefore (hother e he)
    · next hbefore =>
      have hlater : other.before d := by
        have hne := hid other List.mem_cons_self
        rw [Delayed.before_iff] at hbefore ⊢
        omega
      refine List.pairwise_cons.2 ⟨fun e he => ?_, ih hrest fun e he => hid e (List.mem_cons_of_mem _ he)⟩
      rcases mem_insert.1 he with rfl | he
      · exact hlater
      · exact hother e he

theorem Sorted.postDelayed (h : q.Sorted) (hindexed : q.Indexed) (now delay : Int) (task : τ) :
    (q.postDelayed now delay task).2.Sorted := by
  rw [TaskQueue.postDelayed]
  split
  · exact h
  · exact sorted_insert h fun e he => Nat.ne_of_lt (hindexed.given e he).2

/-- Where a list is in order, the tasks that are due come first. -/
theorem takeWhile_due {tasks : List (Delayed τ)} (h : tasks.Pairwise fun a b => a.due ≤ b.due) :
    tasks.takeWhile (fun d => d.due ≤ now) = tasks.filter (·.due ≤ now) ∧
      tasks.dropWhile (fun d => d.due ≤ now) = tasks.filter (now < ·.due) := by
  induction tasks with
  | nil => exact ⟨rfl, rfl⟩
  | cons first rest ih =>
    obtain ⟨hfirst, hrest⟩ := List.pairwise_cons.1 h
    by_cases hdue : first.due ≤ now
    · obtain ⟨htake, hdrop⟩ := ih hrest
      simp [hdue, htake, hdrop, Int.not_lt.2 hdue]
    · have hlate : ∀ d ∈ first :: rest, now < d.due := fun d hd => by
        rcases List.mem_cons.1 hd with rfl | hd
        · omega
        · have := hfirst d hd
          omega
      constructor
      · rw [List.takeWhile_cons_of_neg (by simpa using hdue), eq_comm, List.filter_eq_nil_iff]
        intro d hd
        simpa using hlate d hd
      · rw [List.dropWhile_cons_of_neg (by simpa using hdue), eq_comm, List.filter_eq_self]
        intro d hd
        simpa using hlate d hd

theorem dueAt_eq_filter (h : q.InOrder) (now : Int) : q.dueAt now = q.delayed.filter (·.due ≤ now) :=
  (takeWhile_due h).1

theorem delayed_promote (h : q.InOrder) (now : Int) :
    (q.promote now).delayed = q.delayed.filter (now < ·.due) :=
  (takeWhile_due h).2

theorem Indexed.eq_of_id (h : q.Indexed) {e : Delayed τ} (hd : d ∈ q.delayed) (he : e ∈ q.delayed)
    (hid : d.id = e.id) : d = e :=
  List.inj_on_of_nodup_map (List.pairwise_map.2 h.distinct) hd he hid

/-! ## Keeping to the timetable -/

/-- A queue keeps to the timetable, up to a time, where some tasks have started. -/
structure Keeps (q : TaskQueue τ) (now : Int) (table : Timetable τ) (started : List (τ × Int)) : Prop where
  accepting : q.stopping = false
  sorted : q.Sorted
  indexed : q.Indexed
  waiting : table.waiting.Perm q.delayed
  /-- What has got ready has started since, or is ready still. -/
  fifo : table.arrivals.map (·.task) = started.map (·.1) ++ q.ready
  ordered : table.delayedArrivals.Pairwise fun a b => a.before b
  /-- Whatever is delayed comes after all that got ready. -/
  ahead : ∀ d ∈ table.delayedArrivals, ∀ e ∈ q.delayed, d.before e
  past : ∀ d ∈ table.delayedArrivals, d.due ≤ now ∧ d.id < q.nextId
  onTime : ∀ (i : Nat) (d : Delayed τ) (start : τ × Int),
    table.arrivals[i]? = some (.delayed d) → started[i]? = some start → d.due ≤ start.2

namespace Keeps

variable {table : Timetable τ} {started : List (τ × Int)}

theorem fresh (now : Int) : Keeps ({} : TaskQueue τ) now {} [] where
  accepting := rfl
  sorted := .nil
  indexed := .empty
  waiting := .nil
  fifo := rfl
  ordered := .nil
  ahead d hd := absurd hd List.not_mem_nil
  past d hd := absurd hd List.not_mem_nil
  onTime i d start hd := by cases hd

theorem length_started_le (h : Keeps q now table started) : started.length ≤ table.arrivals.length := by
  have hlength := congrArg List.length h.fifo
  rw [List.length_map, List.length_append, List.length_map] at hlength
  omega

/-- What gets ready later makes no difference to what has started. -/
theorem onTime_append (h : Keeps q now table started) (more : List (Arrival τ)) (i : Nat)
    (d : Delayed τ) (start : τ × Int) (hd : (table.arrivals ++ more)[i]? = some (.delayed d))
    (hstart : started[i]? = some start) : d.due ≤ start.2 := by
  obtain ⟨hi, -⟩ := List.getElem?_eq_some_iff.1 hstart
  rw [List.getElem?_append_left (Nat.lt_of_lt_of_le hi h.length_started_le)] at hd
  exact h.onTime i d start hd hstart

theorem advance (h : Keeps q now table started) {later : Int} (hlater : now ≤ later) :
    Keeps q later table started :=
  { h with past := fun d hd => ⟨Int.le_trans (h.past d hd).1 hlater, (h.past d hd).2⟩ }

theorem mark (h : Keeps q now table started) (executing : Option Thread) :
    Keeps { q with executing } now table started :=
  ⟨h.accepting, h.sorted, ⟨h.indexed.next, h.indexed.distinct, h.indexed.given, h.indexed.times⟩,
    h.waiting, h.fifo, h.ordered, h.ahead, h.past, h.onTime⟩

theorem post (h : Keeps q now table started) (task : τ) :
    Keeps (q.post task) now (table.note (.posted task)) started := by
  have hpost : q.post task = { q with ready := q.ready ++ [task] } := by
    rw [TaskQueue.post, if_neg (by simp [h.accepting])]
  have hindexed : (q.post task).Indexed := h.indexed.post
  have hdelayed : (table.note (.posted task)).delayedArrivals = table.delayedArrivals := by
    simp [Timetable.delayedArrivals, Timetable.note, Arrival.delayed?]
  rw [hpost] at hindexed ⊢
  refine ⟨h.accepting, h.sorted, hindexed, h.waiting, ?_, ?_, ?_, ?_, h.onTime_append _⟩
  · simp only [Timetable.note, List.map_append, h.fifo, List.append_assoc]
    rfl
  all_goals rw [hdelayed]
  · exact h.ordered
  · exact h.ahead
  · exact h.past

theorem postDelayed (h : Keeps q now table started) (delay : Int) (task : τ) :
    Keeps (q.postDelayed now delay task).2 now
      (table.note (.delayed ⟨now + max delay 0, (q.postDelayed now delay task).1, task⟩)) started := by
  have hsorted := h.sorted.postDelayed h.indexed now delay task
  have hindexed : (q.postDelayed now delay task).2.Indexed := h.indexed.postDelayed
  rw [TaskQueue.postDelayed, if_neg (by simp [h.accepting])] at hsorted hindexed ⊢
  refine { h with
    sorted := hsorted
    indexed := hindexed
    waiting := ?_
    ahead := fun d hd e he => ?_
    past := fun d hd => ⟨(h.past d hd).1, Nat.lt_succ_of_lt (h.past d hd).2⟩ }
  · refine .trans ?_ (insert_perm _).symm
    exact (List.perm_append_singleton _ _).trans (h.waiting.cons _)
  · obtain ⟨hdue, hid⟩ := h.past d hd
    rcases mem_insert.1 he with rfl | he
    · -- It is due no earlier than now, and its number is above all others.
      rw [Delayed.before_iff]
      dsimp only
      omega
    · exact h.ahead d hd e he

theorem cancel (h : Keeps q now table started) (id : Nat) :
    Keeps (q.cancel id).2 now (table.note (.canceled id)) started where
  accepting := by
    rw [stopping_cancel]
    exact h.accepting
  sorted := h.sorted.sublist delayed_cancel_sublist
  indexed := h.indexed.cancel
  waiting := by
    rw [delayed_cancel h.indexed]
    exact h.waiting.filter _
  fifo := by
    rw [ready_cancel]
    exact h.fifo
  ordered := h.ordered
  ahead d hd e he := h.ahead d hd e (delayed_cancel_sublist.subset he)
  past := by
    rw [nextId_cancel]
    exact h.past
  onTime := h.onTime

/-! ### Pops -/

/-- The tasks that get ready by the timetable are those that the queue makes ready. -/
theorem dueAt_eq (h : Keeps q now table started) (later : Int) :
    table.dueAt later = q.dueAt later := by
  rw [dueAt_eq_filter h.sorted.inOrder, Timetable.dueAt]
  have hperm := (List.mergeSort_perm _ Delayed.notAfter).trans
    (h.waiting.filter fun d : Delayed τ => d.due ≤ later)
  have hsorted : (table.dueAt later).Pairwise fun a b => a.notAfter b :=
    List.pairwise_mergeSort
      (fun a b c hab hbc => by
        rw [Delayed.notAfter_iff] at *
        omega)
      (fun a b => by
        rw [Bool.or_eq_true, Delayed.notAfter_iff, Delayed.notAfter_iff]
        omega) _
  refine hperm.eq_of_pairwise (fun a b ha hb hab hba => ?_) hsorted
    ((h.sorted.filter _).imp Delayed.notAfter_of_before)
  rw [Delayed.notAfter_iff] at hab hba
  refine h.indexed.eq_of_id ?_ (List.mem_filter.1 hb).1 (by omega)
  exact (List.mem_filter.1 (hperm.mem_iff.1 ha)).1

theorem delayedArrivals_pop (h : Keeps q now table started) (next : Option τ) :
    (table.note (.popped now next)).delayedArrivals = table.delayedArrivals ++ q.dueAt now := by
  simp [Timetable.delayedArrivals, Timetable.note, h.dueAt_eq, Arrival.delayed?]

theorem past_pop (h : Keeps q now table started) (next : Option τ) (d : Delayed τ)
    (hd : d ∈ (table.note (.popped now next)).delayedArrivals) : d.due ≤ now ∧ d.id < q.nextId := by
  rw [h.delayedArrivals_pop next, List.mem_append] at hd
  rcases hd with hd | hd
  · exact h.past d hd
  · obtain ⟨hmem, hdue⟩ := (mem_takeWhile_due h.sorted.inOrder).1 hd
    exact ⟨hdue, (h.indexed.given d hmem).2⟩

/-- The queue keeps to the timetable once the due tasks are ready, before one is taken. -/
theorem promote (h : Keeps q now table started) (next : Option τ) :
    Keeps (q.promote now) now (table.note (.popped now next)) started := by
  have hsorted := h.sorted
  rw [Sorted, ← dueAt_append q now, List.pairwise_append] at hsorted
  obtain ⟨hdue, hlate, hahead⟩ := hsorted
  have hdelayed := h.delayedArrivals_pop next
  refine ⟨h.accepting, hlate, h.indexed.promote now, ?_, ?_, ?_, ?_, h.past_pop next, h.onTime_append _⟩
  · rw [delayed_promote h.sorted.inOrder]
    exact h.waiting.filter _
  · simp only [Timetable.note, List.map_append, h.fifo, h.dueAt_eq, List.map_map, ready_promote,
      List.append_assoc]
    rfl
  · rw [hdelayed, List.pairwise_append]
    exact ⟨h.ordered, hdue, fun d hd e he => h.ahead d hd e (List.takeWhile_subset _ he)⟩
  · rw [hdelayed]
    intro d hd e he
    rcases List.mem_append.1 hd with hd | hd
    · exact h.ahead d hd e (delayed_promote_sublist.subset he)
    · exact hahead d hd e he

/-- The first of the ready tasks starts. -/
theorem start (h : Keeps q now table started) {task : τ} {rest : List τ} (hready : q.ready = task :: rest) :
    Keeps { q with ready := rest } now table (started ++ [(task, now)]) where
  accepting := h.accepting
  sorted := h.sorted
  indexed := ⟨h.indexed.next, h.indexed.distinct, h.indexed.given, h.indexed.times⟩
  waiting := h.waiting
  fifo := by simp [h.fifo, hready]
  ordered := h.ordered
  ahead := h.ahead
  past := h.past
  onTime i d start hd hstart := by
    by_cases hi : i < started.length
    · rw [List.getElem?_append_left hi] at hstart
      exact h.onTime i d start hd hstart
    · -- It is the one that starts now, and all that are ready are due by now.
      rw [List.getElem?_append_right (Nat.le_of_not_lt hi)] at hstart
      obtain rfl := List.mem_singleton.1 (List.mem_of_getElem? hstart)
      exact (h.past d (List.mem_filterMap.2 ⟨_, List.mem_of_getElem? hd, rfl⟩)).1

theorem pop (h : Keeps q now table started) :
    Keeps (q.pop now).2 now (table.note (.popped now (q.pop now).1))
      (started ++ starts [.popped now (q.pop now).1]) := by
  cases hpop : q.pop now with
  | mk next q' =>
    have hpromoted := h.promote next
    cases next with
    | none =>
      obtain ⟨-, rfl⟩ := pop_eq_none hpop
      rwa [show starts [Incident.popped now (none : Option τ)] = [] from rfl, List.append_nil]
    | some task =>
      obtain ⟨hready, hq'⟩ := pop_eq_some hpop
      rw [hq']
      exact hpromoted.start hready

end Keeps

variable {incidents more : List (Incident τ)} {moment later : TaskQueue τ × Int}

/-- Whatever is done to a queue, it keeps to the timetable. -/
theorem Step.keeps (hstep : Step moment more later)
    (h : Keeps moment.1 moment.2 (Timetable.of incidents) (starts incidents)) :
    Keeps later.1 later.2 (Timetable.of (incidents ++ more)) (starts (incidents ++ more)) := by
  rw [Timetable.of_append, starts_append]
  cases hstep with
  | post task =>
    rw [show starts [Incident.posted task] = [] from rfl, List.append_nil]
    exact h.post task
  | postDelayed delay task =>
    rw [show starts [Incident.delayed _] = [] from rfl, List.append_nil]
    exact h.postDelayed delay task
  | @cancel q now id =>
    cases hfound : (q.cancel id).1 with
    | true =>
      rw [if_pos rfl, show starts [Incident.canceled id] = ([] : List (τ × Int)) from rfl, List.append_nil]
      exact h.cancel id
    | false =>
      rw [if_neg Bool.false_ne_true, cancel_of_not_found hfound, show starts (τ := τ) [] = [] from rfl,
        List.append_nil]
      exact h
  | advance hlater =>
    rw [show starts (τ := τ) [] = [] from rfl, List.append_nil]
    exact h.advance hlater
  | pop => exact h.pop
  | mark executing =>
    rw [show starts (τ := τ) [] = [] from rfl, List.append_nil]
    exact h.mark executing

theorem Runs.keeps {now : Int} (h : Runs ({}, now) incidents moment) :
    Keeps moment.1 moment.2 (Timetable.of incidents) (starts incidents) := by
  induction h with
  | refl => exact .fresh now
  | tail _ hstep ih => exact hstep.keeps ih

/-! ## The order of starts -/

/-- What gets ready by further incidents does so behind all else, and what is posted by them
    is part of it. -/
theorem exists_later_arrivals (table : Timetable τ) (more : List (Incident τ)) :
    ∃ after, (more.foldl Timetable.note table).arrivals = table.arrivals ++ after ∧
      after.filterMap (·.posted?) = posts more := by
  induction more generalizing table with
  | nil => exact ⟨[], (List.append_nil _).symm, rfl⟩
  | cons incident more ih =>
    obtain ⟨after, harrivals, hposted⟩ := ih (table.note incident)
    rw [List.foldl_cons, harrivals]
    cases incident with
    | posted task =>
      exact ⟨.posted task :: after, List.append_assoc .., congrArg (task :: ·) hposted⟩
    | delayed d => exact ⟨after, rfl, hposted⟩
    | canceled id => exact ⟨after, rfl, hposted⟩
    | popped now next =>
      refine ⟨(table.dueAt now).map .delayed ++ after, List.append_assoc .., ?_⟩
      have hdelayed : ((table.dueAt now).map Arrival.delayed).filterMap (·.posted?) = [] := by
        simp [Arrival.posted?]
      rw [List.filterMap_append, hdelayed, hposted]
      rfl

theorem posted_arrivals (incidents : List (Incident τ)) :
    (Timetable.of incidents).arrivals.filterMap (·.posted?) = posts incidents := by
  obtain ⟨after, harrivals, hposted⟩ := exists_later_arrivals {} incidents
  rw [Timetable.of, harrivals]
  exact hposted

/-- The tasks that have started, as they got ready. -/
def startedArrivals (incidents : List (Incident τ)) : List (Arrival τ) :=
  (Timetable.of incidents).arrivals.take (starts incidents).length

/-- Tasks start in turn. -/
structure InTurn (incidents : List (Incident τ)) (ready : List τ) : Prop where
  /-- They start in the order in which they get ready, and those that have not started are
      ready. -/
  fifo : (Timetable.of incidents).arrivals.map (·.task) = (starts incidents).map (·.1) ++ ready
  /-- Posted tasks start in the order in which they were posted, none being passed over. -/
  posted : (startedArrivals incidents).filterMap (·.posted?) <+: posts incidents
  /-- Delayed tasks start in the order of their due times and numbers. -/
  delayed : ((startedArrivals incidents).filterMap (·.delayed?)).Pairwise fun a b => a.before b
  /-- No delayed task starts before its due time. -/
  onTime : ∀ (i : Nat) (d : Delayed τ) (start : τ × Int),
    (startedArrivals incidents)[i]? = some (.delayed d) → (starts incidents)[i]? = some start → d.due ≤ start.2
  /-- A delayed task that is due at a pop comes before all that is posted after that pop. -/
  promoted : ∀ (earlier later : List (Incident τ)) (now : Int) (next : Option τ),
    incidents = earlier ++ .popped now next :: later →
      ∃ before after, (Timetable.of incidents).arrivals = before ++ after ∧
        (∀ d, .delayed d ∈ (Timetable.of earlier).arrivals ∨
          d ∈ (Timetable.of earlier).waiting ∧ d.due ≤ now → .delayed d ∈ before) ∧
        after.filterMap (·.posted?) = posts later

theorem exists_arrivals_of_pop (earlier later : List (Incident τ)) (now : Int) (next : Option τ) :
    ∃ before after,
      (Timetable.of (earlier ++ .popped now next :: later)).arrivals = before ++ after ∧
        (∀ d, .delayed d ∈ (Timetable.of earlier).arrivals ∨
          d ∈ (Timetable.of earlier).waiting ∧ d.due ≤ now → .delayed d ∈ before) ∧
        after.filterMap (·.posted?) = posts later := by
  obtain ⟨after, harrivals, hposted⟩ :=
    exists_later_arrivals ((Timetable.of earlier).note (.popped now next)) later
  rw [Timetable.of_append, List.foldl_cons]
  refine ⟨_, after, harrivals, ?_, hposted⟩
  rintro d (hd | ⟨hd, hdue⟩)
  · exact List.mem_append_left _ hd
  · refine List.mem_append_right _ (List.mem_map.2 ⟨d, ?_, rfl⟩)
    rw [Timetable.dueAt, List.mem_mergeSort]
    exact List.mem_filter.2 ⟨hd, by simpa using hdue⟩

theorem Keeps.inTurn {q : TaskQueue τ} {now : Int}
    (h : Keeps q now (Timetable.of incidents) (starts incidents)) : InTurn incidents q.ready where
  fifo := h.fifo
  posted := by
    rw [← posted_arrivals]
    exact (List.take_prefix _ _).filterMap _
  delayed := h.ordered.sublist ((List.take_sublist _ _).filterMap _)
  onTime i d start hd hstart := by
    refine h.onTime i d start ?_ hstart
    obtain ⟨hi, -⟩ := List.getElem?_eq_some_iff.1 hstart
    rwa [startedArrivals, List.getElem?_take_of_lt hi] at hd
  promoted earlier later now next hincidents := by
    rw [hincidents]
    exact exists_arrivals_of_pop earlier later now next

end TaskQueue

/-! ## Engines -/

namespace Engine

variable {σ τ : Type} {engine : Engine σ τ} {traces : τ → σ → List (TaskQueue.Incident τ)}

/-- Setting the queue of a state does that, and leaves the clock alone. -/
structure Lawful (engine : Engine σ τ) : Prop where
  queue_setQueue : ∀ q s, engine.queue (engine.setQueue q s) = q
  now_setQueue : ∀ q s, engine.now (engine.setQueue q s) = engine.now s

/-- The queue, and the time on its clock. -/
def moment (engine : Engine σ τ) (s : σ) : TaskQueue τ × Int := (engine.queue s, engine.now s)

/-- What happens to the queue while all is run that is due, where each task is known by what
    happens while it runs. -/
def incidents (engine : Engine σ τ) (traces : τ → σ → List (TaskQueue.Incident τ)) :
    (room : Nat) → σ → List (TaskQueue.Incident τ)
  | 0, _ => []
  | room + 1, s =>
    if (engine.queue s).stopping then []
    else
      match (engine.queue s).pop (engine.now s) with
      | (none, _) => [.popped (engine.now s) none]
      | (some task, q) =>
        let s' := engine.mark (some (engine.thread s)) (engine.setQueue q s)
        [.popped (engine.now s) (some task)] ++ traces task s' ++
          engine.incidents traces room (engine.mark none (engine.run task s'))

theorem Lawful.moment_setQueue (h : engine.Lawful) (q : TaskQueue τ) (s : σ) :
    engine.moment (engine.setQueue q s) = (q, engine.now s) := by
  rw [moment, h.queue_setQueue, h.now_setQueue]

theorem Lawful.runs_mark (h : engine.Lawful) (thread : Option Thread) (s : σ) :
    TaskQueue.Runs (engine.moment s) [] (engine.moment (engine.mark thread s)) := by
  rw [mark, h.moment_setQueue]
  exact .single (.mark thread)

/-- Running all that is due is done step by step. -/
theorem Lawful.runs_runPending (h : engine.Lawful)
    (htasks : ∀ task s, TaskQueue.Runs (engine.moment s) (traces task s) (engine.moment (engine.run task s)))
    (room : Nat) (s : σ) :
    TaskQueue.Runs (engine.moment s) (engine.incidents traces room s)
      (engine.moment (engine.runPending room s).2) := by
  induction room generalizing s with
  | zero => exact .refl
  | succ room ih =>
    have hpopped : TaskQueue.Step (engine.moment s)
        [.popped (engine.now s) ((engine.queue s).pop (engine.now s)).1]
        (((engine.queue s).pop (engine.now s)).2, engine.now s) := .pop
    rw [runPending, incidents]
    split
    · exact .refl
    · cases hpop : (engine.queue s).pop (engine.now s) with
      | mk next q =>
        rw [hpop] at hpopped
        cases next with
        | none =>
          dsimp only
          rw [h.moment_setQueue]
          exact .single hpopped
        | some task =>
          dsimp only
          set s' := engine.mark (some (engine.thread s)) (engine.setQueue q s) with hs'
          have hstart : TaskQueue.Runs (engine.moment s) [.popped (engine.now s) (some task)]
              (engine.moment s') := by
            have hmark := h.runs_mark (some (engine.thread s)) (engine.setQueue q s)
            rw [h.moment_setQueue] at hmark
            exact (TaskQueue.Runs.single hpopped).trans hmark
          have htask := (htasks task s').trans (h.runs_mark none _)
          rw [List.append_nil] at htask
          exact (hstart.trans htask).trans (ih _)

/-- What is done with an engine, with all that happens to its queue: steps on the queue, and
    running all that is due. -/
inductive Program (engine : Engine σ τ) (traces : τ → σ → List (TaskQueue.Incident τ)) (start : σ) :
    List (TaskQueue.Incident τ) → σ → Prop
  | refl : Program engine traces start [] start
  | step {incidents more : List (TaskQueue.Incident τ)} {s s' : σ}
      (h : Program engine traces start incidents s)
      (hstep : TaskQueue.Step (engine.moment s) more (engine.moment s')) :
      Program engine traces start (incidents ++ more) s'
  | runPending {incidents : List (TaskQueue.Incident τ)} {s : σ}
      (h : Program engine traces start incidents s) (room : Nat) :
      Program engine traces start (incidents ++ engine.incidents traces room s)
        (engine.runPending room s).2

variable {start s : σ} {incidents : List (TaskQueue.Incident τ)}

theorem Program.runs (h : engine.Program traces start incidents s) (hlawful : engine.Lawful)
    (htasks : ∀ task s, TaskQueue.Runs (engine.moment s) (traces task s) (engine.moment (engine.run task s))) :
    TaskQueue.Runs (engine.moment start) incidents (engine.moment s) := by
  induction h with
  | refl => exact .refl
  | step _ hstep ih => exact ih.tail hstep
  | runPending _ room ih => exact ih.trans (hlawful.runs_runPending htasks room _)

/-- Whatever is done with a fresh queue, by those who use it and by the tasks themselves,
    tasks start in turn. -/
theorem Program.starts_in_turn (h : engine.Program traces start incidents s)
    (hlawful : engine.Lawful) (hfresh : engine.queue start = {})
    (htasks : ∀ task s, TaskQueue.Runs (engine.moment s) (traces task s) (engine.moment (engine.run task s))) :
    TaskQueue.InTurn incidents (engine.queue s).ready := by
  have hruns := h.runs hlawful htasks
  rw [moment, hfresh] at hruns
  exact hruns.keeps.inTurn

/-- Tasks that are numbers. The task zero posts one, lets two wait for less than no time,
    cancels the first delayed task and takes seven milliseconds; the others do nothing. -/
def relay : Engine (TaskQueue Nat × Int) Nat where
  queue := (·.1)
  setQueue q s := (q, s.2)
  now := (·.2)
  thread _ := .client 0
  run
    | 0, (q, now) => ((((q.post 1).postDelayed now (-3) 2).2.cancel 1).2, now + 7)
    | _ + 1, s => s

/-- What happens to the queue while a number runs. -/
def relayTraces : Nat → TaskQueue Nat × Int → List (TaskQueue.Incident Nat)
  | 0, (q, now) =>
    let delayed := (q.post 1).postDelayed now (-3) 2
    [.posted 1, .delayed ⟨now + max (-3) 0, delayed.1, 2⟩] ++
      if (delayed.2.cancel 1).1 then [.canceled 1] else []
  | _ + 1, _ => []

theorem lawful_relay : relay.Lawful where
  queue_setQueue _ _ := rfl
  now_setQueue _ _ := rfl

theorem runs_relay (task : Nat) (s : TaskQueue Nat × Int) :
    TaskQueue.Runs (relay.moment s) (relayTraces task s) (relay.moment (relay.run task s)) := by
  cases task with
  | zero =>
    obtain ⟨q, now⟩ := s
    have hposted : TaskQueue.Runs (q, now) [.posted 1] (q.post 1, now) := .single (.post 1)
    have hcanceled := (hposted.tail (.postDelayed (-3) 2)).tail (.cancel 1)
    have hclock := hcanceled.tail (.advance (Int.le_add_of_nonneg_right (by decide : (0 : Int) ≤ 7)))
    rwa [List.append_nil] at hclock
  | succ => exact .refl

theorem Program.step_relay {start : TaskQueue Nat × Int} {moment later : TaskQueue Nat × Int}
    {incidents more : List (TaskQueue.Incident Nat)}
    (h : relay.Program relayTraces start incidents moment) (hstep : TaskQueue.Step moment more later) :
    relay.Program relayTraces start (incidents ++ more) later :=
  h.step hstep

/-- Three is delayed until ten and cancelled by zero; four is due at once; two, which zero
    delays, is due before five, and starts behind one, which is posted when zero runs. -/
theorem Program.starts_in_turn_of_relay :
    ∃ incidents s, relay.Program relayTraces ({}, 0) incidents s ∧ relay.Lawful ∧
      TaskQueue.starts incidents = [(0, 0), (4, 7), (1, 7), (2, 7), (5, 7)] ∧
      TaskQueue.InTurn incidents s.1.ready := by
  have hfresh : relay.Program relayTraces ({}, 0) [] ({}, 0) := .refl
  have hdelayed := (hfresh.step_relay (.postDelayed 10 3)).step_relay (.postDelayed 0 4)
  have hposted := (hdelayed.step_relay (.postDelayed 5 5)).step_relay (.post 0)
  have hdrained := hposted.runPending 9
  exact ⟨_, _, hdrained, lawful_relay, by decide,
    hdrained.starts_in_turn lawful_relay rfl runs_relay⟩

end Engine

end Fingerprint
