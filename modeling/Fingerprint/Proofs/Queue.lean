import Fingerprint.Proofs.Table
import Fingerprint.TaskQueue

/-!
# What waits on the queue

The delayed tasks wait in the order of their due times, so that exactly those
are made ready that are due. Which tasks are ready or delayed after each
operation on the queue follows from that.

* `TaskQueue.InOrder`: the delayed tasks are in order, which every operation
  keeps;
* `TaskQueue.Indexed`: they have numbers of their own, which is kept as well;
* `TaskQueue.mem_ready_promote`: what is ready once the due tasks are;
* `TaskQueue.pop_eq_some`, `TaskQueue.pop_eq_none`: what a pop does.
-/

namespace Fingerprint

namespace TaskQueue

variable {τ : Type} {q q' : TaskQueue τ} {now delay : Int} {task : τ} {id : Nat} {d : Delayed τ}

/-- The delayed tasks are in the order of their due times. -/
def InOrder (q : TaskQueue τ) : Prop := q.delayed.Pairwise fun a b => a.due ≤ b.due

theorem pairwise_insert {tasks : List (Delayed τ)} (h : tasks.Pairwise fun a b => a.due ≤ b.due) :
    (insert d tasks).Pairwise fun a b => a.due ≤ b.due := by
  induction tasks with
  | nil => exact List.pairwise_singleton _ _
  | cons other rest ih =>
    obtain ⟨hother, hrest⟩ := List.pairwise_cons.1 h
    rw [insert]
    -- Tasks that are due at one time may stand in either order.
    split
    · next hbefore =>
      have hdue : d.due ≤ other.due := by
        simp only [Delayed.before, Bool.or_eq_true, Bool.and_eq_true, decide_eq_true_eq] at hbefore
        omega
      refine List.pairwise_cons.2 ⟨fun e he => ?_, h⟩
      rcases List.mem_cons.1 he with rfl | he
      · exact hdue
      · exact Int.le_trans hdue (hother e he)
    · next hbefore =>
      have hdue : other.due ≤ d.due := by
        simp only [Delayed.before, Bool.or_eq_true, Bool.and_eq_true, decide_eq_true_eq] at hbefore
        omega
      refine List.pairwise_cons.2 ⟨fun e he => ?_, ih hrest⟩
      rcases mem_insert.1 he with rfl | he
      · exact hdue
      · exact hother e he

/-- The tasks that wait. -/
def tasks (q : TaskQueue τ) : List τ := q.ready ++ q.delayed.map (·.task)

theorem mem_tasks {other : τ} : other ∈ q.tasks ↔ other ∈ q.ready ∨ ∃ d ∈ q.delayed, d.task = other := by
  rw [tasks, List.mem_append, List.mem_map]

theorem stopping_of_running (h : q.running) : q.stopping = false := by
  simp only [running, Bool.and_eq_true, Bool.not_eq_true'] at h
  exact h.2

/-! ## Posts -/

@[simp] theorem delayed_post : (q.post task).delayed = q.delayed := by
  rw [post]
  split <;> rfl

theorem mem_ready_post {other : τ} (h : other ∈ (q.post task).ready) :
    other ∈ q.ready ∨ other = task := by
  rw [post] at h
  split at h
  · exact .inl h
  · simpa using h

@[simp] theorem ready_postDelayed : (q.postDelayed now delay task).2.ready = q.ready := by
  rw [postDelayed]
  split <;> rfl

@[simp] theorem stopping_postDelayed : (q.postDelayed now delay task).2.stopping = q.stopping := by
  rw [postDelayed]
  split <;> rfl

theorem mem_delayed_postDelayed (h : d ∈ (q.postDelayed now delay task).2.delayed) :
    d ∈ q.delayed ∨ d = ⟨now + max delay 0, (q.postDelayed now delay task).1, task⟩ := by
  rw [postDelayed] at h ⊢
  split at h
  · exact .inl h
  · next hstopping =>
    rw [if_neg hstopping]
    exact (mem_insert.1 h).symm

theorem mem_tasks_post {other : τ} (h : other ∈ (q.post task).tasks) : other ∈ q.tasks ∨ other = task := by
  rw [mem_tasks, delayed_post] at h
  rcases h with hready | hdelayed
  · exact (mem_ready_post hready).imp_left fun hready => mem_tasks.2 (.inl hready)
  · exact .inl (mem_tasks.2 (.inr hdelayed))

theorem mem_tasks_postDelayed {other : τ} (h : other ∈ (q.postDelayed now delay task).2.tasks) :
    other ∈ q.tasks ∨ other = task := by
  rw [mem_tasks, ready_postDelayed] at h
  rcases h with hready | ⟨d, hd, rfl⟩
  · exact .inl (mem_tasks.2 (.inl hready))
  · rcases mem_delayed_postDelayed hd with hd | rfl
    · exact .inl (mem_tasks.2 (.inr ⟨d, hd, rfl⟩))
    · exact .inr rfl

theorem InOrder.postDelayed (h : q.InOrder) : (q.postDelayed now delay task).2.InOrder := by
  rw [TaskQueue.postDelayed]
  split
  · exact h
  · exact pairwise_insert h

/-! ## Cancellation -/

@[simp] theorem ready_cancel : (q.cancel id).2.ready = q.ready := by
  rw [cancel]
  split <;> rfl

theorem delayed_cancel_sublist : (q.cancel id).2.delayed.Sublist q.delayed := by
  rw [cancel]
  split
  · exact .refl _
  · exact List.filter_sublist

theorem tasks_cancel_subset : (q.cancel id).2.tasks ⊆ q.tasks := by
  intro other hother
  rw [mem_tasks, ready_cancel] at hother
  obtain hready | ⟨d, hd, hother⟩ := hother
  · exact mem_tasks.2 (.inl hready)
  · exact mem_tasks.2 (.inr ⟨d, delayed_cancel_sublist.subset hd, hother⟩)

@[simp] theorem stopping_cancel : (q.cancel id).2.stopping = q.stopping := by
  rw [cancel]
  split <;> rfl

theorem cancel_of_not_found (h : (q.cancel id).1 = false) : (q.cancel id).2 = q := by
  rw [cancel] at h ⊢
  split
  · rfl
  · next hlookup =>
    rw [hlookup] at h
    cases h

theorem InOrder.cancel (h : q.InOrder) : (q.cancel id).2.InOrder := h.sublist delayed_cancel_sublist

/-! ## Due tasks -/

theorem delayed_promote_sublist : (q.promote now).delayed.Sublist q.delayed :=
  List.dropWhile_sublist _

theorem InOrder.promote (h : q.InOrder) (now : Int) : (q.promote now).InOrder :=
  h.sublist delayed_promote_sublist

/-- The delayed tasks that are made ready. -/
def dueAt (q : TaskQueue τ) (now : Int) : List (Delayed τ) :=
  q.delayed.takeWhile fun d => d.due ≤ now

theorem dueAt_append (q : TaskQueue τ) (now : Int) :
    q.dueAt now ++ (q.promote now).delayed = q.delayed :=
  List.takeWhile_append_dropWhile

/-- Where a list is in order, a task that is due comes before all that are not. -/
theorem mem_takeWhile_due {tasks : List (Delayed τ)} (h : tasks.Pairwise fun a b => a.due ≤ b.due) :
    d ∈ tasks.takeWhile (fun d => d.due ≤ now) ↔ d ∈ tasks ∧ d.due ≤ now := by
  induction tasks with
  | nil => simp
  | cons first rest ih =>
    obtain ⟨hfirst, hrest⟩ := List.pairwise_cons.1 h
    by_cases hdue : first.due ≤ now
    · rw [List.takeWhile_cons_of_pos (by simpa using hdue), List.mem_cons, List.mem_cons, ih hrest]
      constructor
      · rintro (rfl | ⟨hmem, hd⟩)
        · exact ⟨.inl rfl, hdue⟩
        · exact ⟨.inr hmem, hd⟩
      · rintro ⟨rfl | hmem, hd⟩
        · exact .inl rfl
        · exact .inr ⟨hmem, hd⟩
    · rw [List.takeWhile_cons_of_neg (by simpa using hdue)]
      refine ⟨fun h => absurd h List.not_mem_nil, fun ⟨hmem, hd⟩ => absurd hd ?_⟩
      rcases List.mem_cons.1 hmem with rfl | hmem
      · exact hdue
      · have := hfirst d hmem
        omega

theorem ready_promote : (q.promote now).ready = q.ready ++ (q.dueAt now).map (·.task) := rfl

/-- Where nothing is due, nothing is made ready. -/
theorem promote_of_none_due (h : ∀ d ∈ q.delayed, now < d.due) : q.promote now = q := by
  have hdue : q.delayed.takeWhile (fun d => d.due ≤ now) = [] := by
    cases hdelayed : q.delayed with
    | nil => rfl
    | cons first rest =>
      rw [List.takeWhile_cons_of_neg]
      simpa using h first (hdelayed ▸ List.mem_cons_self)
  have hlate : q.delayed.dropWhile (fun d => d.due ≤ now) = q.delayed := by
    have hsplit := dueAt_append q now
    rwa [dueAt, hdue] at hsplit
  have htimes : q.dueTimes.filter (fun _ => true) = q.dueTimes := List.filter_eq_self.2 fun _ _ => rfl
  simp [promote, hdue, hlate, htimes]

theorem mem_ready_promote (h : q.InOrder) :
    task ∈ (q.promote now).ready ↔
      task ∈ q.ready ∨ ∃ d ∈ q.delayed, d.due ≤ now ∧ d.task = task := by
  simp only [ready_promote, dueAt, List.mem_append, List.mem_map, mem_takeWhile_due h, and_assoc]

/-! ## Pops -/

theorem pop_eq_some (h : q.pop now = (some task, q')) :
    (q.promote now).ready = task :: q'.ready ∧ q' = { q.promote now with ready := q'.ready } := by
  rw [pop] at h
  split at h
  · cases h
  · next first rest hready =>
    cases h
    exact ⟨hready, rfl⟩

theorem pop_eq_none (h : q.pop now = (none, q')) :
    (q.promote now).ready = [] ∧ q' = q.promote now := by
  rw [pop] at h
  split at h
  · next hready =>
    cases h
    exact ⟨hready, rfl⟩
  · cases h

theorem pop_of_ready {rest : List τ} (h : (q.promote now).ready = task :: rest) :
    q.pop now = (some task, { q.promote now with ready := rest }) := by
  rw [pop, h]

@[simp] theorem stopping_pop : (q.pop now).2.stopping = q.stopping := by
  rw [pop]
  cases (q.promote now).ready <;> rfl

theorem pending_pop_le : (q.pop now).2.pending ≤ q.pending := by
  rw [← pending_promote q now, pop]
  cases hready : (q.promote now).ready with
  | nil => exact Nat.le_refl _
  | cons task rest =>
    simp only [pending, hready, List.length_cons]
    omega

theorem InOrder.pop (h : q.InOrder) (now : Int) : (q.pop now).2.InOrder := by
  cases hpop : q.pop now with
  | mk next q' =>
    cases next with
    | none =>
      obtain ⟨-, rfl⟩ := pop_eq_none hpop
      exact h.promote now
    | some task =>
      obtain ⟨-, hq'⟩ := pop_eq_some hpop
      rw [hq']
      exact h.promote now

/-- To make tasks ready adds none. -/
theorem tasks_promote (q : TaskQueue τ) (now : Int) : (q.promote now).tasks = q.tasks := by
  rw [tasks, ready_promote, List.append_assoc, ← List.map_append, dueAt_append]
  rfl

/-- The next task is one that has waited. -/
theorem mem_tasks_of_pop (h : q.pop now = (some task, q')) : task ∈ q.tasks := by
  obtain ⟨hready, -⟩ := pop_eq_some h
  rw [← tasks_promote q now, mem_tasks, hready]
  exact .inl List.mem_cons_self

theorem tasks_subset_of_pop {next : Option τ} (h : q.pop now = (next, q')) : q'.tasks ⊆ q.tasks := by
  rw [← tasks_promote q now]
  cases next with
  | none =>
    obtain ⟨-, rfl⟩ := pop_eq_none h
    exact List.Subset.refl _
  | some task =>
    obtain ⟨hready, hq'⟩ := pop_eq_some h
    intro other hother
    rw [hq', mem_tasks] at hother
    rw [mem_tasks, hready]
    exact hother.imp_left (List.mem_cons_of_mem task)

/-- Who is marked as running tasks makes no difference to the next one. -/
theorem pop_mark {next : Option τ} (thread : Option Thread) (h : q.pop now = (next, q')) :
    ({ q with executing := thread } : TaskQueue τ).pop now =
      (next, { q' with executing := thread }) := by
  have hpop : ({ q with executing := thread } : TaskQueue τ).pop now =
      ((q.pop now).1, { (q.pop now).2 with executing := thread }) := by
    simp only [pop, promote]
    split <;> rfl
  rw [hpop, h]

/-! ## Numbers -/

/-- The delayed tasks have numbers of their own, which are not given again, and the due times
    are kept by exactly those. -/
structure Indexed (q : TaskQueue τ) : Prop where
  next : 0 < q.nextId
  distinct : q.delayed.Pairwise fun a b => a.id ≠ b.id
  given : ∀ d ∈ q.delayed, 0 < d.id ∧ d.id < q.nextId
  times : ∀ id due, q.dueTimes.lookup id = some due ↔ ∃ d ∈ q.delayed, d.id = id ∧ d.due = due

theorem insert_perm (tasks : List (Delayed τ)) : (insert d tasks).Perm (d :: tasks) := by
  induction tasks with
  | nil => exact .refl _
  | cons other rest ih =>
    rw [insert]
    split
    · exact .refl _
    · exact (ih.cons other).trans (.swap d other rest)

theorem Indexed.empty : ({} : TaskQueue τ).Indexed where
  next := Nat.one_pos
  distinct := .nil
  given _ hd := absurd hd List.not_mem_nil
  times id due := by simp

theorem Indexed.post (h : q.Indexed) : (q.post task).Indexed := by
  rw [TaskQueue.post]
  split
  · exact h
  · exact ⟨h.next, h.distinct, h.given, h.times⟩

theorem Indexed.postDelayed (h : q.Indexed) : (q.postDelayed now delay task).2.Indexed := by
  rw [TaskQueue.postDelayed]
  split
  · exact h
  · dsimp only
    refine ⟨Nat.succ_pos _, ?_, fun d hd => ?_, fun id due => ?_⟩
    · refine (List.pairwise_cons.2 ⟨fun d hd => ?_, h.distinct⟩).perm (insert_perm _).symm Ne.symm
      exact Nat.ne_of_gt (h.given d hd).2
    · rcases mem_insert.1 hd with rfl | hd
      · exact ⟨h.next, Nat.lt_succ_self _⟩
      · exact ⟨(h.given d hd).1, Nat.lt_succ_of_lt (h.given d hd).2⟩
    · rw [List.lookup_cons]
      constructor
      · split
        · next heq =>
          rintro ⟨⟩
          exact ⟨_, mem_insert.2 (.inl rfl), (eq_of_beq heq).symm, rfl⟩
        · intro hlookup
          obtain ⟨d, hd, hid, hdue⟩ := (h.times id due).1 hlookup
          exact ⟨d, mem_insert.2 (.inr hd), hid, hdue⟩
      · rintro ⟨d, hd, rfl, rfl⟩
        rcases mem_insert.1 hd with rfl | hd
        · simp
        · have hne : (d.id == q.nextId) = false :=
            beq_eq_false_iff_ne.2 (Nat.ne_of_lt (h.given d hd).2)
          rw [hne]
          exact (h.times d.id d.due).2 ⟨d, hd, rfl, rfl⟩

@[simp] theorem nextId_cancel : (q.cancel id).2.nextId = q.nextId := by
  rw [TaskQueue.cancel]
  split <;> rfl

theorem lookup_cancel (other : Nat) :
    (q.cancel id).2.dueTimes.lookup other =
      if other = id then none else q.dueTimes.lookup other := by
  rw [TaskQueue.cancel]
  split
  · next hlookup =>
    split
    · next heq => rw [heq, hlookup]
    · rfl
  · rw [lookup_filter q.dueTimes (· != id) other]
    simp

/-- A cancellation takes out the task of that number, and no other. -/
theorem delayed_cancel (h : q.Indexed) (id : Nat) :
    (q.cancel id).2.delayed = q.delayed.filter (·.id != id) := by
  rw [cancel]
  split
  · next hlookup =>
    refine (List.filter_eq_self.2 fun d hd => ?_).symm
    rw [bne_iff_ne]
    rintro rfl
    rw [(h.times d.id d.due).2 ⟨d, hd, rfl, rfl⟩] at hlookup
    cases hlookup
  · next due hlookup =>
    refine List.filter_congr fun d hd => ?_
    by_cases hid : d.id = id
    · have hdue := (h.times id d.due).2 ⟨d, hd, hid, rfl⟩
      rw [hlookup, Option.some_inj] at hdue
      simp [hid, hdue]
    · simp [hid]

theorem mem_delayed_cancel (h : q.Indexed) :
    d ∈ (q.cancel id).2.delayed ↔ d ∈ q.delayed ∧ d.id ≠ id := by
  rw [delayed_cancel h, List.mem_filter, bne_iff_ne]

/-- It does so if there is such a task. -/
theorem cancel_iff (h : q.Indexed) (id : Nat) :
    (q.cancel id).1 = true ↔ ∃ d ∈ q.delayed, d.id = id := by
  rw [cancel]
  split
  · next hlookup =>
    refine ⟨nofun, fun ⟨d, hd, hid⟩ => ?_⟩
    rw [(h.times id d.due).2 ⟨d, hd, hid, rfl⟩] at hlookup
    cases hlookup
  · next due hlookup =>
    obtain ⟨d, hd, hid, -⟩ := (h.times id due).1 hlookup
    exact ⟨fun _ => ⟨d, hd, hid⟩, fun _ => rfl⟩

theorem Indexed.cancel (h : q.Indexed) : (q.cancel id).2.Indexed where
  next := by
    rw [nextId_cancel]
    exact h.next
  distinct := h.distinct.sublist delayed_cancel_sublist
  given d hd := by
    rw [nextId_cancel]
    exact h.given d ((mem_delayed_cancel h).1 hd).1
  times other due := by
    rw [lookup_cancel]
    constructor
    · intro hlookup
      split at hlookup
      · cases hlookup
      · next hne =>
        obtain ⟨d, hd, rfl, hdue⟩ := (h.times other due).1 hlookup
        exact ⟨d, (mem_delayed_cancel h).2 ⟨hd, hne⟩, rfl, hdue⟩
    · rintro ⟨d, hd, rfl, hdue⟩
      obtain ⟨hd, hne⟩ := (mem_delayed_cancel h).1 hd
      rw [if_neg hne]
      exact (h.times d.id due).2 ⟨d, hd, rfl, hdue⟩

/-- No task that is made ready has the number of one that stays delayed. -/
theorem Indexed.ne_of_promoted (h : q.Indexed) {e : Delayed τ} (hd : d ∈ q.dueAt now)
    (he : e ∈ (q.promote now).delayed) : d.id ≠ e.id := by
  have hdistinct := h.distinct
  rw [← dueAt_append q now, List.pairwise_append] at hdistinct
  exact hdistinct.2.2 d hd e he

theorem lookup_promote : (q.promote now).dueTimes.lookup id =
    if ∃ d ∈ q.dueAt now, d.id = id then none else q.dueTimes.lookup id := by
  have hlookup := lookup_filter q.dueTimes (fun id => !(q.dueAt now).any fun d => d.id == id) id
  simp only [Bool.not_eq_true', List.any_eq_false, beq_iff_eq] at hlookup
  refine hlookup.trans ?_
  by_cases hpromoted : ∃ d ∈ q.dueAt now, d.id = id
  · obtain ⟨d, hd, hid⟩ := hpromoted
    rw [if_neg fun hkept => hkept d hd hid, if_pos ⟨d, hd, hid⟩]
  · rw [if_pos fun d hd hid => hpromoted ⟨d, hd, hid⟩, if_neg hpromoted]

theorem Indexed.promote (h : q.Indexed) (now : Int) : (q.promote now).Indexed where
  next := h.next
  distinct := h.distinct.sublist delayed_promote_sublist
  given d hd := h.given d (delayed_promote_sublist.subset hd)
  times id due := by
    rw [lookup_promote]
    constructor
    · intro hlookup
      split at hlookup
      · cases hlookup
      · next hkept =>
        obtain ⟨d, hd, hid, hdue⟩ := (h.times id due).1 hlookup
        rw [← dueAt_append q now, List.mem_append] at hd
        rcases hd with hd | hd
        · exact absurd ⟨d, hd, hid⟩ hkept
        · exact ⟨d, hd, hid, hdue⟩
    · rintro ⟨d, hd, rfl, hdue⟩
      rw [if_neg fun ⟨e, he, hid⟩ => h.ne_of_promoted he hd hid]
      exact (h.times d.id due).2 ⟨d, delayed_promote_sublist.subset hd, rfl, hdue⟩

theorem Indexed.pop (h : q.Indexed) (now : Int) : (q.pop now).2.Indexed := by
  cases hpop : q.pop now with
  | mk next q' =>
    cases next with
    | none =>
      obtain ⟨-, rfl⟩ := pop_eq_none hpop
      exact h.promote now
    | some task =>
      obtain ⟨-, hq'⟩ := pop_eq_some hpop
      rw [hq']
      have hindexed := h.promote now
      exact ⟨hindexed.next, hindexed.distinct, hindexed.given, hindexed.times⟩

theorem Indexed.stop (h : q.Indexed) (thread : Thread) : (q.stop thread).Indexed where
  next := h.next
  distinct := .nil
  given _ hd := absurd hd List.not_mem_nil
  times _ _ := ⟨nofun, fun ⟨_, hd, _⟩ => absurd hd List.not_mem_nil⟩

end TaskQueue

end Fingerprint
