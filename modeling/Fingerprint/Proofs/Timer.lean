import Fingerprint.Proofs.Lockout

/-!
# The timer of a lockout

Where each failure that lengthens a lockout is counted before its timer is
ready, the lockout knows the number of the only timer that waits. Thus it can
cancel that timer, and there is never more than one.

* `Lockout.TimerKnown`: the number of the timer is known;
* `Lockout.Waits.timerKnown`: it stays known whatever is done but to count a failure;
* `Lockout.Entered.timerKnown`: also when a failure starts a lockout, unless the timer is ready.
-/

namespace Fingerprint

namespace Lockout

variable {ω κ : Type} {host : Host ω κ} {s s' : System ω κ}

/-- The number of the timer is known as long as it is delayed, and there is no other one. -/
structure TimerKnown (lockout : Lockout) (queue : TaskQueue (Task κ)) : Prop where
  inOrder : queue.InOrder
  indexed : queue.Indexed
  known : ∀ d ∈ queue.delayed, d.task = .lockoutExpired → d.id = lockout.timer
  alone : .lockoutExpired ∈ queue.ready → ∀ d ∈ queue.delayed, d.task ≠ .lockoutExpired

variable {lockout : Lockout} {queue : TaskQueue (Task κ)} {now : Int}

theorem TimerKnown.promote (h : TimerKnown lockout queue) (now : Int) :
    TimerKnown lockout (queue.promote now) where
  inOrder := h.inOrder.promote now
  indexed := h.indexed.promote now
  known d hd := h.known d (TaskQueue.delayed_promote_sublist.subset hd)
  alone hready d hd htask := by
    have hdelayed := TaskQueue.delayed_promote_sublist.subset hd
    rw [TaskQueue.ready_promote, List.mem_append, List.mem_map] at hready
    rcases hready with hready | ⟨e, he, hexpiry⟩
    · exact h.alone hready d hdelayed htask
    · -- The one made ready has the number of the one that stays delayed.
      have hmem : e ∈ queue.delayed := by
        rw [← TaskQueue.dueAt_append queue now]
        exact List.mem_append_left _ he
      exact h.indexed.ne_of_promoted he hd
        ((h.known e hmem hexpiry).trans (h.known d hdelayed htask).symm)

/-- Once a lockout has cancelled its timer, none is delayed. -/
theorem TimerKnown.not_mem_cancelTimer (h : TimerKnown lockout queue) {d : Delayed (Task κ)}
    (hd : d ∈ (lockout.cancelTimer queue).delayed) : d.task ≠ .lockoutExpired := by
  intro htask
  rw [cancelTimer] at hd
  split at hd
  · next hzero =>
    have hpos := (h.indexed.given d hd).1
    rw [h.known d hd htask, hzero] at hpos
    exact Nat.lt_irrefl 0 hpos
  · obtain ⟨hd, hid⟩ := (TaskQueue.mem_delayed_cancel h.indexed).1 hd
    exact hid (h.known d hd htask)

theorem TimerKnown.popped (h : TimerKnown lockout queue) {next : Option (Task κ)}
    {rest : TaskQueue (Task κ)} (hpop : queue.pop now = (next, rest)) :
    TimerKnown lockout rest := by
  have hknown := h.promote now
  cases next with
  | none =>
    obtain ⟨-, rfl⟩ := TaskQueue.pop_eq_none hpop
    exact hknown
  | some task =>
    obtain ⟨hready, hrest⟩ := TaskQueue.pop_eq_some hpop
    have hinOrder := h.inOrder.pop now
    have hindexed := h.indexed.pop now
    rw [hpop] at hinOrder hindexed
    refine ⟨hinOrder, hindexed, fun d hd => ?_, fun hexpiry d hd => ?_⟩ <;> rw [hrest] at hd
    · exact hknown.known d hd
    · exact hknown.alone (by rw [hready]; exact List.mem_cons_of_mem _ hexpiry) d hd

/-- When the timer runs out, there is none any more. -/
theorem TimerKnown.expired (h : TimerKnown lockout queue) {rest : TaskQueue (Task κ)}
    (hpop : queue.pop now = (some .lockoutExpired, rest)) : TimerKnown {} rest := by
  have hpopped := h.popped hpop
  obtain ⟨hready, hrest⟩ := TaskQueue.pop_eq_some hpop
  refine ⟨hpopped.inOrder, hpopped.indexed, fun d hd htask => ?_, hpopped.alone⟩
  rw [hrest] at hd
  exact absurd htask ((h.promote now).alone (by rw [hready]; exact List.mem_cons_self) d hd)

theorem Waits.timerKnown (hstep : Waits host s s') (h : TimerKnown s.lockout s.queue) :
    TimerKnown s'.lockout s'.queue := by
  cases hstep with
  | advanced => exact h
  | posted htask =>
    refine ⟨?_, h.indexed.post, ?_, fun hready => ?_⟩ <;>
      (try rw [TaskQueue.InOrder]) <;> rw [TaskQueue.delayed_post]
    · exact h.inOrder
    · exact h.known
    · exact h.alone ((TaskQueue.mem_ready_post hready).resolve_right htask.symm)
  | delayed htask =>
    refine ⟨h.inOrder.postDelayed, h.indexed.postDelayed, fun d hd hexpiry => ?_,
      fun hready d hd => ?_⟩
    · rcases TaskQueue.mem_delayed_postDelayed hd with hd | rfl
      · exact h.known d hd hexpiry
      · exact absurd hexpiry htask
    · rcases TaskQueue.mem_delayed_postDelayed hd with hd | rfl
      · rw [TaskQueue.ready_postDelayed] at hready
        exact h.alone hready d hd
      · exact htask
  | canceled =>
    refine ⟨h.inOrder.cancel, h.indexed.cancel, fun d hd => ?_, fun hready d hd => ?_⟩
    · exact h.known d (TaskQueue.delayed_cancel_sublist.subset hd)
    · rw [TaskQueue.ready_cancel] at hready
      exact h.alone hready d (TaskQueue.delayed_cancel_sublist.subset hd)
  | taken _ hpop | drained hpop => exact h.popped hpop
  | @expired queue hpop =>
    obtain ⟨world, hrun⟩ := run_expiry host { s with queue }
    rw [hrun]
    exact h.expired hpop
  | elsewhere _ hlockout hqueue =>
    rw [hlockout, hqueue]
    exact ⟨h.inOrder, ⟨h.indexed.next, h.indexed.distinct, h.indexed.given, h.indexed.times⟩,
      h.known, h.alone⟩

theorem Entered.timerKnown (hentered : Entered host s s') (h : TimerKnown s.lockout s.queue)
    (hready : .lockoutExpired ∉ s.queue.ready) : TimerKnown s'.lockout s'.queue where
  inOrder := hentered.inOrder h.inOrder
  indexed := by
    rw [hentered.queue]
    refine TaskQueue.Indexed.postDelayed ?_
    rw [cancelTimer]
    split
    · exact h.indexed
    · exact h.indexed.cancel
  known d hd htask := by
    rw [hentered.queue] at hd
    rcases TaskQueue.mem_delayed_postDelayed hd with hd | rfl
    · exact absurd htask (h.not_mem_cancelTimer hd)
    · exact hentered.timer.symm
  alone h := by
    rw [hentered.ready] at h
    exact absurd h hready

end Lockout

end Fingerprint
