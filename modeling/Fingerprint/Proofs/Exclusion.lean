import Fingerprint.Proofs.Calm

/-!
# Lockout excludes authentication

Only a failed authentication is counted, and each authentication ends with its
result. So no authentication is active while the lockout lasts, none begins,
and no failure lengthens the lockout: it is its timer alone that ends it, when
the lockout is over and not before.

This is so in every run in which the timer is left to the lockout, and the
queue is not stopped.

* `Record.Turn`, `Record.Attained`: the runs;
* `Record.Barred`: what holds in every state that is attained;
* `Record.Abides`: what holds of every turn;
* `Record.exists_unlocked_of_drain`: a drain ends a lockout that is over;
* `Record.Attained.lockout_excludes_authentication`.
-/

namespace Fingerprint

variable {ω κ : Type} {host : Host ω κ}

namespace Record

variable {record : Record host} {s s' : System ω κ}

/-! ## Turns -/

/-- What happens at one go on the queue, and around it. Nobody but the lockout itself posts or
    cancels its timer, and the queue is not stopped. What a task does that was taken off the
    queue happens after that. -/
inductive Turn (record : Record host) : System ω κ → System ω κ → Prop
  | performed {task : Task κ} (s : System ω κ) (h : task ≠ .lockoutExpired) :
      Turn record s ((host.perform task).run s).2
  | stopped (s : System ω κ) : Turn record s (host.stopPendingOperations.run s).2
  | taken {s : System ω κ} {task : Task κ} {queue : TaskQueue (Task κ)} (h : task ≠ .lockoutExpired)
      (hpop : s.queue.pop s.clock = (some task, queue)) : Turn record s { s with queue }
  | expired {s : System ω κ} {queue : TaskQueue (Task κ)}
      (hpop : s.queue.pop s.clock = (some .lockoutExpired, queue)) :
      Turn record s (host.engine.run .lockoutExpired { s with queue })
  | drained {s : System ω κ} {queue : TaskQueue (Task κ)}
      (hpop : s.queue.pop s.clock = (none, queue)) : Turn record s { s with queue }
  /-- Something that concerns no session, on the queue, in the service or around it. -/
  | elsewhere {s s' : System ω κ} (hview : (s.view record.history).Noted (s'.view record.history))
      (hmoment : TaskQueue.Sparing s.moment s'.moment) : Turn record s s'

/-- The states that are attained from the start. -/
inductive Attained (record : Record host) : System ω κ → Prop
  | fresh {s : System ω κ} (hview : s.view record.history = {}) (hqueue : s.queue = {}) :
      Attained record s
  | turn {s s' : System ω κ} (h : Attained record s) (hturn : record.Turn s s') : Attained record s'

theorem Turn.runs (h : record.Turn s s') : record.Runs s s' := by
  cases h with
  | performed => exact .single (.performed _ s)
  | stopped => exact .single (.stopped s)
  | taken | drained => exact isRun_of_view_eq rfl
  | @expired _ queue hpop =>
    have hstart : record.Runs s { s with queue } := isRun_of_view_eq rfl
    exact hstart.trans (isRun_runTask _ _)
  | elsewhere hview => exact .single (.elsewhere hview)

theorem Attained.reachable (h : record.Attained s) : record.Reachable s := by
  induction h with
  | fresh hview => exact .fresh hview
  | turn _ hturn ih => exact ih.runs hturn.runs

/-! ## Every turn -/

/-- The lockout has its timer, and bars authentication. -/
structure Barred (host : Host ω κ) (s : System ω κ) : Prop where
  guarded : Lockout.Guarded host.setup.lockout s.lockout s.queue s.clock
  vacant : host.Locked s → s.slots.authenticate = none

/-- From one state to the next, no authentication begins while that is locked, and a lockout
    lasts until its timer ends it. -/
structure Abides (record : Record host) (s s' : System ω κ) : Prop where
  /-- Where authentication is locked before or after, no driver was asked to begin one. -/
  unasked : host.Locked s ∨ host.Locked s' →
    ∃ entries, record.history s'.world = record.history s.world ++ entries ∧
      ∀ entry ∈ entries, entry.asksAuthentication = false
  /-- A lockout stays as it is, but that its timer ends it when it is over. -/
  lasts : host.Locked s → s'.lockout = s.lockout ∨
    s'.lockout = {} ∧ (∃ queue, s.queue.pop s.clock = (some .lockoutExpired, queue)) ∧
      ∃ due, s.lockout.lockedUntil = some due ∧ due ≤ s.clock
  /-- A lockout that is entered is to last for its duration. -/
  entered : ¬host.Locked s → host.Locked s' → ∃ now, s.clock ≤ now ∧ now ≤ s'.clock ∧
    s'.lockout.lockedUntil = some (now + host.setup.lockout.duration)

theorem Calm.barred_and_abides (h : record.Calm (¬host.Locked s) s s') (hs : Barred host s) :
    Barred host s' ∧ record.Abides s s' := by
  have hlocked : host.Locked s' ↔ host.Locked s := by rw [Host.Locked, h.lockout, Host.Locked]
  refine ⟨⟨h.guarded hs.guarded, fun hlocked' => ?_⟩, fun hlocked' => ?_, fun _ => .inl h.lockout,
    fun hnot hlocked' => ?_⟩
  · rcases h.slot with hsame | hnone | hleave
    · rw [hsame]
      exact hs.vacant (hlocked.1 hlocked')
    · exact hnone
    · exact absurd (hlocked.1 hlocked') hleave
  · obtain ⟨entries, hentries, hasks⟩ := h.history
    refine ⟨entries, hentries, fun entry hentry => Bool.eq_false_iff.2 fun hask => ?_⟩
    exact hasks entry hentry hask (hlocked'.elim id hlocked.1)
  · exact absurd (hlocked.1 hlocked') hnot

/-- What is taken off the queue, but for the timer, changes nothing else. -/
theorem Barred.popped (hs : Barred host s) {queue : TaskQueue (Task κ)}
    (hguarded : Lockout.Guarded host.setup.lockout s.lockout queue s.clock) :
    Barred host { s with queue } ∧ record.Abides s { s with queue } :=
  ⟨⟨hguarded, hs.vacant⟩, fun _ => ⟨[], (List.append_nil _).symm, by simp⟩, fun _ => .inl rfl,
    fun hnot hlocked => absurd hlocked hnot⟩

/-- What counting a result makes of a lockout that has not been entered. -/
theorem guarded_counted (hguarded : Lockout.Guarded host.setup.lockout s.lockout s.queue s.clock)
    (hunlocked : ¬host.Locked s) (hduration : 0 ≤ host.setup.lockout.duration)
    (hcounted : s' = (host.recordFailure.run s).2 ∨ s' = ((Host.recordSuccess : Op ω κ Unit).run s).2) :
    Lockout.Guarded host.setup.lockout s'.lockout s'.queue s'.clock ∧ s'.clock = s.clock ∧
      (host.Locked s' → s'.lockout.lockedUntil = some (s.clock + host.setup.lockout.duration)) := by
  have hopen : s.lockout.isLocked host.setup.lockout = false := Bool.eq_false_iff.2 hunlocked
  rcases hcounted with rfl | rfl
  · obtain ⟨world, hrun⟩ := Lockout.run_recordFailure host s rfl
    obtain ⟨hguarded', huntil⟩ := hguarded.recordFailure hopen hduration
    rw [hrun]
    exact ⟨hguarded', rfl, huntil⟩
  · obtain ⟨hguarded', hopen'⟩ := hguarded.recordSuccess hopen
    exact ⟨hguarded', rfl, fun hlocked => absurd (hopen'.symm.trans hlocked) Bool.false_ne_true⟩

/-- Counting a result asks no driver. -/
theorem history_counted (record : Record host)
    (hcounted : s' = (host.recordFailure.run s).2 ∨ s' = ((Host.recordSuccess : Op ω κ Unit).run s).2) :
    ∃ entries, record.history s'.world = record.history s.world ++ entries ∧
      ∀ entry ∈ entries, entry.asksAuthentication = false := by
  rcases hcounted with rfl | rfl
  · obtain ⟨result, -, lockout, -, hview⟩ := record.yields_recordFailure (s.view record.history) s rfl
    split at hview
    · refine ⟨[.published (lockout.enteredEvent host.setup.lockout) s.slots],
        congrArg View.history hview, ?_⟩
      rw [List.forall_mem_singleton]
      rfl
    · exact ⟨[], (congrArg View.history hview).trans (List.append_nil _).symm, by simp⟩
  · exact ⟨[], (List.append_nil _).symm, by simp⟩

theorem Counted.barred_and_abides (h : record.Counted s s') (hs : Barred host s)
    (hslot : s.slots.authenticate ≠ none) (hduration : 0 ≤ host.setup.lockout.duration) :
    Barred host s' ∧ record.Abides s s' := by
  obtain ⟨s₁, s₂, hbefore, hcounted, hafter, hvacant⟩ := h
  have hunlocked : ¬host.Locked s := fun hlocked => hslot (hs.vacant hlocked)
  have hunlocked₁ : ¬host.Locked s₁ := by rwa [Host.Locked, hbefore.lockout]
  obtain ⟨hguarded₂, hclock, huntil⟩ :=
    guarded_counted (hbefore.guarded hs.guarded) hunlocked₁ hduration hcounted
  refine ⟨⟨hafter.guarded hguarded₂, fun _ => hvacant⟩, fun _ => ?_,
    fun hlocked => absurd hlocked hunlocked, fun _ hlocked => ?_⟩
  · obtain ⟨entries, hentries, hasks⟩ := hbefore.history
    obtain ⟨counted, hcounted, hasks'⟩ := record.history_counted hcounted
    obtain ⟨more, hmore, hasks''⟩ := hafter.history
    refine ⟨entries ++ counted ++ more, ?_, ?_⟩
    · rw [hmore, hcounted, hentries, List.append_assoc, List.append_assoc, List.append_assoc]
    · simp only [List.forall_mem_append]
      exact ⟨⟨fun entry hentry => Bool.eq_false_iff.2 (hasks entry hentry), hasks'⟩,
        fun entry hentry => Bool.eq_false_iff.2 (hasks'' entry hentry)⟩
  · refine ⟨s₁.clock, hbefore.clock, hclock ▸ hafter.clock, ?_⟩
    rw [hafter.lockout]
    refine huntil ?_
    rwa [Host.Locked, ← hafter.lockout]

theorem Turn.barred_and_abides (h : record.Turn s s') (hspares : host.SparesTimer)
    (hduration : 0 ≤ host.setup.lockout.duration) (hsound : (s.view record.history).Sound)
    (hs : Barred host s) : Barred host s' ∧ record.Abides s s' := by
  cases h with
  | performed _ htask =>
    rcases record.calm_or_counted_perform hspares hsound htask with hcalm | ⟨hslot, hcounted⟩
    · exact hcalm.barred_and_abides hs
    · exact hcounted.barred_and_abides hs hslot hduration
  | stopped =>
    exact (record.calm_of_conducts hspares Host.pervasive_conducts.coarse.stopPendingOperations s).barred_and_abides hs
  | taken htask hpop => exact hs.popped (hs.guarded.taken htask hpop)
  | drained hpop => exact hs.popped (hs.guarded.drained hpop)
  | @expired _ queue hpop =>
    obtain ⟨hguarded, hlocked, due, huntil, hdue⟩ := hs.guarded.expired hpop
    obtain ⟨world, hrun⟩ := Lockout.run_expiry host { s with queue }
    have hopen : ¬host.Locked (host.engine.run .lockoutExpired { s with queue }) := by
      rw [hrun, Host.Locked, Lockout.isLocked_fresh]
      exact Bool.false_ne_true
    refine ⟨⟨?_, fun hlocked' => absurd hlocked' hopen⟩, fun _ => ?_, fun _ => .inr ?_,
      fun hnot => absurd hlocked hnot⟩
    · rw [hrun]
      exact hguarded
    · refine ⟨[.published Lockout.resetEvent s.slots], record.observe _ _, ?_⟩
      rw [List.forall_mem_singleton]
      rfl
    · exact ⟨by rw [hrun], ⟨queue, hpop⟩, due, huntil, hdue⟩
  | elsewhere hview hmoment => exact (calm_of_noted hview hmoment).barred_and_abides hs

theorem Attained.barred (h : record.Attained s) (hspares : host.SparesTimer)
    (hduration : 0 ≤ host.setup.lockout.duration) : Barred host s := by
  induction h with
  | @fresh s hview hqueue =>
    have hlockout : s.lockout = {} := congrArg View.lockout hview
    refine ⟨?_, fun _ => congrArg (·.slots.authenticate) hview⟩
    rw [hlockout, hqueue]
    exact .fresh rfl .nil rfl
  | turn h hturn ih => exact (hturn.barred_and_abides hspares hduration h.reachable.sound ih).1

/-! ## Drains -/

theorem Attained.mark (h : record.Attained s) (thread : Option Thread) :
    record.Attained (host.engine.mark thread s) :=
  h.turn (.elsewhere (.refl _) (.single (.marked s.queue.started thread)))

theorem Attained.run (h : record.Attained s) {task : Task κ} (htask : task ≠ .lockoutExpired) :
    record.Attained (host.engine.run task s) := by
  have hperformed := h.turn (.performed s htask)
  rcases host.run_task task s with hrun | ⟨fault, hrun⟩
  · rwa [hrun]
  · rw [hrun]
    refine hperformed.turn (.elsewhere ?_ .refl)
    obtain ⟨-, -, hlogged⟩ :=
      record.yields_publish_note (System.view record.history _) (Host.taskFailedEvent fault) rfl _ rfl
    exact hlogged.noted

/-- A drain goes turn by turn. -/
theorem Attained.runPending (h : record.Attained s) (room : Nat) :
    record.Attained (host.engine.runPending room s).2 := by
  refine Host.kept_runPending (fun thread _ h => h.mark thread) (fun hpop h => h.turn (.drained hpop))
    (fun {s task queue} hpop h => ?_) room h
  by_cases htask : task = .lockoutExpired
  · subst htask
    exact h.turn (.expired hpop)
  · exact (h.turn (.taken htask hpop)).run htask

/-- While authentication is locked, a task that is not the timer leaves the lockout alone. -/
theorem calm_run_of_locked (h : record.Attained s) (hspares : host.SparesTimer) (hs : Barred host s)
    (hlocked : host.Locked s) {task : Task κ} (htask : task ≠ .lockoutExpired) :
    record.Calm False s (host.engine.run task s) := by
  have hperformed : record.Calm False s ((host.perform task).run s).2 := by
    rcases record.calm_or_counted_perform hspares h.reachable.sound htask with hcalm | ⟨hslot, -⟩
    · exact hcalm.mono fun hnot => hnot hlocked
    · exact absurd (hs.vacant hlocked) hslot
  rcases host.run_task task s with hrun | ⟨fault, hrun⟩
  · rwa [hrun]
  · rw [hrun]
    exact hperformed.trans (record.calm_of_conducts hspares (Host.pervasive_conducts.publish _) _)

/-- The state after a task that a drain runs, where that was taken off the queue in a state. -/
def ranNext (host : Host ω κ) (task : Task κ) (queue : TaskQueue (Task κ)) (s : System ω κ) :
    System ω κ :=
  host.engine.mark none (host.engine.run task (host.engine.mark (some s.thread) { s with queue }))

theorem runPending_of_pop (host : Host ω κ) (hstopping : s.queue.stopping = false) {task : Task κ}
    {queue : TaskQueue (Task κ)} (hpop : s.queue.pop s.clock = (some task, queue)) (room : Nat) :
    (host.engine.runPending (room + 1) s).2 =
      (host.engine.runPending room (ranNext host task queue s)).2 := by
  rw [Host.runPending_of_some hstopping hpop]
  rfl

/-- While authentication is locked, another task leaves the lockout as it is, and the tasks that
    are ready where they are. -/
theorem ranNext_of_locked (h : record.Attained s) (hspares : host.SparesTimer)
    (hduration : 0 ≤ host.setup.lockout.duration) (hlocked : host.Locked s) {task : Task κ}
    (htask : task ≠ .lockoutExpired) {queue : TaskQueue (Task κ)}
    (hpop : s.queue.pop s.clock = (some task, queue)) :
    record.Attained (ranNext host task queue s) ∧ (ranNext host task queue s).lockout = s.lockout ∧
      ∃ more, (ranNext host task queue s).queue.ready = queue.ready ++ more := by
  have hmarked : record.Attained (host.engine.mark (some s.thread) { s with queue }) :=
    (h.turn (.taken htask hpop)).mark _
  have hcalm := calm_run_of_locked hmarked hspares (hmarked.barred hspares hduration) hlocked htask
  exact ⟨(hmarked.run htask).mark none, hcalm.lockout, hcalm.moment.ready⟩

/-- The timer, if it is the next task of a drain, ends the lockout, and the drain goes on. -/
theorem unlocked_of_next (hstopping : s.queue.stopping = false) {rest : List (Task κ)}
    (hready : (s.queue.promote s.clock).ready = .lockoutExpired :: rest) (room : Nat) :
    (host.engine.runPending 1 s).2.lockout = {} ∧
      (host.engine.runPending (room + 1) s).2 =
        (host.engine.runPending room (host.engine.runPending 1 s).2).2 := by
  have hone := runPending_of_pop host hstopping (TaskQueue.pop_of_ready hready)
  constructor
  · rw [hone 0]
    rfl
  · rw [hone room, hone 0]
    rfl

/-- A drain in which the timer is ready runs it behind the tasks before it, and goes on. -/
theorem exists_unlocked_of_drain (hspares : host.SparesTimer)
    (hduration : 0 ≤ host.setup.lockout.duration) {before after : List (Task κ)} {room : Nat}
    (h : record.Attained s) (hlocked : host.Locked s)
    (hready : (s.queue.promote s.clock).ready = before ++ .lockoutExpired :: after)
    (hroom : before.length < room) :
    ∃ k ≤ room, (host.engine.runPending k s).2.lockout = {} ∧
      (host.engine.runPending room s).2 =
        (host.engine.runPending (room - k) (host.engine.runPending k s).2).2 := by
  induction before generalizing s room after with
  | nil =>
    obtain ⟨room, rfl⟩ := Nat.exists_eq_add_one.2 (Nat.zero_lt_of_lt hroom)
    have hstopping := (h.barred hspares hduration).guarded.accepting
    exact ⟨1, Nat.le_add_left 1 room, unlocked_of_next hstopping hready room⟩
  | cons task before ih =>
    obtain ⟨room, rfl⟩ := Nat.exists_eq_add_one.2 (Nat.zero_lt_of_lt hroom)
    have hstopping := (h.barred hspares hduration).guarded.accepting
    by_cases htask : task = .lockoutExpired
    · subst htask
      exact ⟨1, Nat.le_add_left 1 room, unlocked_of_next hstopping hready room⟩
    -- The task leaves the timer where it is, one place further in front.
    rw [List.cons_append] at hready
    have hpop := TaskQueue.pop_of_ready hready
    obtain ⟨hattained, hlockout, more, hmore⟩ :=
      ranNext_of_locked h hspares hduration hlocked htask hpop
    have hone := runPending_of_pop host hstopping hpop
    generalize ranNext host task _ s = s' at hattained hlockout hmore hone
    have hready' : (s'.queue.promote s'.clock).ready = before ++ .lockoutExpired ::
        (after ++ more ++ (s'.queue.dueAt s'.clock).map (·.task)) := by
      rw [TaskQueue.ready_promote, hmore]
      simp only [List.append_assoc, List.cons_append]
    have hlocked' : host.Locked s' := by rwa [Host.Locked, hlockout]
    obtain ⟨k, hk, hended, hrest⟩ := ih hattained hlocked' hready' (Nat.lt_of_succ_lt_succ hroom)
    refine ⟨k + 1, Nat.succ_le_succ hk, ?_, ?_⟩
    · rw [hone k]
      exact hended
    · rw [hone room, hone k, Nat.add_sub_add_right]
      exact hrest

/-- Whatever happens, as long as the timer is left to the lockout: while authentication is locked,
    none is active and none begins, and one timer waits, which is due when the lockout is to end;
    else there is no timer. Only the timer ends a lockout, not before that is over, and every
    drain after that ends it. A drain itself goes turn by turn. -/
theorem Attained.lockout_excludes_authentication (h : record.Attained s)
    (hspares : host.SparesTimer) (hduration : 0 ≤ host.setup.lockout.duration) :
    s.lockout.failed.toNat ≤ host.setup.lockout.maxFailedAttempts.toNat + 1 ∧
    (¬host.Locked s → s.queue.timers = 0) ∧
    (host.Locked s → s.slots.authenticate = none ∧
      ∃ due, s.lockout.lockedUntil = some due ∧ s.queue.Armed s.clock due ∧
        (due ≤ s.clock → ∀ room ≥ s.queue.pending,
          ∃ k ≤ room, (host.engine.runPending k s).2.lockout = {} ∧
            (host.engine.runPending room s).2 =
              (host.engine.runPending (room - k) (host.engine.runPending k s).2).2)) ∧
    (∀ s', record.Turn s s' → record.Abides s s') ∧
    ∀ room, record.Attained (host.engine.runPending room s).2 := by
  have hs := h.barred hspares hduration
  refine ⟨hs.guarded.bounded, fun hunlocked => ?_, fun hlocked => ⟨hs.vacant hlocked, ?_⟩,
    fun s' hturn => (hturn.barred_and_abides hspares hduration h.reachable.sound hs).2, h.runPending⟩
  · exact (hs.guarded.disarmed (Bool.eq_false_iff.2 hunlocked)).2.2
  · obtain ⟨due, huntil, harmed⟩ := hs.guarded.armed hlocked
    refine ⟨due, huntil, harmed, fun hdue room hroom => ?_⟩
    obtain ⟨before, after, hready⟩ :=
      List.append_of_mem (harmed.mem_ready_promote hs.guarded.inOrder hdue)
    refine exists_unlocked_of_drain hspares hduration h hlocked hready (Nat.lt_of_lt_of_le ?_ hroom)
    have hlength := congrArg List.length hready
    rw [List.length_append, List.length_cons] at hlength
    have hpending := TaskQueue.pending_promote s.queue s.clock
    rw [TaskQueue.pending] at hpending
    omega

end Record

namespace Ledger

/-- Whoever keeps a ledger touches neither the queue nor the clock. -/
theorem sparesTimer (setup : Setup) (rule : (call : Call) → Except Fault call.Reply) :
    (Ledger.host setup rule).SparesTimer where
  answer call s := by
    have hrun : ((Ledger.host setup rule).answer call).run s =
        (rule call, { s with world := s.world ++ [.called call (rule call) s.slots s.speaker] }) :=
      Op.run_settle _ _
    rw [hrun]
    exact .refl
  client task := task.elim

theorem attained_perform (setup : Setup) (rule : (call : Call) → Except Fault call.Reply)
    {tasks : List (Task Empty)} (h : .lockoutExpired ∉ tasks) :
    (record setup rule).Attained (perform setup rule tasks) := by
  have hfold (s) (hs : (record setup rule).Attained s) : (record setup rule).Attained
      (tasks.foldl (fun s task => (((Ledger.host setup rule).perform task).run s).2) s) := by
    induction tasks generalizing s with
    | nil => exact hs
    | cons task tasks ih =>
      rw [List.mem_cons, not_or] at h
      exact ih h.2 _ (hs.turn (.performed s (Ne.symm h.1)))
  exact hfold _ (.fresh rfl rfl)

end Ledger

/-- Where no failure is tolerated, the first one enters a lockout and ends its session. Half a
    minute later, the timer is run by a drain, and ends the lockout. -/
theorem Record.Attained.lockout_excludes_authentication_of_failure :
    let setup : Setup := { lockout.maxFailedAttempts := 0 }
    let host := Ledger.host setup Ledger.obliging
    let s := Ledger.perform setup Ledger.obliging
      [.startAuthentication 1 (some "a") {}, .driverEvent (.authenticated 1 0 0)]
    let late := { s with clock := 30000 }
    (Ledger.record setup Ledger.obliging).Attained late ∧ host.SparesTimer ∧
      0 ≤ host.setup.lockout.duration ∧ host.Locked late ∧ late.slots.authenticate = none ∧
      ∃ due, late.lockout.lockedUntil = some due ∧ late.queue.Armed late.clock due ∧
        ∃ k ≤ 1, (host.engine.runPending k late).2.lockout = {} := by
  intro setup host s late
  have hs : (Ledger.record setup Ledger.obliging).Attained s :=
    Ledger.attained_perform setup Ledger.obliging (by decide)
  have hclock : s.clock ≤ 30000 := by decide
  have hlate : (Ledger.record setup Ledger.obliging).Attained late :=
    hs.turn (.elsewhere (.refl _) (.single (.advanced hclock)))
  have hspares := Ledger.sparesTimer setup Ledger.obliging
  have hlocked : host.Locked late := rfl
  obtain ⟨-, -, hbarred, -⟩ := hlate.lockout_excludes_authentication hspares (by decide)
  obtain ⟨hvacant, due, huntil, harmed, hdrain⟩ := hbarred hlocked
  have hdue : due ≤ late.clock := by
    obtain rfl : 30000 = due := Option.some.inj huntil
    exact Int.le_refl _
  obtain ⟨k, hk, hended, -⟩ := hdrain hdue 1 (by decide)
  exact ⟨hlate, hspares, by decide, hlocked, hvacant, due, huntil, harmed, k, hk, hended⟩

end Fingerprint
