import Fingerprint.Proofs.Conduct
import Fingerprint.Proofs.Guard
import Fingerprint.Proofs.Lockout
import Fingerprint.Proofs.Routing
import Fingerprint.Proofs.Service

/-!
# What leaves a lockout alone

Of the tasks, only the result of an authentication is counted, and the session
that has come to its result leaves its slot after that. All else is calm: the
lockout and its timer stay as they are, provided that those who answer calls
keep their hands off the timer, and an authentication begins only if that is
not locked.

* `Host.SparesTimer`: the hosts of which that can be said;
* `Record.Calm`, and `Record.calm_of_acts`: what the coordinator does is calm;
* `Record.Counted`, and `Record.counted_dispatch`;
* `Record.calm_or_counted_perform`: a task is one or the other.
-/

namespace Fingerprint

variable {ω κ α β : Type} {host : Host ω κ}

/-- The queue, and the time on its clock. -/
def System.moment (s : System ω κ) : TaskQueue (Task κ) × Int := (s.queue, s.clock)

/-- Whoever answers a call or runs a client's task leaves the timer to the lockout. -/
structure Host.SparesTimer (host : Host ω κ) : Prop where
  answer : ∀ (call : Call) (s : System ω κ),
    TaskQueue.Sparing s.moment ((host.answer call).run s).2.moment
  client : ∀ (task : κ) (s : System ω κ),
    TaskQueue.Sparing s.moment ((host.client task).run s).2.moment

/-- Whether authentication is locked. -/
def Host.Locked (host : Host ω κ) (s : System ω κ) : Prop := s.lockout.isLocked host.setup.lockout

/-- Whether a driver was asked to begin an authentication. -/
def Entry.asksAuthentication : Entry → Bool
  | called call .. => call.isAuthenticate
  | _ => false

theorem Entry.asksAuthentication_of_isNote {entry : Entry} (h : entry.isNote) :
    entry.asksAuthentication = false := by
  cases entry with
  | published | emitted => rfl
  | called call =>
    cases call with
    | driver handle call =>
      cases call <;> first | rfl | cases h
    | _ => rfl

namespace Record

variable {record : Record host} {leave : Prop} {s s' s'' : System ω κ}

/-! ## What leaves the lockout alone -/

/-- From one state to another, the lockout and its timer were left alone, and with leave only,
    an authentication was begun. -/
structure Calm (record : Record host) (leave : Prop) (s s' : System ω κ) : Prop where
  lockout : s'.lockout = s.lockout
  moment : TaskQueue.Sparing s.moment s'.moment
  slot : s'.slots.authenticate = s.slots.authenticate ∨ s'.slots.authenticate = none ∨ leave
  history : ∃ entries, record.history s'.world = record.history s.world ++ entries ∧
    ∀ entry ∈ entries, entry.asksAuthentication → leave

namespace Calm

theorem refl (s : System ω κ) : record.Calm leave s s :=
  ⟨rfl, .refl, .inl rfl, [], (List.append_nil _).symm, by simp⟩

theorem trans (h : record.Calm leave s s') (h' : record.Calm leave s' s'') :
    record.Calm leave s s'' where
  lockout := h'.lockout.trans h.lockout
  moment := h.moment.trans h'.moment
  slot := by
    rcases h'.slot with hsame | hrest
    · rw [hsame]
      exact h.slot
    · exact .inr hrest
  history := by
    obtain ⟨entries, hentries, hleave⟩ := h.history
    obtain ⟨more, hmore, hleave'⟩ := h'.history
    exact ⟨entries ++ more, by rw [hmore, hentries, List.append_assoc],
      List.forall_mem_append.2 ⟨hleave, hleave'⟩⟩

theorem mono {leave' : Prop} (h : record.Calm leave s s') (hleave : leave → leave') :
    record.Calm leave' s s' where
  lockout := h.lockout
  moment := h.moment
  slot := h.slot.imp_right (·.imp_right hleave)
  history := by
    obtain ⟨entries, hentries, hasks⟩ := h.history
    exact ⟨entries, hentries, fun entry hentry hask => hleave (hasks entry hentry hask)⟩

/-- Notes are calm, and so is what is taken down before them. -/
theorem of_noted {entries : List Entry}
    (hnoted : ((s.view record.history).log entries).Noted (s'.view record.history))
    (hentries : ∀ entry ∈ entries, entry.asksAuthentication → leave)
    (hmoment : TaskQueue.Sparing s.moment s'.moment) : record.Calm leave s s' := by
  obtain ⟨connection, notes, hnotes, hview, -⟩ := hnoted
  have hhistory : record.history s'.world = record.history s.world ++ entries ++ notes :=
    congrArg View.history hview
  refine ⟨congrArg View.lockout hview, hmoment, .inl (congrArg (·.slots.authenticate) hview),
    entries ++ notes, ?_, ?_⟩
  · rw [hhistory, List.append_assoc]
  · refine List.forall_mem_append.2 ⟨hentries, fun note hnote hask => ?_⟩
    rw [Entry.asksAuthentication_of_isNote (hnotes note hnote).1] at hask
    cases hask

theorem clock (h : record.Calm leave s s') : s.clock ≤ s'.clock := h.moment.clock_le

theorem guarded (h : record.Calm leave s s')
    (hguarded : Lockout.Guarded host.setup.lockout s.lockout s.queue s.clock) :
    Lockout.Guarded host.setup.lockout s'.lockout s'.queue s'.clock := by
  rw [h.lockout]
  exact hguarded.sparing h.moment

end Calm

/-- So is all that concerns no session. -/
theorem calm_of_noted (hnoted : (s.view record.history).Noted (s'.view record.history))
    (hmoment : TaskQueue.Sparing s.moment s'.moment) : record.Calm leave s s' := by
  rw [← View.log_nil (s.view record.history)] at hnoted
  exact .of_noted hnoted (by simp) hmoment

theorem calm_of_act (record : Record host) (hspares : host.SparesTimer) (h : Act host leave s s') :
    record.Calm leave s s' := by
  cases h with
  | published event =>
    refine ⟨rfl, .refl, .inl rfl, [.published event s.slots], record.observe event s, ?_⟩
    rw [List.forall_mem_singleton]
    exact nofun
  | called call _ hcall =>
    refine .of_noted (record.answer call s).1.1 ?_ (hspares.answer call s)
    rwa [List.forall_mem_singleton]
  | client task => exact calm_of_noted (record.client task s).1 (hspares.client task s)
  | changed slots liveness connection nextSession speaker hslot =>
    exact ⟨rfl, .refl, hslot, [], (List.append_nil _).symm, by simp⟩

theorem calm_of_acts (record : Record host) (hspares : host.SparesTimer) (h : Acts host leave s s') :
    record.Calm leave s s' := by
  induction h with
  | refl => exact .refl s
  | tail _ hact ih => exact ih.trans (record.calm_of_act hspares hact)

theorem calm_of_conducts (record : Record host) (hspares : host.SparesTimer) {op : Op ω κ α}
    (h : host.Conducts leave op) (s : System ω κ) : record.Calm leave s (op.run s).2 :=
  record.calm_of_acts hspares (h s)

/-! ## Results -/

/-- From one state to another, the result of an authentication was counted, and the slot for
    authentications is empty after that. -/
def Counted (record : Record host) (s s' : System ω κ) : Prop :=
  ∃ s₁ s₂, record.Calm False s s₁ ∧
    (s₂ = (host.recordFailure.run s₁).2 ∨ s₂ = ((Host.recordSuccess : Op ω κ Unit).run s₁).2) ∧
    record.Calm False s₂ s' ∧ s'.slots.authenticate = none

/-- The result of the active authentication is counted, whoever can be told of it. -/
theorem counted_dispatch (record : Record host) (hspares : host.SparesTimer)
    (hsound : (s.view record.history).Sound) {x : Session} (hslot : s.slots.authenticate = some x) (device : UInt64)
    (id : UInt32) (subject : Int32) :
    record.Counted s ((host.dispatch (.authenticated device id subject)).run s).2 := by
  have hvacant := record.authenticate_eq_none hsound hslot device id subject
  obtain ⟨world, hcheck⟩ := host.run_checkDevice (.authenticated device id subject) s
  have hrun : (host.dispatch (.authenticated device id subject)).run s =
      (host.dispatchAuthenticated device id subject).run { s with world } := by
    change ((host.checkDevice _) >>= _ : Op ω κ Unit).run s = _
    rw [Op.run_bind, hcheck]
  have hnoted : record.Calm False s ((host.checkDevice (.authenticated device id subject)).run s).2 :=
    record.calm_of_conducts hspares (Host.pervasive_conducts.coarse.checkDevice _) s
  rw [hcheck] at hnoted
  rw [hrun] at hvacant ⊢
  have hslot' : ({ s with world } : System ω κ).slots.authenticate = some x := hslot
  obtain ⟨s₁, s₂, hbefore, hcounted, hafter⟩ :=
    host.acts_dispatchAuthenticated False hslot' device id subject
  exact ⟨s₁, s₂, hnoted.trans (record.calm_of_acts hspares hbefore), hcounted, record.calm_of_acts hspares hafter,
    hvacant⟩

/-- A task is calm, or it counts the result of the active authentication. -/
theorem calm_or_counted_perform (record : Record host) (hspares : host.SparesTimer)
    (hsound : (s.view record.history).Sound) {task : Task κ} (htask : task ≠ .lockoutExpired) :
    record.Calm (¬host.Locked s) s ((host.perform task).run s).2 ∨
      s.slots.authenticate ≠ none ∧ record.Counted s ((host.perform task).run s).2 := by
  cases hsettles : task.settles s.slots with
  | false => exact .inl (record.calm_of_acts hspares (Host.acts_perform record hsettles))
  | true =>
    cases task with
    | driverEvent event =>
      cases event with
      | authenticated device id subject =>
        obtain ⟨x, hslot⟩ := Option.isSome_iff_exists.1 hsettles
        exact .inr ⟨by simp [hslot], record.counted_dispatch hspares hsound hslot device id subject⟩
      | _ => cases hsettles
    | lockoutExpired => exact absurd rfl htask
    | _ => cases hsettles

end Record

end Fingerprint
