import Fingerprint.Proofs.Independence

/-!
# The death of a caller

When a caller dies, the numbers of its registrations are collected, and then
what each waits for is done. Every session that ends on the way takes its
registration with it, so the table changes under the loop. As the
registrations are, one each, those of the sessions in their slots, the next
number is always that of the caller's next session: the loop ends the
caller's sessions, one after the other, and nothing else.

Nobody is left to be told, and the driver is not asked to give up. So all
that happens besides is that events are published.

* `Slots.without`, `Liveness.without`: slots and registrations without those of a caller;
* `System.ended`: a session whose caller has died has left its slot;
* `Record.Silent`: nothing but slots and registrations has changed, and nobody was asked;
* `Record.exists_run_runWatches`: the loop, by induction on the numbers that are left;
* `Record.Reachable.bereaved`.
-/

namespace Fingerprint

/-! ## Without a caller -/

namespace Slots

/-- The slots without the sessions of a caller. -/
def without (slots : Slots) (caller : CallerToken) : Slots where
  enroll := slots.enroll.filter (·.caller != caller)
  authenticate := slots.authenticate.filter (·.caller != caller)
  remove := slots.remove.filter (·.caller != caller)

/-- It makes no difference if a session of the caller has left before. -/
theorem without_set_none {slots : Slots} {kind : SessionKind} {x : Session} (h : slots.get kind = some x) :
    (slots.set kind none).without x.caller = slots.without x.caller := by
  cases kind <;> simp_all [without, set, get, Option.filter]

theorem without_eq_self {slots : Slots} {caller : CallerToken}
    (h : ∀ kind x, slots.get kind = some x → x.caller ≠ caller) : slots.without caller = slots := by
  have enroll := h .enroll
  have authenticate := h .authenticate
  have remove := h .remove
  rcases slots with ⟨_ | a, _ | b, _ | c⟩ <;> simp_all [without, get, Option.filter]

theorem length_sessions_le {slots : Slots} (exclusive : slots.enroll = none ∨ slots.authenticate = none) :
    slots.sessions.length ≤ 2 := by
  rcases slots with ⟨_ | a, _ | b, _ | c⟩ <;> simp_all [sessions]

end Slots

namespace Liveness

variable {δ : Type} {table : Liveness δ} {caller : CallerToken}

/-- The table without the entries of a caller. -/
def without (table : Liveness δ) (caller : CallerToken) : Liveness δ :=
  { table with entries := table.entries.filter (·.caller != caller) }

theorem entriesOf_eq_nil_iff :
    table.entriesOf caller = [] ↔ ∀ watch ∈ table.entries, watch.caller ≠ caller := by
  simp [entriesOf]

theorem entriesOf_without : (table.without caller).entriesOf caller = [] := by
  simp [entriesOf_eq_nil_iff, without]

theorem without_eq_self (h : table.entriesOf caller = []) : table.without caller = table := by
  rw [entriesOf_eq_nil_iff] at h
  rw [without, List.filter_eq_self.2 fun watch hwatch => by simpa using h watch hwatch]

/-- It makes no difference if an entry of the caller was taken out before. -/
theorem without_unregister {id : Nat}
    (h : ∀ watch ∈ table.entries, watch.id = id → watch.caller = caller) :
    (table.unregister id).without caller = table.without caller := by
  simp only [without, unregister, List.filter_filter]
  congr 1
  refine List.filter_congr fun watch hwatch => ?_
  by_cases hid : watch.id = id
  · simp [h watch hwatch hid]
  · simp [hid]

/-- Without the first of its entries, the caller has the others. -/
theorem entriesOf_unregister {id : Nat} {rest : List Nat}
    (inOrder : table.entries.Pairwise fun a b => a.id < b.id) (h : table.entriesOf caller = id :: rest) :
    (table.unregister id).entriesOf caller = rest := by
  have sorted : (id :: rest).Pairwise (· < ·) := by
    rw [← h, entriesOf]
    exact List.pairwise_map.2 (inOrder.sublist List.filter_sublist)
  have out : (table.unregister id).entriesOf caller = (table.entriesOf caller).filter (· != id) := by
    simp only [entriesOf, unregister, List.filter_map, List.filter_filter, Function.comp_def, Bool.and_comm]
  rw [out, h, List.filter_cons_of_neg (by simp), List.filter_eq_self]
  intro other hother
  have := List.rel_of_pairwise_cons sorted hother
  simp only [bne_iff_ne, ne_eq]
  omega

end Liveness

variable {ω κ : Type} {host : Host ω κ} {record : Record host} {s s' s'' : System ω κ}
  {caller : CallerToken} {x : Session}

/-! ## One session ends -/

/-- The state once a session has left its slot since its caller has died. -/
def System.ended (host : Host ω κ) (s : System ω κ) (x : Session) : System ω κ :=
  let told := { s with world := host.observe x.peerGoneEvent s }
  let left := { told with
    slots := s.slots.set x.kind none
    liveness := Host.releaseSession (some x) s.liveness }
  { left with world := host.observe x.removedEvent left }

namespace Host

theorem run_removeSession (hslot : s.slots.get x.kind = some x) :
    (host.removeSession x.kind x.id).run s =
      (host.publish x.removedEvent).run { s with
        slots := s.slots.set x.kind none
        liveness := releaseSession (some x) s.liveness } := by
  rw [removeSession, Op.run_get_bind, hslot]
  simp only [↓reduceIte]
  rfl

theorem run_endSession (hslot : s.slots.get x.kind = some x) :
    (host.endSession x.kind x.id).run s = (.ok (), s.ended host x) := by
  have hactive : (active x.kind : Op ω κ _).run s = (.ok (some x), s) := by
    rw [← hslot]
    rfl
  rw [endSession, Op.run_bind, hactive]
  simp only [↓reduceIte]
  exact run_removeSession (s := { s with world := host.observe x.peerGoneEvent s }) hslot

end Host

namespace Record

/-- From one state to another at most slots and registrations have changed, and nothing has happened
    but that events were published: nobody was asked for anything. -/
structure Silent (record : Record host) (s s' : System ω κ) : Prop where
  frame : s' = { s with slots := s'.slots, liveness := s'.liveness, world := s'.world }
  history : ∃ entries, record.history s'.world = record.history s.world ++ entries ∧
    ∀ entry ∈ entries, ∃ event slots, entry = .published event slots

namespace Silent

theorem refl (record : Record host) (s : System ω κ) : record.Silent s s :=
  ⟨rfl, [], (List.append_nil _).symm, by simp⟩

theorem trans (h : record.Silent s s') (h' : record.Silent s' s'') : record.Silent s s'' := by
  obtain ⟨entries, hentries, hall⟩ := h.history
  obtain ⟨more, hmore, hall'⟩ := h'.history
  refine ⟨?_, entries ++ more, by rw [hmore, hentries, List.append_assoc],
    List.forall_mem_append.2 ⟨hall, hall'⟩⟩
  rw [h'.frame, h.frame]

theorem published (record : Record host) (event : Event) (s : System ω κ) :
    record.Silent s { s with world := host.observe event s } :=
  ⟨rfl, [.published event s.slots], record.observe event s, by simp⟩

end Silent

/-- The view of the state once a session has ended. -/
theorem view_ended (record : Record host) (s : System ω κ) (x : Session) :
    (s.ended host x).view record.history =
      ((s.view record.history).log [.published x.peerGoneEvent s.slots]).leave x := by
  simp only [System.ended, System.view, View.log, View.leave, record.observe]

theorem silent_ended (record : Record host) (s : System ω κ) (x : Session) :
    record.Silent s (s.ended host x) := by
  refine ⟨rfl, [.published x.peerGoneEvent s.slots,
    .published x.removedEvent (s.slots.set x.kind none)], ?_, by simp⟩
  simp only [System.ended, record.observe, List.append_assoc, List.cons_append, List.nil_append]

/-! ## One after the other -/

/-- Where an entry is the next one of the caller, it is for a session of the caller that has its slot. -/
theorem exists_slotted (hs : (s.view record.history).Sound) (hregistered : (s.view record.history).Registered)
    {id : Nat} {rest : List Nat} (hids : s.liveness.entriesOf caller = id :: rest) :
    ∃ x, s.slots.get x.kind = some x ∧ x.caller = caller ∧ x.registration = ⟨some id, caller⟩ ∧
      s.liveness.find? id = some (x.watch id) := by
  have hmem : id ∈ s.liveness.entriesOf caller := by
    rw [hids]
    exact List.mem_cons_self
  obtain ⟨watch, hwatch, rfl, rfl⟩ := Liveness.mem_entriesOf.1 hmem
  obtain ⟨kind, x, hslot, hregistration, hown⟩ := hregistered.owned watch hwatch
  have hcaller : x.caller = watch.caller := by rw [hown]; rfl
  refine ⟨x, ?_, hcaller, by rw [hregistration, hcaller], ?_⟩
  · rw [hs.sorted kind x hslot]
    exact hslot
  · cases hfind : s.liveness.find? watch.id with
    | none =>
      have := List.find?_eq_none.1 hfind watch hwatch
      simp at this
    | some other =>
      have hid : other.id = watch.id := by simpa using List.find?_some hfind
      rw [(hs.distinct watch hwatch).2 other (List.mem_of_find?_eq_some hfind) hid, ← hown]

/-- The loop ends the caller's sessions, and nothing else. -/
theorem exists_run_runWatches (record : Record host) {ids : List Nat} (s : System ω κ)
    (hs : (s.view record.history).Sound) (hregistered : (s.view record.history).Registered)
    (hids : s.liveness.entriesOf caller = ids) :
    ∃ s', (host.runWatches ids).run s = (.ok (), s') ∧ record.Silent s s' ∧
      s'.slots = s.slots.without caller ∧ s'.liveness = s.liveness.without caller := by
  -- By induction on the numbers that are left: they are those of the entries that the caller still has.
  induction ids generalizing s with
  | nil =>
    refine ⟨s, rfl, .refl record s, (Slots.without_eq_self fun kind x hslot hcaller => ?_).symm,
      (Liveness.without_eq_self hids).symm⟩
    obtain ⟨n, -, hwatch⟩ := hregistered.held kind x hslot
    exact Liveness.entriesOf_eq_nil_iff.1 hids _ hwatch hcaller
  | cons id rest ih =>
    obtain ⟨x, hslot, hcaller, hregistration, hfind⟩ := exists_slotted hs hregistered hids
    have htold : (s.view record.history).Framed
        ((s.view record.history).log [.published x.peerGoneEvent s.slots]) :=
      .log rfl (by simp [Entry.slots?, System.view])
    have hs₁ : ((s.ended host x).view record.history).Sound := by
      rw [view_ended]
      exact (hs.framed htold).leave x
    have hregistered₁ : ((s.ended host x).view record.history).Registered := by
      rw [view_ended]
      exact (hregistered.framed htold).leave (hs.framed htold) hslot
    have hliveness : (s.ended host x).liveness = s.liveness.unregister id := by
      change (x.registration.release s.liveness).2 = _
      rw [hregistration]
      rfl
    obtain ⟨s', hrun, hsilent, hslots, hleft⟩ := ih (s.ended host x) hs₁ hregistered₁ (by
      rw [hliveness]
      exact Liveness.entriesOf_unregister hregistered.inOrder hids)
    refine ⟨s', ?_, (record.silent_ended s x).trans hsilent, ?_, ?_⟩
    · rw [Host.runWatches, Op.run_get_bind, hfind]
      simp only [Session.watch, Host.runDeathAction]
      rw [Op.run_bind, Host.run_endSession hslot]
      exact hrun
    · rw [hslots, ← hcaller]
      exact Slots.without_set_none hslot
    · rw [hleft, hliveness, Liveness.without_unregister fun watch hwatch hid => ?_]
      rw [← (hs.distinct watch hwatch).2 _ (List.mem_of_find?_eq_some hfind) hid.symm]
      exact hcaller

/-- Whoever has no session is not missed. -/
theorem run_callerDied_of_entriesOf (h : s.liveness.entriesOf caller = []) :
    (host.perform (.callerDied caller)).run s = (.ok (), s) := by
  rw [Host.perform, Host.callerDied, Op.run_get_bind, h]
  rfl

theorem exists_run_callerDied (record : Record host) (s : System ω κ)
    (hs : (s.view record.history).Sound) (hregistered : (s.view record.history).Registered)
    (caller : CallerToken) :
    ∃ s', (host.perform (.callerDied caller)).run s = (.ok (), s') ∧ record.Silent s s' ∧
      s'.slots = s.slots.without caller ∧ s'.liveness = s.liveness.without caller := by
  cases hids : s.liveness.entriesOf caller with
  | nil =>
    obtain ⟨s', hrun, hrest⟩ := record.exists_run_runWatches s hs hregistered hids
    obtain rfl := (Prod.mk.inj hrun).2
    exact ⟨s, run_callerDied_of_entriesOf hids, hrest⟩
  | cons id rest =>
    let event := Host.callerDiedEvent caller (id :: rest).length
    have hview : ({ s with world := host.observe event s } : System ω κ).view record.history =
        (s.view record.history).log [.published event s.slots] := by
      simp only [System.view, View.log, record.observe]
    have htold : (s.view record.history).Framed ((s.view record.history).log [.published event s.slots]) :=
      .log rfl (by simp [Entry.slots?, System.view])
    obtain ⟨s', hrun, hsilent, hleft⟩ :=
      record.exists_run_runWatches { s with world := host.observe event s }
        (hview ▸ hs.framed htold) (hview ▸ hregistered.framed htold) hids
    refine ⟨s', ?_, (Silent.published record event s).trans hsilent, hleft⟩
    rw [Host.perform, Host.callerDied, Op.run_get_bind, hids]
    exact hrun

/-- In every state that runs lead to, the death of a caller empties exactly the slots of its sessions, of
    which there are two at most, and takes exactly their registrations out. Nobody is asked for
    anything, and nothing else changes. To die again changes nothing, and neither does the
    death of a caller that has no session. -/
theorem Reachable.bereaved (h : record.Reachable s) (caller : CallerToken) :
    ∃ s', (host.perform (.callerDied caller)).run s = (.ok (), s') ∧ record.Silent s s' ∧
      s'.slots = s.slots.without caller ∧ s'.liveness = s.liveness.without caller ∧
      (s.slots.sessions.filter (·.caller == caller)).length ≤ 2 ∧
      (host.perform (.callerDied caller)).run s' = (.ok (), s') ∧
      ((∀ x ∈ s.slots.sessions, x.caller ≠ caller) → s' = s) := by
  obtain ⟨hs, -, hregistered⟩ := h.orderly
  obtain ⟨s', hrun, hsilent, hslots, hliveness⟩ := record.exists_run_callerDied s hs hregistered caller
  refine ⟨s', hrun, hsilent, hslots, hliveness, ?_, run_callerDied_of_entriesOf ?_, fun hnone => ?_⟩
  · exact Nat.le_trans (List.length_filter_le _ _) (Slots.length_sessions_le hs.exclusive)
  · rw [hliveness]
    exact Liveness.entriesOf_without
  · have hids : s.liveness.entriesOf caller = [] := by
      refine Liveness.entriesOf_eq_nil_iff.2 fun watch hwatch => ?_
      obtain ⟨kind, x, hslot, -, hown⟩ := hregistered.owned watch hwatch
      rw [hown]
      exact hnone x (Slots.mem_sessions.2 ⟨kind, hslot⟩)
    exact (Prod.mk.inj (hrun.symm.trans (run_callerDied_of_entriesOf hids))).2

/-- Of two callers, the one who enrolls and removes dies once the other has preempted the enrollment:
    the removal ends, and the authentication of the other goes on. -/
theorem Reachable.bereaved_of_preemption :
    let tasks := [.startEnrollment 1 (some "a") {}, .startRemove 1 (some "a") {},
      .startAuthentication 2 (some "b") {}]
    let s := Ledger.perform {} Ledger.obliging tasks
    s.slots.sessions.map (·.caller) = [2, 1] ∧
      ∃ s', ((Ledger.host {} Ledger.obliging).perform (.callerDied 1)).run s = (.ok (), s') ∧
        s'.slots.sessions.map (·.caller) = [2] ∧ s'.liveness.entries.map (·.caller) = [2] := by
  intro tasks s
  obtain ⟨s', hrun, -, hslots, hliveness, -⟩ :=
    (Ledger.reachable_perform {} Ledger.obliging tasks).bereaved 1
  refine ⟨by decide, s', hrun, ?_, ?_⟩
  · rw [hslots]
    decide
  · rw [hliveness]
    decide

end Record

end Fingerprint
