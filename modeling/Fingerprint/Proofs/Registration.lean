import Fingerprint.Proofs.Ledger

/-!
# Who waits for the death of callers

A session waits for the death of its caller for exactly as long as it has its
slot: its handle is to the one entry that would end it, and there are no
entries but those of the sessions in their slots.

* `View.Registered`: the entries are those of the active sessions;
* `Episode.registered`: every episode keeps it so;
* `Record.Reachable.registered`.
-/

namespace Fingerprint

/-- The active sessions. -/
def Slots.sessions (slots : Slots) : List Session :=
  slots.enroll.toList ++ slots.authenticate.toList ++ slots.remove.toList

theorem Slots.mem_sessions {slots : Slots} {x : Session} :
    x ∈ slots.sessions ↔ ∃ kind, slots.get kind = some x := by
  simp only [sessions, List.mem_append, Option.mem_toList]
  constructor
  · rintro ((h | h) | h)
    · exact ⟨.enroll, h⟩
    · exact ⟨.authenticate, h⟩
    · exact ⟨.remove, h⟩
  · rintro ⟨kind, h⟩
    cases kind with
    | enroll => exact .inl (.inl h)
    | authenticate => exact .inl (.inr h)
    | remove => exact .inr h

/-- No two active sessions are of one kind. -/
theorem Slots.pairwise_sessions {slots : Slots}
    (hsorted : ∀ kind x, slots.get kind = some x → x.kind = kind) :
    slots.sessions.Pairwise fun a b => a.kind ≠ b.kind := by
  have henroll := hsorted .enroll
  have hauthenticate := hsorted .authenticate
  have hremove := hsorted .remove
  rcases slots with ⟨_ | a, _ | b, _ | c⟩ <;> simp_all [sessions, get]

namespace Watch

variable {κ : Type}

/-- Whether an entry is for the session of a kind with an identity: at the death of the
    caller, that session ends. -/
def isFor (watch : Watch (DeathAction κ)) (kind : SessionKind) (id : Nat) : Bool :=
  match watch.onDeath with
  | some (.endSession k i) => k = kind && i = id
  | _ => false

theorem isFor_iff {watch : Watch (DeathAction κ)} {kind : SessionKind} {id : Nat} :
    watch.isFor kind id ↔ watch.onDeath = some (.endSession kind id) := by
  rw [isFor]
  split
  · next k i hdeath => simp [hdeath]
  · next hother => simpa using hother kind id

end Watch

/-- The entry of a session under a number. -/
def Session.watch {κ : Type} (x : Session) (n : Nat) : Watch (DeathAction κ) :=
  ⟨n, x.caller, some (.endSession x.kind x.id)⟩

namespace View

variable {κ : Type} {v v' : View κ} {x : Session}

/-- The entries for the deaths of callers are those of the active sessions. -/
structure Registered (v : View κ) : Prop where
  inOrder : v.liveness.entries.Pairwise fun a b => a.id < b.id
  held : ∀ kind x, v.slots.get kind = some x → ∃ n,
    x.registration = ⟨some n, x.caller⟩ ∧ x.watch n ∈ v.liveness.entries
  owned : ∀ watch ∈ v.liveness.entries, ∃ kind x, v.slots.get kind = some x ∧
    x.registration = ⟨some watch.id, x.caller⟩ ∧ watch = x.watch watch.id

namespace Registered

theorem fresh : ({} : View κ).Registered where
  inOrder := .nil
  held kind x hx := by cases kind <;> cases hx
  owned watch hwatch := absurd hwatch List.not_mem_nil

theorem framed (h : v.Registered) (hframed : v.Framed v') : v'.Registered := by
  obtain ⟨hslots, hliveness, -, -⟩ := hframed
  refine ⟨?_, ?_, ?_⟩ <;> rw [hliveness]
  · exact h.inOrder
  · rw [hslots]
    exact h.held
  · rw [hslots]
    exact h.owned

/-- A session that gets its slot is registered under the next number. -/
theorem enter (h : v.Registered) (hv : v.Sound) (vacant : v.slots.get x.kind = none)
    (hregistration : x.registration = ⟨some v.liveness.nextId, x.caller⟩) (message : Bytes) :
    (v.enter x message).Registered where
  inOrder := by
    refine List.pairwise_append.2 ⟨h.inOrder, List.pairwise_singleton _ _, ?_⟩
    intro watch hwatch other hother
    rw [List.mem_singleton.1 hother]
    exact (hv.distinct watch hwatch).1
  held kind y hy := by
    rcases get_set_cases hy with ⟨-, hx⟩ | ⟨-, hy⟩
    · obtain rfl := Option.some.inj hx
      exact ⟨_, hregistration, List.mem_append_right _ (List.mem_singleton_self _)⟩
    · obtain ⟨n, hn, hmem⟩ := h.held kind y hy
      exact ⟨n, hn, List.mem_append_left _ hmem⟩
  owned watch hwatch := by
    change ∃ kind y, (v.slots.set x.kind (some x)).get kind = some y ∧ _
    rcases List.mem_append.1 hwatch with hold | hnew
    · obtain ⟨kind, y, hy, howned⟩ := h.owned watch hold
      refine ⟨kind, y, ?_, howned⟩
      -- The slot of the newcomer was empty, so this is another one.
      rw [Slots.get_set_of_ne, hy]
      rintro rfl
      rw [vacant] at hy
      cases hy
    · obtain rfl := List.mem_singleton.1 hnew
      exact ⟨x.kind, x, Slots.get_set_self .., hregistration, rfl⟩

/-- A session that leaves its slot takes its entry with it, and no other. -/
theorem leave (h : v.Registered) (hv : v.Sound) (hslot : v.slots.get x.kind = some x) :
    (v.leave x).Registered := by
  obtain ⟨n, hn, hmem⟩ := h.held x.kind x hslot
  have hentries : (v.leave x).liveness.entries = (v.liveness.unregister n).entries := by
    change (x.registration.release v.liveness).2.entries = _
    rw [Registration.release, hn]
  -- Another session in its slot has another number, since the entry of a number is for one.
  have hother {kind y m} (hy : v.slots.get kind = some y)
      (hwatch : (y.watch m : Watch (DeathAction κ)) ∈ v.liveness.entries)
      (hkind : kind ≠ x.kind) : m ≠ n := by
    rintro rfl
    have hsame := (hv.distinct _ hmem).2 _ hwatch rfl
    simp only [Session.watch, Watch.mk.injEq, Option.some.injEq, DeathAction.endSession.injEq] at hsame
    exact hkind ((hv.sorted kind y hy).symm.trans hsame.2.2.1)
  refine ⟨?_, fun kind y hy => ?_, fun watch hwatch => ?_⟩
  · rw [hentries]
    exact h.inOrder.sublist List.filter_sublist
  · rcases get_set_cases hy with ⟨-, hnone⟩ | ⟨hkind, hy⟩
    · cases hnone
    · obtain ⟨m, hm, hwatch⟩ := h.held kind y hy
      refine ⟨m, hm, ?_⟩
      rw [hentries]
      exact Liveness.mem_unregister.2 ⟨hwatch, hother hy hwatch hkind⟩
  · rw [hentries] at hwatch
    obtain ⟨hold, hne⟩ := Liveness.mem_unregister.1 hwatch
    obtain ⟨kind, y, hy, hy', hown⟩ := h.owned watch hold
    refine ⟨kind, y, ?_, hy', hown⟩
    change (v.slots.set x.kind none).get kind = some y
    rw [Slots.get_set_of_ne, hy]
    rintro rfl
    rw [hslot] at hy
    obtain rfl := Option.some.inj hy
    rw [hn] at hy'
    cases hy'
    exact hne rfl

theorem nodup_entries (h : v.Registered) : v.liveness.entries.Nodup :=
  h.inOrder.imp fun hlt heq => Nat.ne_of_lt hlt (congrArg Watch.id heq)

/-- The only entry that is for a session in its slot. -/
theorem filter_isFor (h : v.Registered) (hv : v.Sound) {kind : SessionKind}
    (hslot : v.slots.get kind = some x) {n : Nat} (hn : x.registration = ⟨some n, x.caller⟩)
    (hmem : x.watch n ∈ v.liveness.entries) :
    v.liveness.entries.filter (·.isFor kind x.id) = [x.watch n] := by
  obtain rfl := hv.sorted kind x hslot
  refine List.perm_singleton.1 ?_
  rw [List.perm_ext_iff_of_nodup (h.nodup_entries.filter _) (List.pairwise_singleton _ _)]
  intro watch
  rw [List.mem_filter, List.mem_singleton, Watch.isFor_iff]
  constructor
  · rintro ⟨hwatch, hfor⟩
    obtain ⟨kind, y, hy, hy', hown⟩ := h.owned watch hwatch
    rw [hown] at hfor
    obtain ⟨hkind, -⟩ : y.kind = x.kind ∧ y.id = x.id := by simpa [Session.watch] using hfor
    rw [← hv.sorted kind y hy, hkind, hslot] at hy
    obtain rfl := Option.some.inj hy
    rw [hn] at hy'
    cases hy'
    exact hown
  · rintro rfl
    exact ⟨hmem, rfl⟩

/-- The entries are, one each, those of the active sessions. -/
theorem entries_perm (h : v.Registered) (hv : v.Sound) :
    v.liveness.entries.Perm
      (v.slots.sessions.map fun x => x.watch (x.registration.id.getD 0)) := by
  rw [List.perm_ext_iff_of_nodup h.nodup_entries ?_]
  · intro watch
    rw [List.mem_map]
    constructor
    · intro hwatch
      obtain ⟨kind, x, hx, hregistration, hown⟩ := h.owned watch hwatch
      refine ⟨x, Slots.mem_sessions.2 ⟨kind, hx⟩, ?_⟩
      rw [hregistration]
      exact hown.symm
    · rintro ⟨x, hx, rfl⟩
      obtain ⟨kind, hx⟩ := Slots.mem_sessions.1 hx
      obtain ⟨n, hn, hmem⟩ := h.held kind x hx
      rw [hn]
      exact hmem
  · have hkinds := Slots.pairwise_sessions hv.sorted
    refine List.pairwise_map.2 (hkinds.imp fun hkind hsame => hkind ?_)
    simp only [Session.watch, Watch.mk.injEq, Option.some.injEq, DeathAction.endSession.injEq] at hsame
    exact hsame.2.2.1

end Registered

end View

variable {κ : Type} {v v' : View κ}

theorem Episode.registered (h : Episode v v') (hv : v.Sound) (hregistered : v.Registered) :
    v'.Registered := by
  cases h with
  | noted h => exact hregistered.framed h.framed
  | lockout lockout => exact hregistered.framed (.lockout v lockout)
  | numbered => exact ⟨hregistered.inOrder, hregistered.held, hregistered.owned⟩
  | refused _ kept told =>
    have hnumbered : View.Registered { v with nextSession := v.nextSession + 1 } :=
      ⟨hregistered.inOrder, hregistered.held, hregistered.owned⟩
    exact hnumbered.framed (kept.framed.trans told.framed)
  | mourned => exact hregistered.framed (.log rfl (by simp [Entry.slots?]))
  | launched _ hregistration vacant _ _ asked =>
    exact (hregistered.enter hv vacant hregistration _).framed asked.framed
  | progressed _ _ told => exact hregistered.framed told.framed
  | parted hslot parting =>
    refine (hregistered.framed parting.framed).leave (hv.framed parting.framed) ?_
    rw [parting.framed.slots, hv.sorted _ _ hslot, hslot]

/-- Along every run, each session in its slot has one entry, under the number in its handle and
    its own caller, each entry is the one of a session in its slot, and so there are as many
    entries as there are active sessions. -/
theorem Record.Reachable.one_entry_each {ω : Type} {host : Host ω κ} {record : Record host}
    {s : System ω κ} (h : record.Reachable s) :
    (∀ kind x, s.slots.get kind = some x → ∃ n, x.registration = ⟨some n, x.caller⟩ ∧
      s.liveness.entries.filter (·.isFor kind x.id) = [x.watch n]) ∧
    (∀ watch ∈ s.liveness.entries, ∃ kind x, s.slots.get kind = some x ∧
      x.registration.id = some watch.id ∧ watch = x.watch watch.id) ∧
    s.liveness.size = s.slots.sessions.length := by
  obtain ⟨hsound, hregistered⟩ :=
    h.invariant (P := fun v => v.Sound ∧ v.Registered) ⟨.fresh, .fresh⟩
      fun v v' hepisode ⟨hv, hregistered⟩ => ⟨hepisode.sound hv, hepisode.registered hv hregistered⟩
  refine ⟨fun kind x hx => ?_, fun watch hwatch => ?_, ?_⟩
  · obtain ⟨n, hn, hmem⟩ := hregistered.held kind x hx
    exact ⟨n, hn, hregistered.filter_isFor hsound hx hn hmem⟩
  · obtain ⟨kind, x, hx, hregistration, hown⟩ := hregistered.owned watch hwatch
    exact ⟨kind, x, hx, by rw [hregistration], hown⟩
  · have hlength := (hregistered.entries_perm hsound).length_eq
    rwa [List.length_map] at hlength

/-- Of two callers, the one who enrolls is preempted by the other, who has a removal as well:
    two sessions are active then, and two deaths are waited for. -/
theorem Record.Reachable.one_entry_each_of_preemption :
    let tasks := [.startEnrollment 1 (some "a") {}, .startRemove 2 (some "b") {},
      .startAuthentication 2 (some "b") {}]
    let s := Ledger.perform {} Ledger.obliging tasks
    s.slots.sessions.map (·.caller) = [2, 2] ∧ s.liveness.size = s.slots.sessions.length := by
  intro tasks s
  exact ⟨by decide, (Ledger.reachable_perform {} Ledger.obliging tasks).one_entry_each.2.2⟩

end Fingerprint
