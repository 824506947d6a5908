import Fingerprint.Proofs.Ledger
import Fingerprint.Proofs.Tale

/-!
# Who has the sensor

When the driver is asked for an enrollment or an authentication while it is at
another one. An operation is abandoned when its session leaves its slot and the
driver is not asked to give it up: when the caller has died, when an acquisition
was not delivered, or when an enrollment ends with a completion that was not its
own. These are the only ways in which one operation gets in the way of another,
and the only tasks by which sessions are dropped.

* `slotsAfter`: what the slots hold, by what has happened;
* `Abandoned`;
* `Record.Reachable.exclusive_iff_not_abandoned`: along every run whose driver
  stays and accepts, the driver is asked for an enrollment or an
  authentication while it is at one exactly if that one was abandoned.
-/

namespace Fingerprint

/-- What the slots held when that was put down last. -/
def slotsAfter (history : List Entry) : Slots := (history.filterMap Entry.slots?).getLast?.getD {}

/-- What has happened to a session that leaves its slot without the driver being asked to
    give up: its caller has died, or it has no sink, or its sink was told that the enrollment
    is complete, or has not taken an acquisition. -/
inductive Unasked (x : Session) : List Entry → Prop
  | callerDied {before : List Entry} {slots : Slots} :
      Unasked x (before ++ [.published x.peerGoneEvent slots])
  | sinkless {before : List Entry} (hsink : x.sink = none) : Unasked x before
  | told {before notes : List Entry} {sink : SinkName} {callback : Callback}
      {outcome : Except Fault (Call.sink sink callback).Reply} {slots : Slots} (hsink : x.sink = some sink)
      (h : View.EndsUnasked x.kind callback outcome.isOk) (hnotes : Notes slots notes) :
      Unasked x (before ++ .called (.sink sink callback) outcome slots (some x.id) :: notes)

/-- Whether an operation of a kind goes on whose session was in its slot and has left it without the
    driver being asked to give it up. -/
def Abandoned (kind : SessionKind) (history : List Entry) : Prop :=
  ∃ (x : Session) (before after : List Entry) (slots : Slots), x.kind = kind ∧
    history = before ++ .published x.removedEvent slots :: after ∧
    (slotsAfter before).get kind = some x ∧ outstanding kind before ∧ Unasked x before ∧
    ∀ entry ∈ after, entry.ends kind = false

/-- Whether something was so each time the driver was asked to begin an enrollment or an
    authentication. -/
def AtClaims (P : List Entry → Prop) (history : List Entry) : Prop :=
  ∀ before entry, before ++ [entry] <+: history → entry.claimsSensor → P before

section

variable {kind : SessionKind} {history entries : List Entry} {P Q : List Entry → Prop}

/-- What is put down while the slots hold what they held does not change what they hold. -/
theorem slotsAfter_append (h : ∀ entry ∈ entries, ∀ held ∈ entry.slots?, held = slotsAfter history) :
    slotsAfter (history ++ entries) = slotsAfter history := by
  induction entries generalizing history with
  | nil => rw [List.append_nil]
  | cons entry entries ih =>
    obtain ⟨hentry, hrest⟩ := List.forall_mem_cons.1 h
    have hsame : slotsAfter (history ++ [entry]) = slotsAfter history := by
      cases hheld : entry.slots? with
      | none => simp [slotsAfter, hheld]
      | some held => simp [slotsAfter, hheld, hentry held hheld]
    rw [List.append_cons, ih (hsame.symm ▸ hrest), hsame]

/-- An event tells what the slots hold. -/
theorem slotsAfter_published (event : Event) (slots : Slots) :
    slotsAfter (history ++ [.published event slots]) = slots := by
  simp [slotsAfter, Entry.slots?]

theorem Abandoned.outstanding (h : Abandoned kind history) : outstanding kind history := by
  obtain ⟨x, before, after, slots, -, rfl, -, hbefore, -, hafter⟩ := h
  exact outstanding_append_of_not_ends (List.forall_mem_cons.2 ⟨rfl, hafter⟩) hbefore

theorem Abandoned.append (h : Abandoned kind history)
    (hends : ∀ entry ∈ entries, entry.ends kind = false) : Abandoned kind (history ++ entries) := by
  obtain ⟨x, before, after, slots, hkind, rfl, hslot, hbefore, hunasked, hafter⟩ := h
  refine ⟨x, before, after ++ entries, slots, hkind, ?_, hslot, hbefore, hunasked,
    List.forall_mem_append.2 ⟨hafter, hends⟩⟩
  rw [List.append_assoc, List.cons_append]

theorem atClaims_concat (entry : Entry) :
    AtClaims P (history ++ [entry]) ↔ AtClaims P history ∧ (entry.claimsSensor → P history) := by
  constructor
  · intro h
    refine ⟨fun before other hlist hclaims => ?_, ?_⟩
    · exact h before other (hlist.trans (List.prefix_append _ _)) hclaims
    · exact h history entry (List.prefix_refl _)
  · rintro ⟨hbefore, hlast⟩ before other hlist hclaims
    rcases List.prefix_concat_iff.1 hlist with hsame | hlist
    · obtain ⟨rfl, hentry⟩ := List.append_inj' hsame rfl
      obtain rfl := List.singleton_inj.1 hentry
      exact hlast hclaims
    · exact hbefore before other hlist hclaims

theorem AtClaims.append (h : AtClaims P history)
    (hclaims : ∀ entry ∈ entries, entry.claimsSensor = false) :
    AtClaims P (history ++ entries) := by
  induction entries generalizing history with
  | nil => rwa [List.append_nil]
  | cons entry entries ih =>
    obtain ⟨hentry, hrest⟩ := List.forall_mem_cons.1 hclaims
    rw [List.append_cons]
    exact ih ((atClaims_concat entry).2 ⟨h, by simp [hentry]⟩) hrest

end

namespace View

variable {κ : Type} {v v' : View κ} {x : Session} {kind : SessionKind}

namespace Idle

/-- What was abandoned still is, as long as it goes on. -/
theorem abandoned (h : v.Idle v') (hkind : kind ≠ .remove) (hv' : Fingerprint.outstanding kind v'.history)
    (habandoned : Abandoned kind v.history) : Abandoned kind v'.history := by
  obtain ⟨-, entries, hentries, hends⟩ := h.outstanding hkind hv'
  rw [hentries]
  exact habandoned.append hends

theorem atClaims {P : List Entry → Prop} (h : v.Idle v') (hv : AtClaims P v.history) :
    AtClaims P v'.history := by
  obtain ⟨entries, hentries, hidle⟩ := h
  rw [hentries]
  exact hv.append hidle

end Idle

/-- A session parts from its slot while its operation goes on only if the driver is not asked
    to give it up. -/
theorem Parting.unasked_of_outstanding (h : v.Parting x v') (hkind : x.kind ≠ .remove)
    (hv : v.connected) (hobliging : ∀ entry ∈ v.history, entry.isRefusal = false)
    (hbusy : Fingerprint.outstanding x.kind v'.history) : Unasked x v'.history := by
  cases h with
  | canceled kept halted told =>
    have hbefore := (told.idle.outstanding hkind hbusy).1
    rw [halted.not_outstanding hkind] at hbefore
    cases hbefore
  | rejected refusal =>
    -- A driver that obliges refuses nothing.
    obtain ⟨entry, hentry, hrefusal⟩ := refusal
    rw [hobliging entry hentry] at hrefusal
    cases hrefusal
  | died => exact .callerDied
  | asked told _ eased stopped =>
    -- The driver is there, and was asked to give up.
    rw [stopped.not_outstanding hkind (eased.connected (told.connected hv))] at hbusy
    cases hbusy
  | unasked told _ kept ends =>
    cases told with
    | nowhere hsink => exact .sinkless hsink
    | called hsink kept' =>
      obtain ⟨connection, notes, hnotes, rfl, -⟩ := (kept'.trans kept).1
      rw [reconnect, log, List.append_assoc]
      exact .told hsink ends hnotes
  | lockedOut _ told kept warned kept' stopped =>
    have hconnected := warned.connected (kept.connected (told.connected hv))
    rw [stopped.not_outstanding hkind (kept'.connected hconnected)] at hbusy
    cases hbusy

/-- The slots hold what was put down of them. Whatever goes on is an active session's, with the driver
    there, or was abandoned. -/
structure Accounted (v : View κ) : Prop where
  slots : slotsAfter v.history = v.slots
  claims : AtClaims (fun before => ∀ kind ≠ .remove, outstanding kind before →
    Abandoned kind before) v.history
  owned : ∀ kind ≠ .remove, outstanding kind v.history →
    ((v.slots.get kind).isSome ∧ v.connected) ∨ Abandoned kind v.history

theorem Framed.slotsAfter_eq (h : v.Framed v') (hv : slotsAfter v.history = v.slots) :
    slotsAfter v'.history = v'.slots := by
  obtain ⟨entries, hentries, hframed⟩ := h.history
  rw [hentries, h.slots, ← hv]
  exact slotsAfter_append fun entry hentry held hheld => ((hframed entry hentry).2 held hheld).trans hv.symm

namespace Accounted

theorem idle (h : v.Accounted) (hframed : v.Framed v') (hidle : v.Idle v')
    (hconnected : v.connected → v'.connected) : v'.Accounted where
  slots := hframed.slotsAfter_eq h.slots
  claims := hidle.atClaims h.claims
  owned kind hkind hbusy := by
    rcases h.owned kind hkind (hidle.outstanding hkind hbusy).1 with ⟨hslot, hv⟩ | h
    · exact .inl ⟨hframed.slots ▸ hslot, hconnected hv⟩
    · exact .inr (hidle.abandoned hkind hbusy h)

theorem number (h : v.Accounted) : { v with nextSession := v.nextSession + 1 }.Accounted :=
  ⟨h.slots, h.claims, h.owned⟩

theorem launched (h : v.Accounted) {message : Bytes} {call : DriverCall}
    {outcome : Except Fault call.Reply}
    (alone : x.kind ≠ .remove → v.slots.enroll = none ∧ v.slots.authenticate = none)
    (hcall : call.begins = some x.kind) (asked : (v.enter x message).Asked call outcome v') :
    v'.Accounted := by
  have hconnected := asked.connected
  have hslots := asked.framed.slots
  have hafter := asked.framed.slotsAfter_eq (slotsAfter_published _ _)
  obtain ⟨handle, -, hlogged⟩ := asked
  obtain ⟨notes, hnotes, rfl⟩ := hlogged
  have hidle (entry) (hentry : entry ∈ notes) :=
    Entry.claimsSensor_of_isNote (hnotes entry hentry).1
  have hentered : v.Idle (v.enter x message) := ⟨_, rfl, List.forall_mem_singleton.2 rfl⟩
  refine ⟨hafter, AtClaims.append ((atClaims_concat _).2 ⟨hentered.atClaims h.claims, ?_⟩) hidle, ?_⟩
  · -- When the driver is asked, the session has its slot and nobody else has one.
    intro hclaims kind hkind hbusy
    have hsensor : x.kind ≠ .remove := by
      intro hremove
      simp [Entry.claimsSensor, hcall, hremove] at hclaims
    rcases h.owned kind hkind (hentered.outstanding hkind hbusy).1 with ⟨hslot, -⟩ | h
    · obtain ⟨henroll, hauthenticate⟩ := alone hsensor
      cases kind with
      | enroll => simp [Slots.get, henroll] at hslot
      | authenticate => simp [Slots.get, hauthenticate] at hslot
      | remove => exact absurd rfl hkind
    · exact hentered.abandoned hkind hbusy h
  · intro kind hkind hbusy
    -- Afterwards the operation that was begun is the newcomer's, and any other was there before.
    by_cases hsame : kind = x.kind
    · refine .inl ⟨?_, hconnected⟩
      rw [hslots, hsame]
      change ((v.slots.set x.kind (some x)).get x.kind).isSome
      rw [Slots.get_set_self]
      rfl
    · change outstanding kind (((v.history ++ [_]) ++ [_]) ++ notes) at hbusy
      change _ ∨ Abandoned kind (((v.history ++ [_]) ++ [_]) ++ notes)
      rw [List.append_assoc, List.append_assoc] at hbusy ⊢
      have hcalled : (Entry.called (.driver handle call) outcome (v.enter x message).slots
          v.speaker).starts kind = false := by
        simp [Entry.starts, hcall, Ne.symm hsame]
      have hnotes (entry) (hentry : entry ∈ notes) : entry.starts kind = false :=
        Entry.starts_eq_false hkind (hidle entry hentry)
      obtain ⟨hbefore, hends⟩ :=
        outstanding_of_append
          (List.forall_mem_cons.2 ⟨rfl, List.forall_mem_cons.2 ⟨hcalled, hnotes⟩⟩) hbusy
      rcases h.owned kind hkind hbefore with ⟨hslot, -⟩ | h
      · refine .inl ⟨?_, hconnected⟩
        rw [hslots]
        change ((v.slots.set x.kind (some x)).get kind).isSome
        rwa [Slots.get_set_of_ne _ _ hsame]
      · exact .inr (h.append hends)

theorem parted (h : v.Accounted) (hslot : v.slots.get x.kind = some x) (parting : v.Parting x v')
    (hobliging : ∀ entry ∈ v.history, entry.isRefusal = false) : (v'.leave x).Accounted := by
  have hidle := parting.idle.trans (Idle.leave v' x)
  refine ⟨slotsAfter_published _ _, hidle.atClaims h.claims, fun kind hkind hbusy => ?_⟩
  have hparted := ((Idle.leave v' x).outstanding hkind hbusy).1
  rcases h.owned kind hkind (parting.idle.outstanding hkind hparted).1 with ⟨hheld, hv⟩ | h
  -- What goes on after the session has left its slot is abandoned if it was the session's own.
  · by_cases hsame : kind = x.kind
    · subst hsame
      have hunasked := parting.unasked_of_outstanding hkind hv hobliging hparted
      have hheld : (slotsAfter v'.history).get x.kind = some x := by
        rw [parting.framed.slotsAfter_eq h.slots, parting.framed.slots, hslot]
      exact .inr ⟨x, v'.history, [], _, rfl, rfl, hheld, hparted, hunasked, by simp⟩
    · refine .inl ⟨?_, parting.connected hv⟩
      change ((v'.slots.set x.kind none).get kind).isSome
      rwa [Slots.get_set_of_ne _ _ hsame, parting.framed.slots]
  · exact .inr (hidle.abandoned hkind hbusy h)

/-- Whatever is abandoned after something thorough was abandoned before. -/
theorem abandoned_of_thorough (h : v.Accounted) (hthorough : v.Thorough v') (hobliging : Obliging v'.history)
    (hkind : kind ≠ .remove) (habandoned : Abandoned kind v'.history) : Abandoned kind v.history := by
  obtain ⟨entries, hentries, hover⟩ := hthorough
  obtain ⟨x, before, after, slots, hsame, hlist, hslot, hbusy, hunasked, hafter⟩ := habandoned
  rw [hentries] at hlist
  rcases exists_of_append_eq_append_cons hlist with ⟨rest, hbefore, rfl⟩ | ⟨rest, rfl, hrest⟩
  · exact ⟨x, before, rest, slots, hsame, hbefore, hslot, hbusy, hunasked,
      fun entry hentry => hafter entry (List.mem_append_left _ hentry)⟩
  -- A session that has left its slot since then was an active one whose driver is there.
  · cases hgoing : outstanding kind v.history with
    | false =>
      rw [(hover hobliging kind hkind (.inr hgoing)).2 rest after x slots hrest hsame] at hbusy
      cases hbusy
    | true =>
      rcases h.owned kind hkind hgoing with ⟨-, hv⟩ | habandoned
      · rw [(hover hobliging kind hkind (.inl hv)).2 rest after x slots hrest hsame] at hbusy
        cases hbusy
      · exact habandoned

end Accounted

end View

theorem Episode.accounted {κ : Type} {v v' : View κ} (h : Episode v v') (hv : v.Sound)
    (haccounted : v.Accounted) (hobliging : Obliging v'.history) : v'.Accounted := by
  cases h with
  | noted h => exact haccounted.idle h.framed h.idle (h.connected_of_obliging hobliging)
  | lockout lockout => exact haccounted.idle (.lockout v lockout) (.refl v) id
  | numbered => exact haccounted.number
  | refused _ kept told =>
    exact haccounted.number.idle (kept.framed.trans told.framed) (kept.idle.trans told.idle)
      fun hconnected => told.connected (kept.connected hconnected)
  | mourned => exact haccounted.idle (.log rfl (by simp [Entry.slots?])) (.log rfl) id
  | launched _ _ _ alone hcall asked => exact haccounted.launched alone hcall asked
  | progressed _ _ told => exact haccounted.idle told.framed told.idle told.connected
  | parted hslot parting =>
    refine haccounted.parted (hv.sorted _ _ hslot ▸ hslot) parting fun entry hentry => ?_
    exact (hobliging entry (List.mem_append_left _ (parting.framed.mem_history hentry))).2

namespace Record

variable {ω κ : Type} {host : Host ω κ} {record : Record host} {s : System ω κ}

theorem Reachable.accounted (h : record.Reachable s)
    (hobliging : Obliging (record.history s.world)) : (s.view record.history).Accounted := by
  refine (h.invariant (P := fun v => v.Sound ∧ (Obliging v.history → v.Accounted)) ?_ ?_).2 hobliging
  · refine ⟨.fresh, fun _ => ⟨rfl, fun before entry hlist => ?_, fun kind _ hbusy => by cases hbusy⟩⟩
    simp at hlist
  · rintro v v' hepisode ⟨hv, haccounted⟩
    refine ⟨hepisode.sound hv, fun hobliging => ?_⟩
    refine hepisode.accounted hv (haccounted fun entry hentry => ?_) hobliging
    exact hobliging entry (hepisode.mem_history hentry)

/-- No step is anything but thorough, but for tasks that may drop sessions. -/
theorem Step.thorough {s' : System ω κ} (h : record.Step s s') (hs : (s.view record.history).Sound) :
    (s.view record.history).Thorough (s'.view record.history) ∨
      ∃ task : Task κ, task.MayDrop ∧ s' = ((host.perform task).run s).2 := by
  cases h with
  | performed task =>
    by_cases hdrop : task.MayDrop
    · exact .inr ⟨task, hdrop, rfl⟩
    · have hepisodes : EpisodesOf _ _ _ _ := record.along_perform _ hs task s rfl
      exact .inl (hepisodes.mono (fun _ => id) hdrop).thorough
  | stopped =>
    obtain ⟨_, -, hepisodes, -⟩ :=
      record.yields_stopPendingOperations _ hs (P := fun _ => True) (fun _ _ _ => trivial) s rfl
    exact .inl hepisodes.thorough
  | elsewhere h => exact .inl (.of_noted h)

/-- Along every run whose driver stays and begins all that it is asked for, it is never asked
    to begin an enrollment or an authentication while it is at one, exactly if none was
    abandoned before and still goes on then. And none is abandoned in a step but by the death of
    a caller, an acquisition, or the completion of an enrollment. -/
theorem Reachable.exclusive_iff_not_abandoned (h : record.Reachable s)
    (hobliging : Obliging (record.history s.world)) :
    (AtClaims (fun before => ∀ kind ≠ .remove, outstanding kind before = false)
      (record.history s.world) ↔
      AtClaims (fun before => ∀ kind ≠ .remove, ¬Abandoned kind before)
        (record.history s.world)) ∧
    ∀ s', record.Step s s' → Obliging (record.history s'.world) → ∀ kind ≠ .remove,
      Abandoned kind (record.history s'.world) → Abandoned kind (record.history s.world) ∨
        ∃ task : Task κ, task.MayDrop ∧ s' = ((host.perform task).run s).2 := by
  have haccounted := h.accounted hobliging
  refine ⟨⟨?_, ?_⟩, fun s' hstep hobliging' kind hkind habandoned => ?_⟩
  · intro hexclusive before entry hlist hentry kind hkind habandoned
    have hbusy := habandoned.outstanding
    rw [hexclusive before entry hlist hentry kind hkind] at hbusy
    cases hbusy
  · intro hnone before entry hlist hentry kind hkind
    cases hbusy : outstanding kind before with
    | false => rfl
    | true =>
      exact absurd (haccounted.claims before entry hlist hentry kind hkind hbusy)
        (hnone before entry hlist hentry kind hkind)
  · refine (hstep.thorough h.sound).imp_left fun hthorough => ?_
    exact haccounted.abandoned_of_thorough hthorough hobliging' hkind habandoned

/-- Where every acquisition is delivered, the driver is asked to give up the enrollment
    before it is asked for the authentication. -/
theorem Reachable.exclusive_iff_of_preemption :
    let tasks := [.startEnrollment 1 (some "a") {}, .startAuthentication 2 (some "b") {}]
    let s := Ledger.perform {} Ledger.obliging tasks
    Obliging s.world ∧
      (AtClaims (fun before => ∀ kind ≠ .remove, outstanding kind before = false) s.world ↔
        AtClaims (fun before => ∀ kind ≠ .remove, ¬Abandoned kind before) s.world) := by
  intro tasks s
  have hobliging : Obliging s.world := by
    unfold Obliging
    decide
  exact ⟨hobliging,
    ((Ledger.reachable_perform {} Ledger.obliging tasks).exclusive_iff_not_abandoned hobliging).1⟩

/-- Where an acquisition is not delivered, the enrollment is abandoned, and still goes on when
    the driver is asked for the authentication. -/
theorem not_exclusive_of_lost_acquisition :
    let tasks :=
      [.startEnrollment 1 (some "a") {}, .driverEvent (.acquired 1 0),
        .startAuthentication 2 (some "b") {}]
    let s := Ledger.perform {} Ledger.deaf tasks
    (Ledger.record {} Ledger.deaf).Reachable s ∧ Obliging s.world ∧
      ¬AtClaims (fun before => ∀ kind ≠ .remove, outstanding kind before = false) s.world := by
  intro tasks s
  have hobliging : Obliging s.world := by
    unfold Obliging
    decide
  refine ⟨Ledger.reachable_perform {} Ledger.deaf tasks, hobliging, fun hexclusive => ?_⟩
  have hworld : s.world ≠ [] := by
    have hlength : s.world.length = 12 := by decide
    exact List.ne_nil_of_length_pos (by rw [hlength]; decide)
  have hlast : s.world.dropLast ++ [s.world.getLast hworld] <+: s.world :=
    ⟨[], by rw [List.append_nil, List.dropLast_concat_getLast]⟩
  have hidle := hexclusive s.world.dropLast (s.world.getLast hworld) hlast rfl .enroll (by decide)
  exact absurd hidle (by decide)

end Record

end Fingerprint
