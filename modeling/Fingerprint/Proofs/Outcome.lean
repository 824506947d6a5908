import Fingerprint.Proofs.Preemption

/-!
# What comes of a start

With a driver to be had, and authentication not being locked for those who
want that, a start of any kind comes to one of two ends. What was in the way is
gone, the driver was asked once to begin, and then either the new session has
its slot, registered and undisturbed, or it has none any more, and was told so.
The driver's answer decides, and whether rejected sessions are torn down.

* `Record.yields_clear`: the slot is cleared, whatever the kind;
* `View.Starts.beginnings_eq`, `View.Starts.rest`: what a start leaves behind;
* `Record.Reachable.start_outcome`: starts of all kinds.
-/

namespace Fingerprint

variable {ω κ : Type} {host : Host ω κ} {s : System ω κ} {handle : Handle}

namespace Record

variable (record : Record host) {v : View κ}

/-! ## What is in the way -/

/-- A removal is told that it is cancelled, and leaves its slot to the next. -/
theorem yields_dismissRemove_cleared (hv : v.Sound) {x : Session} (hslot : v.slots.get .remove = some x) :
    record.Yields v (host.dismissRemove x) fun _ v' => v.Cleared .remove v' := by
  have hkind := hv.sorted .remove x hslot
  refine (record.yields_dismissRemove v hslot hkind).mono ?_
  rintro _ v' ⟨device, delivered, v₁, htold, rfl⟩
  obtain ⟨tidings, htidings, hpasses⟩ := htold.passes
  refine .of_leave hpasses htidings.beginnings (fun t ht => ?_) (hv.numbered _ x hslot) ?_
  · obtain ⟨device, taken, htelling⟩ := htidings.tellings
    rw [htelling] at ht
    exact (Session.speaker_of_mem_told ht).2
  · rw [hkind, Slots.get_set_self]

/-- Whatever is in the way of a start leaves its slot. -/
theorem yields_clear (hv : v.Sound) (hhandle : v.connection.handle = some handle) (start : Start) :
    record.Yields v (start.clear host) fun _ v' => v.Cleared start.kind v' := by
  have hstop {kind : SessionKind} (hkind : kind ≠ .remove) :
      record.Yields v host.stopPendingOperations fun _ v' => v.Cleared kind v' := by
    have hway {other : SessionKind} (hother : other ≠ .remove) {x : Session} (hslot : v.slots.get other = some x) :
        record.Yields v host.stopPendingOperations fun _ v' => v.Cleared kind v' := by
      obtain rfl := hv.sorted other x hslot
      refine (record.yields_stopPendingOperations_of_some hv hhandle hother hslot).mono fun _ v' h => ?_
      exact h.cleared hv hslot hother hkind
    cases henroll : v.slots.get .enroll with
    | some x => exact hway (by decide) henroll
    | none =>
      cases hauthenticate : v.slots.get .authenticate with
      | some x => exact hway (by decide) hauthenticate
      | none =>
        refine (record.yields_preempt_of_none henroll).andThen fun _ v₁ h₁ => ?_
        subst h₁
        refine (record.yields_preempt_of_none hauthenticate).mono fun _ v₂ h₂ => ?_
        rw [h₂]
        refine .refl ?_
        cases kind with
        | enroll => exact henroll
        | authenticate => exact hauthenticate
        | remove => exact absurd rfl hkind
  cases start with
  | enroll | authenticate => exact hstop (by simp [Start.kind])
  | remove =>
    refine (record.yields_active v .remove).andThen fun found v₁ h₁ => ?_
    obtain ⟨rfl, rfl⟩ := h₁
    cases hslot : v₁.slots.get .remove with
    | none => exact yields_pure (.refl hslot)
    | some x => exact record.yields_dismissRemove_cleared hv hslot

end Record

/-! ## What is left behind -/

namespace View

variable {v v' : View κ} {x : Session} {teardown : Bool} {call : DriverCall} {outcome : Except Fault call.Reply}
  {marks : List Entry}

theorem Enters.beginnings_eq (h : v.Enters handle call outcome x marks v') {kind : SessionKind}
    (hcall : call.begins = some kind) (hmarks : beginnings marks = []) :
    beginnings v'.history = beginnings v.history ++ [⟨handle, call, outcome⟩] := by
  obtain ⟨message, hpasses⟩ := h
  obtain ⟨entries, hentries, hmilestones⟩ := hpasses.history
  have hasked {slots : Slots} {speaker : Option Nat} :
      (Entry.called (.driver handle call) outcome slots speaker).beginning? = some ⟨handle, call, outcome⟩ :=
    if_pos (by rw [hcall]; rfl)
  have hnew : beginnings entries = [⟨handle, call, outcome⟩] := by
    rw [← beginnings_milestones, hmilestones, beginnings, List.filterMap_cons_some hasked]
    exact congrArg _ hmarks
  have hstarted : (v.enter x message).history =
      v.history ++ [.published (x.startedEvent message) (v.slots.set x.kind (some x))] := rfl
  rw [hentries, hstarted, beginnings_append, beginnings_append, hnew]
  simp [beginnings, Entry.beginning?]

/-- In the course of a start, the driver is asked to begin once. -/
theorem Starts.beginnings_eq (h : v.Starts teardown handle call x outcome v') {kind : SessionKind}
    (hcall : call.begins = some kind) :
    beginnings v'.history = beginnings v.history ++ [⟨handle, call, outcome⟩] := by
  cases h with
  | stays _ entered => exact entered.beginnings_eq hcall rfl
  | @tornDown tidings v₁ _ told entered =>
    rw [← entered.beginnings_eq hcall told.beginnings]
    change beginnings (v₁.history ++ [_]) = _
    rw [beginnings_append]
    exact List.append_nil _

/-- In the course of a start, a session is told only that it cannot be served, if that is so. -/
theorem Starts.tellings_eq (h : v.Starts teardown handle call x outcome v') :
    ∃ told, tellings v'.history = tellings v.history ++ told ∧
      if call.accepts outcome ∨ teardown = false then told = []
      else ∃ device taken, told = x.told (.error device SensorError.hwUnavailable.code) taken := by
  have htellings {told : List Telling} (htold : v.Told v' told) :
      tellings v'.history = tellings v.history ++ told := by
    obtain ⟨entries, hentries, rfl⟩ := htold
    rw [hentries, tellings_append]
  have htold := h.told
  split at htold
  case isTrue hstays => exact ⟨[], htellings htold, by rw [if_pos hstays]⟩
  case isFalse htorn =>
    obtain ⟨device, taken, htold⟩ := htold
    exact ⟨_, htellings htold, by rw [if_neg htorn]; exact ⟨device, taken, rfl⟩⟩

theorem Enters.rest (h : v.Enters handle call outcome x marks v') :
    v'.slots = v.slots.set x.kind (some x) ∧ x.watch v.liveness.nextId ∈ v'.liveness.entries := by
  obtain ⟨message, hpasses⟩ := h
  refine ⟨hpasses.slots, ?_⟩
  rw [hpasses.liveness]
  exact List.mem_append_right _ (List.mem_singleton_self _)

/-- The session has its slot and its registration, or none. -/
theorem Starts.rest (h : v.Starts teardown handle call x outcome v') :
    if call.accepts outcome ∨ teardown = false then
      v'.slots.get x.kind = some x ∧ x.watch v.liveness.nextId ∈ v'.liveness.entries
    else v'.slots.get x.kind = none := by
  cases h with
  | stays h entered =>
    obtain ⟨hslots, hwatch⟩ := entered.rest
    rw [if_pos h, hslots, Slots.get_set_self]
    exact ⟨rfl, hwatch⟩
  | @tornDown tidings v₁ h =>
    rw [if_neg h]
    exact Slots.get_set_self ..

/-- No entry is for a session that is in no slot. -/
theorem Registered.filter_isFor_eq_nil (h : v.Registered) (hv : v.Sound) {kind : SessionKind}
    (hslot : v.slots.get kind = none) (id : Nat) : v.liveness.entries.filter (·.isFor kind id) = [] := by
  refine List.filter_eq_nil_iff.2 fun watch hwatch hfor => ?_
  obtain ⟨other, y, hy, -, hown⟩ := h.owned watch hwatch
  rw [Watch.isFor_iff, hown] at hfor
  obtain ⟨rfl, -⟩ : y.kind = kind ∧ y.id = id := by simpa [Session.watch] using hfor
  rw [hv.sorted other y hy, hy] at hslot
  cases hslot

end View

namespace Record.Reachable

variable {record : Record host}

theorem registered (h : record.Reachable s) : (s.view record.history).Registered := by
  refine (h.invariant (P := fun v => v.Sound ∧ v.Registered) ⟨.fresh, .fresh⟩ ?_).2
  exact fun _ _ hepisode h => ⟨hepisode.sound h.1, hepisode.registered h.1 h.2⟩

/-- A start of any kind, with a driver to be had, and authentication not being locked if it is one.
    The driver is asked once to begin just what was requested. If it accepts, or sessions are not
    torn down, the slot holds a new session with the caller, the sink and the subject of the
    request, one entry waits for the death of its caller, and nothing was told to it so far. Else the
    slot is empty, no entry is left, and the sink was told once, with no more than that, that it
    cannot be served. -/
theorem start_outcome (h : record.Reachable s) (start : Start) {caller : CallerToken} (hcaller : caller ≠ 0)
    (sink : Option SinkName) (havailable : (host.acquire.run s).1 = .ok (some handle))
    (hunlocked : start.kind = .authenticate → s.lockout.isLocked host.setup.lockout = false) :
    let x : Session := ⟨s.nextSession, start.kind, caller, sink, start.subject, ⟨some s.liveness.nextId, caller⟩⟩
    ∃ s' outcome told, (host.perform (start.task caller sink)).run s = (.ok (), s') ∧
      beginnings (record.history s'.world) =
        beginnings (record.history s.world) ++ [⟨handle, start.call host, outcome⟩] ∧
      tellings (record.history s'.world) = tellings (record.history s.world) ++ told ∧
      if (start.call host).accepts outcome ∨ host.setup.teardownOnReject = false then
        s'.slots.get start.kind = some x ∧
          s'.liveness.entries.filter (·.isFor start.kind x.id) = [x.watch s.liveness.nextId] ∧
          ∀ t ∈ told, t.speaker ≠ some x.id
      else
        s'.slots.get start.kind = none ∧ s'.liveness.entries.filter (·.isFor start.kind x.id) = [] ∧
          ∃ device taken, told.filter (·.speaker = some x.id) =
            x.told (.error device SensorError.hwUnavailable.code) taken := by
  intro x
  have hafter : record.Reachable ((host.perform (start.task caller sink)).run s).2 := h.step (.performed _ s)
  obtain ⟨s₀, hkept, hhandle, hperform⟩ := record.exists_acquired havailable
  rw [hperform] at hafter ⊢
  have hpasses := hkept.passes
  have hclear := record.yields_clear (h.sound.framed hkept.framed) hhandle start
  obtain ⟨⟨⟩, hrun, v₁, hcleared, hrest⟩ :=
    record.yields_start hhandle hclear (fun _ h => h) hcaller sink s₀ rfl
  generalize hs' : ((host.perform (start.task caller sink)).run s₀).2 = s' at hrest hafter
  replace hcleared := View.Cleared.after hkept hcleared
  have hlocked : ¬(start.kind = .authenticate ∧ s.lockout.isLocked host.setup.lockout) :=
    fun hboth => Bool.false_ne_true ((hunlocked hboth.1).symm.trans hboth.2)
  rw [hpasses.lockout, hpasses.newSession_eq] at hrest
  obtain ⟨outcome, hstarts⟩ : ∃ outcome, v₁.Starts _ handle (start.call host) x outcome (s'.view record.history) :=
    (if_neg hlocked).mp hrest
  obtain ⟨before, hbefore, hnone, hspeaker⟩ := hcleared.history
  have hbegun := hstarts.beginnings_eq (start.begins_call host)
  rw [hbefore, beginnings_append, hnone, List.append_nil] at hbegun
  obtain ⟨told, htold, hanswer⟩ := hstarts.tellings_eq
  have hslot := hstarts.rest
  rw [hcleared.nextId] at hslot
  refine ⟨s', outcome, tellings before ++ told, Prod.ext hrun hs', hbegun, ?_, ?_⟩
  · rw [← List.append_assoc, ← tellings_append]
    exact htold.trans (congrArg (tellings · ++ told) hbefore)
  · split at hslot
    case isTrue hstays =>
      rw [if_pos hstays] at hanswer ⊢
      rw [hanswer, List.append_nil]
      exact ⟨hslot.1, hafter.registered.filter_isFor hafter.sound hslot.1 rfl hslot.2, hspeaker⟩
    case isFalse htorn =>
      rw [if_neg htorn] at hanswer ⊢
      obtain ⟨device, taken, rfl⟩ := hanswer
      exact ⟨hslot, hafter.registered.filter_isFor_eq_nil hafter.sound hslot _, device, taken,
        Session.filter_told hspeaker _ _⟩

end Record.Reachable

/-- Everything is accepted, but that the driver fails to remove the template seven. -/
def Ledger.brittle : (call : Call) → Except Fault call.Reply
  | .driver _ (.remove 7 _) => .error (.plain "gone")
  | call => obliging call

/-- A removal is cancelled in favour of another, which the driver fails to begin. By the settings it
    is torn down. -/
theorem Record.Reachable.start_outcome_of_failure :
    let host := Ledger.host { teardownOnReject := true } Ledger.brittle
    let s := Ledger.perform { teardownOnReject := true } Ledger.brittle [.startRemove 1 (some "a") {}]
    s.slots.remove.isSome ∧
      ∃ s' told device taken, (host.perform (.startRemove 2 (some "b") ⟨7, 0⟩)).run s = (.ok (), s') ∧
        s'.slots.get .remove = none ∧ tellings s'.world = tellings s.world ++ told ∧
        told.filter (·.speaker = some 1) = [⟨"b", .error device SensorError.hwUnavailable.code, some 1, taken⟩] := by
  intro host s
  have hcaller : (2 : CallerToken) ≠ 0 := by decide
  have hbegun : beginnings ((host.perform (.startRemove 2 (some "b") ⟨7, 0⟩)).run s).2.world =
      beginnings s.world ++ [⟨0, .remove 7 0, .error (.plain "gone")⟩] := by rfl
  obtain ⟨s', outcome, told, hrun, hbegun', htold, hrest⟩ :=
    (Ledger.reachable_perform { teardownOnReject := true } Ledger.brittle [.startRemove 1 (some "a") {}]).start_outcome
      (.remove ⟨7, 0⟩) hcaller (some "b") rfl nofun
  have hs' : ((host.perform (.startRemove 2 (some "b") ⟨7, 0⟩)).run s).2 = s' := congrArg Prod.snd hrun
  rw [hs'] at hbegun
  cases List.append_cancel_left (hbegun.symm.trans hbegun')
  obtain ⟨hslot, -, device, taken, hown⟩ := hrest
  exact ⟨rfl, s', told, device, taken, hrun, hslot, htold, hown⟩

end Fingerprint
