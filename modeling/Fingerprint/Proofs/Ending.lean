import Fingerprint.Proofs.Confinement
import Fingerprint.Proofs.Connection

/-!
# How sessions end

The operations that end sessions, as sequences of episodes from every view
whose slots are in order, each with the sessions that the episodes concern. A
session that is stopped parts from its slot once the driver was asked to give
its operation up; without a driver it stays. The death of a caller ends the
sessions of that caller, and no other.

* `Record.yields_deliver`, `yields_send`: what a sink is told;
* `Record.yields_stopSession`, `yields_cancel`, `yields_stopPendingOperations`;
* `Record.along_callerDied`.
-/

namespace Fingerprint

namespace View

variable {κ : Type} {v v' v'' : View κ} {x : Session}

theorem Kept.speaker (h : v.Kept v') (speaker : Option Nat) :
    { v with speaker }.Kept { v' with speaker } := by
  obtain ⟨⟨connection, entries, hentries, rfl, hkept⟩, hsame⟩ := h
  exact ⟨⟨connection, entries, hentries, rfl, hkept⟩, hsame⟩

theorem Asked.logged {call : DriverCall} {outcome : Except Fault call.Reply}
    (h : v.Asked call outcome v') (hlogged : v'.Logged v'') : v.Asked call outcome v'' := by
  obtain ⟨handle, hhandle, hasked⟩ := h
  exact ⟨handle, hhandle, hasked.trans hlogged⟩

theorem connected_of_handle {handle : Option Handle} (h : handle = v.connection.handle) :
    handle.isNone = !v.connected := by
  rw [h, connected, Option.not_isSome]

/-- From `v` to `v'` nothing was added to the slots or the registrations, and nothing was
    forgotten. -/
structure Thins (v v' : View κ) : Prop where
  slots : ∀ kind x, v'.slots.get kind = some x → v.slots.get kind = some x
  watches : ∀ watch ∈ v'.liveness.entries, watch ∈ v.liveness.entries
  history : ∀ entry ∈ v.history, entry ∈ v'.history

theorem Thins.trans {v₁ v₂ v₃ : View κ} (h₁ : v₁.Thins v₂) (h₂ : v₂.Thins v₃) : v₁.Thins v₃ where
  slots kind x hx := h₁.slots kind x (h₂.slots kind x hx)
  watches watch hwatch := h₁.watches watch (h₂.watches watch hwatch)
  history entry hentry := h₂.history entry (h₁.history entry hentry)

theorem Framed.thins (h : v.Framed v') : v.Thins v' where
  slots _ _ hx := h.slots ▸ hx
  watches _ hwatch := h.liveness ▸ hwatch
  history _ hentry := h.mem_history hentry

theorem thins_leave (v : View κ) (x : Session) : v.Thins (v.leave x) where
  slots kind y hy := by
    rcases get_set_cases hy with ⟨-, hnone⟩ | ⟨-, hy⟩
    · cases hnone
    · exact hy
  watches _ hwatch := mem_of_mem_release hwatch
  history _ hentry := List.mem_append_left _ hentry

end View

namespace Record

variable {ω κ α β : Type} {host : Host ω κ} {record : Record host} {v : View κ}

/-- What comes next is related to what came before. -/
theorem Yields.thenAlong {rel : View κ → View κ → Prop} [Trans rel rel rel] {op : Op ω κ α}
    {f : α → Op ω κ β} {mid : α → View κ → Prop} (h : record.Yields v op mid)
    (hmid : ∀ a v', mid a v' → rel v v')
    (hf : ∀ a v', mid a v' → record.Along rel v' (f a)) : record.Along rel v (op >>= f) :=
  h.bind fun a v' ha => Ensures.mono (hf a v' ha) fun _ _ => Trans.trans (hmid a v' ha)

variable (record v)

/-! ## Deliveries -/

theorem yields_deliver (x : Session) (callback : Callback) :
    record.Yields v (host.deliver x callback) (v.Delivered x callback) := by
  unfold Host.deliver
  cases hsink : x.sink with
  | none => exact yields_pure (.nowhere hsink)
  | some sink =>
    have hcall :
        record.Ensures v (Op.onBehalfOf x.id (host.answer (.sink sink callback))) fun outcome v' =>
          (v.log [.called (.sink sink callback) outcome v.slots (some x.id)]).Kept v' := by
      refine Ensures.onBehalfOf ((record.ensures_answer _ _).mono fun outcome v' h => ?_)
      exact h.1.speaker v.speaker
    refine hcall.attempt.andThen fun outcome v' hv' => ?_
    cases outcome with
    | ok => exact yields_pure (.called hsink hv')
    | error fault =>
      refine (record.yields_publish_note v' _ rfl).andThen fun _ v'' hv'' => ?_
      exact yields_pure (.called hsink (hv'.trans hv''.kept))

theorem yields_send (x : Session) (callback : Callback) :
    record.Yields v (host.send x callback) fun outcome v' =>
      ∃ delivered, v.Delivered x callback delivered v' ∧
        (outcome = .done ↔ (delivered → callback.isTerminal)) := by
  refine (record.yields_deliver v x callback).andThen fun delivered v' hv' => ?_
  cases delivered with
  | false => exact yields_pure ⟨false, hv', by simp⟩
  | true => exact yields_pure ⟨true, hv', by simp [Callback.outcome_eq_done_iff]⟩

theorem yields_sendError (x : Session) (error : SensorError) :
    record.Yields v (host.sendError x error) fun _ v' =>
      ∃ device delivered, v.Delivered x (.error device error.code) delivered v' := by
  refine yields_get fun s _ => ?_
  refine (record.yields_send v x _).andThen fun outcome v' hv' => ?_
  obtain ⟨delivered, hdelivered, -⟩ := hv'
  exact yields_pure ⟨_, delivered, hdelivered⟩

/-! ## Slots -/

theorem yields_active (kind : SessionKind) :
    record.Yields v (Host.active kind : Op ω κ _) fun found v' =>
      found = v.slots.get kind ∧ v' = v := by
  rintro s rfl
  exact ⟨_, rfl, rfl, rfl⟩

/-- A session that is in its slot is removed from it. -/
theorem yields_removeSession {kind : SessionKind} {x : Session} (hslot : v.slots.get kind = some x)
    (hkind : x.kind = kind) :
    record.Yields v (host.removeSession kind x.id) fun _ v' => v' = v.leave x := by
  refine yields_get fun s hs => ?_
  have hget : s.slots.get kind = some x := by
    subst hs
    exact hslot
  simp only [hget, ↓reduceIte]
  have hmodify : record.Yields v
      (modify fun s => { s with
        slots := s.slots.set kind none
        liveness := Host.releaseSession (some x) s.liveness }) fun _ v' =>
      v' = { v with
        slots := v.slots.set kind none
        liveness := Host.releaseSession (some x) v.liveness } :=
    yields_modify fun s hs => by rw [← hs]; rfl
  refine hmodify.andThen fun _ v₁ hv₁ => ?_
  refine (record.yields_publish v₁ _).mono fun _ v₂ hv₂ => ?_
  subst hkind
  rw [hv₂, hv₁]
  rfl

/-! ## Ending sessions -/

/-- What asking the driver for something does. -/
theorem ensures_driver {handle : Handle} (hv : v.connection.handle = some handle)
    (call : DriverCall) :
    record.Ensures v (host.driver handle call) fun outcome v' => v.Asked call outcome v' :=
  Ensures.mono (record.ensures_answer v (.driver handle call)) fun _ _ h => ⟨handle, hv, h.2 rfl⟩

theorem exists_handle (hv : v.connected) : ∃ handle, v.connection.handle = some handle :=
  Option.isSome_iff_exists.1 hv

theorem yields_cancelDriver (kind : SessionKind) (hv : v.connected) :
    record.Yields v (host.cancelDriver kind) fun _ v' => v.Halted kind v' := by
  obtain ⟨handle, hhandle⟩ := exists_handle v hv
  cases kind with
  | enroll =>
    refine (record.yields_forward v hhandle
      (record.ensures_driver v hhandle .cancelEnroll)).andThen ?_
    rintro status v₂ ⟨outcome, v₁, hasked, hlogged, -⟩
    exact yields_pure (.asked rfl (hasked.logged hlogged))
  | authenticate =>
    refine (record.yields_forward v hhandle
      (record.ensures_driver v hhandle .cancelAuthenticate)).andThen ?_
    rintro status v₂ ⟨outcome, v₁, hasked, hlogged, -⟩
    exact yields_pure (.asked rfl (hasked.logged hlogged))
  | remove => exact yields_pure (.remove rfl)

/-- What stopping a session does that is the caller's. -/
theorem yields_stopSession {kind : SessionKind} {x : Session} (hslot : v.slots.get kind = some x)
    (hkind : x.kind = kind) (notify : Bool) :
    record.Yields v (host.stopSession kind x.caller notify) fun stopped v' =>
      if stopped then
        ∃ v₁ v₂, v.Kept v₁ ∧ v₁.connected ∧ v₁.Halted x.kind v₂ ∧
          if notify then
            ∃ device delivered v₃,
              v₂.Delivered x (.error device SensorError.canceled.code) delivered v₃ ∧
                v' = v₃.leave x
          else v' = v₂.leave x
      else v.Kept v' ∧ v'.connected = false := by
  subst hkind
  refine (record.yields_active v _).andThen fun found v₀ h₀ => ?_
  obtain ⟨rfl, rfl⟩ := h₀
  rw [hslot]
  dsimp only
  rw [bne_self_eq_false]
  refine (record.yields_acquire v₀).andThen fun handle v₁ h₁ => ?_
  obtain ⟨hhandle, hkept, -⟩ := h₁
  rw [View.connected_of_handle hhandle]
  cases hconnected : v₁.connected with
  | false =>
    -- Without a driver the session stays in its slot.
    refine (record.yields_publish_note v₁ _ rfl).andThen fun _ v₂ h₂ => ?_
    refine yields_pure ⟨hkept.trans h₂.kept, ?_⟩
    rw [View.connected, h₂.steady.2]
    exact hconnected
  | true =>
    -- The driver gives up first, and the session holds its slot until it was told so.
    refine (record.yields_cancelDriver v₁ x.kind hconnected).andThen fun _ v₂ h₂ => ?_
    have hslot₂ : v₂.slots.get x.kind = some x := by rw [h₂.framed.slots, hkept.framed.slots, hslot]
    cases notify with
    | false =>
      refine (record.yields_removeSession v₂ hslot₂ rfl).andThen fun _ v₃ h₃ => ?_
      exact yields_pure ⟨v₁, v₂, hkept, hconnected, h₂, h₃⟩
    | true =>
      refine (record.yields_sendError v₂ x .canceled).andThen fun _ v₃ h₃ => ?_
      obtain ⟨device, delivered, htold⟩ := h₃
      have hslot₃ : v₃.slots.get x.kind = some x := by rw [htold.framed.slots, hslot₂]
      refine (record.yields_removeSession v₃ hslot₃ rfl).andThen fun _ v₄ h₄ => ?_
      exact yields_pure ⟨v₁, v₂, hkept, hconnected, h₂, device, delivered, v₃, htold, h₄⟩

/-- A session that is stopped and told so parts from its slot, unless there is no driver. -/
theorem yields_stopSession_notify {kind : SessionKind} {x : Session}
    (hslot : v.slots.get kind = some x) (hkind : x.kind = kind) :
    record.Yields v (host.stopSession kind x.caller true) fun _ v' =>
      (v.Kept v' ∧ v.connected = false) ∨
        ∃ v₁, v.Parting x v₁ ∧ (x.kind ≠ .remove → outstanding x.kind v₁.history = false) ∧ v₁.connected ∧
          v' = v₁.leave x := by
  refine (record.yields_stopSession v hslot hkind true).mono fun stopped v' h => ?_
  cases stopped with
  | false =>
    refine .inl ⟨h.1, ?_⟩
    cases hv : v.connected with
    | false => rfl
    | true => simpa [h.2] using h.1.connected hv
  | true =>
    obtain ⟨v₁, v₂, hkept, hconnected, hhalted, device, delivered, v₃, htold, rfl⟩ := h
    refine .inr ⟨v₃, .canceled hkept hhalted htold, fun hsensor => ?_,
      htold.connected (hhalted.connected hconnected), rfl⟩
    exact htold.idle.not_outstanding hsensor (hhalted.not_outstanding hsensor)

/-- A session that is stopped in silence has its operation given up, if there is a driver. -/
theorem yields_stopSession_silent {kind : SessionKind} {x : Session}
    (hslot : v.slots.get kind = some x) (hkind : x.kind = kind) :
    record.Yields v (host.stopSession kind x.caller false) fun stopped v' =>
      ∃ v₁, v.Stopped x.kind v₁ ∧ v' = if stopped then v₁.leave x else v₁ := by
  refine (record.yields_stopSession v hslot hkind false).mono fun stopped v' h => ?_
  cases stopped with
  | false => exact ⟨v', ⟨v', h.1, .inr ⟨h.2, .refl v'⟩⟩, rfl⟩
  | true =>
    obtain ⟨v₁, v₂, hkept, -, hhalted, rfl⟩ := h
    exact ⟨v₂, ⟨v₁, hkept, .inl hhalted⟩, rfl⟩

/-- To stop a session leaves the slots in order, whether it is the caller's or not. -/
theorem sound_stopSession (hv : v.Sound) (kind : SessionKind) (caller : CallerToken) (notify : Bool) :
    record.Yields v (host.stopSession kind caller notify) fun _ v' => v'.Sound := by
  have hnothing : record.Yields v (pure false : Op ω κ Bool) fun _ v' => v'.Sound := yields_pure hv
  cases hslot : v.slots.get kind with
  | none =>
    refine (record.yields_active v kind).andThen fun found v₁ h₁ => ?_
    obtain ⟨rfl, rfl⟩ := h₁
    rwa [hslot]
  | some x =>
    by_cases hcaller : x.caller = caller
    · subst hcaller
      refine (record.yields_stopSession v hslot (hv.sorted kind x hslot) notify).mono fun stopped v' h => ?_
      cases stopped with
      | false => exact hv.framed h.1.framed
      | true =>
        obtain ⟨v₁, v₂, hkept, -, hhalted, hend⟩ := h
        have hv₂ : v₂.Sound := hv.framed (hkept.framed.trans hhalted.framed)
        cases notify with
        | false =>
          obtain rfl := hend
          exact hv₂.leave x
        | true =>
          obtain ⟨_, _, v₃, htold, rfl⟩ := hend
          exact (hv₂.framed htold.framed).leave x
    · refine (record.yields_active v kind).andThen fun found v₁ h₁ => ?_
      obtain ⟨rfl, rfl⟩ := h₁
      rw [hslot]
      dsimp only
      rwa [if_pos (by simpa using hcaller)]

theorem yields_dismissRemove {x : Session} (hslot : v.slots.get .remove = some x)
    (hkind : x.kind = .remove) :
    record.Yields v (host.dismissRemove x) fun _ v' =>
      ∃ device delivered v₁, v.Delivered x (.error device SensorError.canceled.code) delivered v₁ ∧
        v' = v₁.leave x := by
  refine (record.yields_sendError v x .canceled).andThen fun _ v₁ h₁ => ?_
  obtain ⟨device, delivered, htold⟩ := h₁
  have hslot₁ : v₁.slots.get .remove = some x := by rw [htold.framed.slots, hslot]
  refine (record.yields_removeSession v₁ hslot₁ hkind).mono fun _ v₂ h₂ => ?_
  exact ⟨device, delivered, v₁, htold, h₂⟩

/-- What a cancellation does: nothing, unless the active session is the caller's, and then
    this session parts from its slot once its operation is over, or stays there since there is
    no driver. -/
theorem yields_cancel (hv : v.Sound) (kind : SessionKind) (caller : CallerToken) :
    record.Yields v (host.cancel kind caller) fun _ v' =>
      v.Kept v' ∨ ∃ x v₁, v.slots.get kind = some x ∧ x.caller = caller ∧ v.Parting x v₁ ∧
        (x.kind ≠ .remove → outstanding x.kind v₁.history = false) ∧ v' = v₁.leave x := by
  have hstop : record.Yields v (host.stopSession kind caller true) fun _ v' =>
      v.Kept v' ∨ ∃ x v₁, v.slots.get kind = some x ∧ x.caller = caller ∧ v.Parting x v₁ ∧
        (x.kind ≠ .remove → outstanding x.kind v₁.history = false) ∧ v' = v₁.leave x := by
    cases hslot : v.slots.get kind with
    | none =>
      refine (record.yields_active v kind).andThen fun found v' h => ?_
      obtain ⟨rfl, rfl⟩ := h
      rw [hslot]
      exact yields_pure (.inl (.refl v'))
    | some x =>
      -- Nobody but its caller cancels a session.
      by_cases hcaller : x.caller = caller
      · subst hcaller
        refine (record.yields_stopSession_notify v hslot (hv.sorted kind x hslot)).mono
          fun _ v' h => ?_
        rcases h with ⟨hkept, -⟩ | ⟨v₁, hparting, hover, -, hleave⟩
        · exact .inl hkept
        · exact .inr ⟨x, v₁, rfl, rfl, hparting, hover, hleave⟩
      · refine (record.yields_active v kind).andThen fun found v' h => ?_
        obtain ⟨rfl, rfl⟩ := h
        simp only [hslot, bne_iff_ne, ne_eq, hcaller, not_false_eq_true, ↓reduceIte]
        exact yields_pure (.inl (.refl v'))
  cases kind with
  | enroll => exact hstop.andThen fun _ v' h => yields_pure h
  | authenticate => exact hstop.andThen fun _ v' h => yields_pure h
  | remove =>
    refine (record.yields_active v .remove).andThen fun found v' h => ?_
    obtain ⟨rfl, rfl⟩ := h
    cases hslot : v'.slots.get .remove with
    | none => exact yields_pure (.inl (.refl v'))
    | some x =>
      dsimp only
      split
      case isTrue hcaller =>
        refine (record.yields_dismissRemove v' hslot (hv.sorted .remove x hslot)).mono
          fun _ v'' h => ?_
        obtain ⟨device, delivered, v₁, htold, hleave⟩ := h
        have hkind := hv.sorted .remove x hslot
        exact .inr ⟨x, v₁, rfl, hcaller, .canceled (.refl v') (.remove hkind) htold,
          fun hsensor => absurd hkind hsensor, hleave⟩
      case isFalse => exact yields_pure (.inl (.refl v'))

/-- A session that is stopped in favour of another leaves its slot, if there is a driver. -/
theorem yields_preempt (hv : v.Sound) {kind : SessionKind} {P : Session → Prop}
    (hP : ∀ x : Session, x.kind = kind → v.slots.get x.kind = some x → P x) :
    record.Yields v (host.preempt kind) fun _ v' =>
      EpisodesOf P False v v' ∧ v.Thins v' ∧
        (v.connected → v'.connected ∧ v'.slots = v.slots.set kind none) := by
  refine (record.yields_active v kind).andThen fun found v₀ h₀ => ?_
  obtain ⟨rfl, rfl⟩ := h₀
  cases hslot : v₀.slots.get kind with
  | none =>
    have hempty : v₀.slots.set kind none = v₀.slots := by
      cases kind <;> rw [← hslot] <;> rfl
    exact yields_pure ⟨.refl, (View.Framed.refl v₀).thins, fun hconnected => ⟨hconnected, hempty.symm⟩⟩
  | some x =>
    have hkind := hv.sorted kind x hslot
    refine (record.yields_stopSession_notify v₀ hslot hkind).andThen fun _ v' h => yields_pure ?_
    rcases h with ⟨hkept, hnone⟩ | ⟨v₁, hparting, hover, hconnected, rfl⟩
    · exact ⟨.single (.noted hkept.1), hkept.framed.thins, by simp [hnone]⟩
    · have hx : P x := hP x hkind (hkind.symm ▸ hslot)
      refine ⟨.single (.parted hx hslot hparting fun _ _ _ => hover),
        hparting.framed.thins.trans (View.thins_leave v₁ x), fun _ => ⟨hconnected, ?_⟩⟩
      change v₁.slots.set x.kind none = _
      rw [hparting.framed.slots, hkind]

/-- Stopping what is pending leaves no enrollment and no authentication, if there is a
    driver. It concerns those that were active. -/
theorem yields_stopPendingOperations (hv : v.Sound) {P : Session → Prop}
    (hP : ∀ x : Session, x.kind ≠ .remove → v.slots.get x.kind = some x → P x) :
    record.Yields v host.stopPendingOperations fun _ v' =>
      EpisodesOf P False v v' ∧
        (v.connected → v'.connected ∧ v'.slots.enroll = none ∧ v'.slots.authenticate = none) := by
  refine (record.yields_preempt v hv fun x hx => hP x (by simp [hx])).andThen fun _ v₁ h₁ => ?_
  -- Whoever is still active then was so before.
  have hP₁ (x : Session) (hkind : x.kind = .authenticate) (hslot : v₁.slots.get x.kind = some x) : P x :=
    hP x (by simp [hkind]) (h₁.2.1.slots x.kind x hslot)
  refine (record.yields_preempt v₁ (h₁.1.sound hv) hP₁).mono fun _ v₂ h₂ => ?_
  refine ⟨h₁.1.trans h₂.1, fun hconnected => ?_⟩
  obtain ⟨hconnected₁, hslots₁⟩ := h₁.2.2 hconnected
  obtain ⟨hconnected₂, hslots₂⟩ := h₂.2.2 hconnected₁
  rw [hslots₂, hslots₁]
  exact ⟨hconnected₂, rfl, rfl⟩

/-! ## Death of callers -/

section

variable {v₀ : View κ} {caller : CallerToken} {registrations : Nat} {P : Session → Prop}

/-- The session that a registration is for ends with the death of its caller, if it is still
    active. -/
theorem yields_endSession (hv : v.Sound) (hthins : v₀.Thins v)
    (hmourned : .published (Host.callerDiedEvent caller registrations) v₀.slots ∈ v₀.history)
    {kind : SessionKind} {id : Nat}
    (howned : ∀ x, v.slots.get kind = some x → x.id = id → x.caller = caller)
    (hP : ∀ x, v₀.slots.get x.kind = some x → x.caller = caller → P x) :
    record.Yields v (host.endSession kind id) fun _ v' => EpisodesOf P True v v' ∧ v.Thins v' := by
  refine (record.yields_active v kind).andThen fun found v₁ h₁ => ?_
  obtain ⟨rfl, rfl⟩ := h₁
  have hrefl := (View.Framed.refl v₁).thins
  cases hslot : v₁.slots.get kind with
  | none => exact yields_pure ⟨.refl, hrefl⟩
  | some x =>
    by_cases hid : x.id = id
    · subst hid
      obtain rfl := howned x hslot rfl
      have hkind := hv.sorted kind x hslot
      simp only [↓reduceIte]
      refine (record.yields_publish v₁ _).andThen fun _ v₂ h₂ => ?_
      have hslot₂ : v₂.slots.get kind = some x := by rw [h₂]; exact hslot
      refine (record.yields_removeSession v₂ hslot₂ hkind).mono fun _ v₃ h₃ => ?_
      subst hkind
      have hparting : v₁.Parting x v₂ := by
        rw [h₂]
        exact .died (hthins.history _ hmourned) (hthins.slots _ x hslot)
      have hx : P x := hP x (hthins.slots _ x hslot) rfl
      rw [h₃]
      exact ⟨.single (.parted hx hslot hparting fun hkept => absurd trivial hkept),
        hparting.framed.thins.trans (View.thins_leave v₂ x)⟩
    · simp only [hid, ↓reduceIte]
      exact yields_pure ⟨.refl, hrefl⟩

/-- The registrations of a caller are for sessions of that caller. -/
theorem along_runWatches (hv : v.Sound) (hthins : v₀.Thins v)
    (hmourned : .published (Host.callerDiedEvent caller registrations) v₀.slots ∈ v₀.history)
    (ids : List Nat)
    (howned : ∀ watch ∈ v₀.liveness.entries, watch.id ∈ ids → watch.caller = caller)
    (hP : ∀ x, v₀.slots.get x.kind = some x → x.caller = caller → P x) :
    record.Along (EpisodesOf P True) v (host.runWatches ids) := by
  -- By induction on the registrations that are left. All that they find was there at the
  -- start: sessions only leave their slots on the way, and registrations are only released.
  induction ids generalizing v with
  | nil => exact ensures_pure .refl
  | cons id rest ih =>
    have hnext (v') (h : EpisodesOf P True v v' ∧ v.Thins v') :
        record.Along (EpisodesOf P True) v' (host.runWatches rest) :=
      ih v' (h.1.sound hv) (hthins.trans h.2) fun watch hwatch hid =>
        howned watch hwatch (List.mem_cons_of_mem _ hid)
    refine ensures_get fun s hs => ?_
    have hliveness : s.liveness = v.liveness := hs ▸ rfl
    rw [hliveness]
    cases hfind : v.liveness.find? id with
    | none => exact hnext v ⟨.refl, (View.Framed.refl v).thins⟩
    | some watch =>
      have hwatch := List.mem_of_find?_eq_some hfind
      have hid : watch.id = id := by simpa using List.find?_some hfind
      have hcaller : watch.caller = caller :=
        howned watch (hthins.watches watch hwatch) (hid ▸ List.mem_cons_self ..)
      cases hdeath : watch.onDeath with
      | none =>
        simp only [hdeath]
        exact hnext v ⟨.refl, (View.Framed.refl v).thins⟩
      | some action =>
        simp only [hdeath]
        cases action with
        | endSession kind sessionId =>
          have hsession (x) (hx : v.slots.get kind = some x) (hxid : x.id = sessionId) :
              x.caller = caller :=
            ((hv.watched watch hwatch kind sessionId hdeath).2 x hx hxid).trans hcaller
          exact (record.yields_endSession v hv hthins hmourned hsession hP).thenAlong
            (fun _ _ h => h.1) fun _ => hnext
        | client task =>
          refine ensures_bind ((record.ensures_client v task).mono fun outcome v' h => ?_)
          have hepisodes : EpisodesOf P True v v' := .single (.noted h.1)
          cases outcome with
          | error fault => exact hepisodes
          | ok =>
            exact Ensures.mono (hnext v' ⟨hepisodes, h.framed.thins⟩) fun _ _ => hepisodes.trans

end

/-- The death of a caller ends sessions of that caller only, among those that were active. -/
theorem along_callerDied (hv : v.Sound) (caller : CallerToken) :
    record.Along (EpisodesOf (fun x => v.slots.get x.kind = some x ∧ x.caller = caller) True) v
      (host.callerDied caller) := by
  refine ensures_get fun s hs => ?_
  have hliveness : s.liveness = v.liveness := hs ▸ rfl
  rw [hliveness]
  dsimp only
  split
  case isFalse => exact ensures_pure .refl
  case isTrue =>
    have hepisode := Episode.mourned (v := v) caller (v.liveness.entriesOf caller).length
    refine (record.yields_publish v _).thenAlong
      (fun _ v₁ h₁ => .single (h₁ ▸ EpisodeOf.mourned caller _)) ?_
    rintro _ v₁ rfl
    refine along_runWatches record _ (hepisode.sound hv) (View.Framed.refl _).thins
      (List.mem_append_right _ (List.mem_singleton_self _)) _ (fun watch hwatch hid => ?_)
      fun x hslot hcaller => ⟨hslot, hcaller⟩
    obtain ⟨other, hother, hcaller, hsame⟩ := Liveness.mem_entriesOf.1 hid
    -- The numbers of registrations are distinct, so a number on the list is the caller's.
    rw [← (hv.distinct watch hwatch).2 other hother hsame]
    exact hcaller

end Record

end Fingerprint
