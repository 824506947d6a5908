import Fingerprint.Proofs.Ending

/-!
# How sessions start

The operations that start sessions, as sequences of episodes, and the sessions
that these concern. A start goes through: once a driver is there, it is there
until it is asked to begin, and so the sessions that were in the way have left
their slots by then.

* `Record.Poses`, `Record.Begins`: a request that comes down to one call, to a driver that is there;
* `Record.along_launch`: a session gets its slot, and the driver is asked;
* `Record.along_startEnrollment`, `along_startAuthentication`, `along_startRemove`.
-/

namespace Fingerprint

/-- A session that the coordinator makes has the identity and the registration that come
    next. -/
def View.newSession {κ : Type} (v : View κ) (kind : SessionKind) (caller : CallerToken)
    (sink : Option SinkName) (subject : Int32) : Session :=
  ⟨v.nextSession, kind, caller, sink, subject, ⟨some v.liveness.nextId, caller⟩⟩

/-- A session that was started for a caller. -/
structure Session.IsNew (x : Session) (kind : SessionKind) (caller : CallerToken) (sink : Option SinkName) :
    Prop where
  kind_eq : x.kind = kind
  caller_eq : x.caller = caller
  sink_eq : x.sink = sink

namespace Record

variable {ω κ : Type} {host : Host ω κ} (record : Record host) (v : View κ)

/-! ## Starting sessions -/

theorem yields_freshSession :
    record.Yields v (Host.freshSession : Op ω κ Nat) fun id v' =>
      id = v.nextSession ∧ v' = { v with nextSession := v.nextSession + 1 } := by
  rintro s rfl
  exact ⟨_, rfl, rfl, rfl⟩

/-- Whoever is somebody is registered under the next number. -/
theorem ensures_register (caller : CallerToken) (onDeath : Option (DeathAction κ)) :
    record.Ensures v (Host.register caller onDeath : Op ω κ Registration) fun outcome v' =>
      match outcome with
      | .error _ => caller = 0 ∧ v' = v
      | .ok registration => registration = ⟨some v.liveness.nextId, caller⟩ ∧
          v' = { v with liveness :=
            { entries := v.liveness.entries ++ [⟨v.liveness.nextId, caller, onDeath⟩]
              nextId := v.liveness.nextId + 1 } } := by
  refine ensures_get fun s hs => ?_
  have hliveness : s.liveness = v.liveness := hs ▸ rfl
  rw [hliveness, Liveness.register]
  by_cases hcaller : caller = 0
  · rw [if_pos hcaller]
    exact ensures_throw ⟨hcaller, rfl⟩
  · rw [if_neg hcaller]
    rintro s rfl
    exact ⟨rfl, rfl⟩

/-- A new session gets the slot of its kind, if that is empty and its caller is somebody. -/
theorem ensures_slotNew {kind : SessionKind} (hslot : v.slots.get kind = none)
    (caller : CallerToken) (sink : Option SinkName) (subject : Int32) :
    record.Ensures v (Host.slotNew kind caller sink subject) fun outcome v' =>
      match outcome with
      | .error _ => caller = 0 ∧ v' = { v with nextSession := v.nextSession + 1 }
      | .ok _ => ∀ message,
          let x := v.newSession kind caller sink subject
          v'.log [.published (x.startedEvent message) v'.slots] = v.enter x message := by
  refine (record.yields_freshSession v).bind fun id v₁ h₁ => ?_
  obtain ⟨rfl, rfl⟩ := h₁
  refine ensures_bind ((record.ensures_register _ caller _).mono fun outcome v₂ h₂ => ?_)
  cases outcome with
  | error fault => exact h₂
  | ok registration =>
    obtain ⟨rfl, rfl⟩ := h₂
    refine ensures_modify fun s hs message => ?_
    -- The slot was empty, so no registration of a session that was replaced is released.
    obtain ⟨slots, liveness, lockout, connection, nextSession, speaker, history⟩ := v
    simp only [System.view, View.mk.injEq] at hs
    obtain ⟨rfl, hliveness, rfl, rfl, hnext, rfl, rfl⟩ := hs
    have hget : s.slots.get kind = none := hslot
    simp only [System.view, hget, Host.releaseSession, hliveness, hnext]
    rfl

/-- A request that has the driver begin an operation of a kind, to a driver that is there. -/
def Begins (kind : SessionKind) (ask : Op ω κ DriverStatus) : Prop :=
  ∀ v : View κ, v.connected → record.Yields v ask fun status v' =>
    ∃ (call : DriverCall) (outcome : Except Fault call.Reply), call.begins = some kind ∧
      v.Asked call outcome v' ∧ (status.isOk ↔ call.accepts outcome)

/-- A request that asks the driver for one thing, if it is there, and says whether it accepts. -/
def Poses (call : DriverCall) (ask : Op ω κ DriverStatus) : Prop :=
  ∀ v : View κ, v.connected → record.Yields v ask fun status v' =>
    ∃ outcome : Except Fault call.Reply, v.Asked call outcome v' ∧ (status.isOk ↔ call.accepts outcome)

theorem Poses.begins {record : Record host} {call : DriverCall} {ask : Op ω κ DriverStatus}
    (h : record.Poses call ask) {kind : SessionKind} (hcall : call.begins = some kind) : record.Begins kind ask :=
  fun v hv => (h v hv).mono fun _ _ ⟨outcome, hasked, hstatus⟩ => ⟨call, outcome, hcall, hasked, hstatus⟩

theorem poses_forward {call : DriverCall} {operation : Bytes} {ask : Handle → Op ω κ Int}
    (hask : ∀ (v : View κ) (handle : Handle), v.connection.handle = some handle →
      record.Ensures v (ask handle) fun code v' =>
        ∃ outcome : Except Fault call.Reply, v.Asked call outcome v' ∧ (call.accepts outcome ↔ code = .ok 0)) :
    record.Poses call (host.forward operation ask) := by
  intro v hv
  obtain ⟨handle, hhandle⟩ := exists_handle v hv
  refine (record.yields_forward v hhandle (hask v handle hhandle)).mono fun status v₂ => ?_
  rintro ⟨code, v₁, ⟨outcome, hasked, haccepts⟩, hlogged, hstatus⟩
  exact ⟨outcome, hasked.logged hlogged, hstatus.trans haccepts.symm⟩

theorem poses_enroll (token : Bytes) (subject : Int32) (timeout : UInt32) :
    record.Poses (.enroll token subject timeout) (host.beginEnroll token subject timeout) :=
  record.poses_forward fun v _ hhandle =>
    Ensures.mono (record.ensures_driver v hhandle (.enroll token subject timeout)) fun outcome _ hasked =>
      ⟨outcome, hasked, DriverCall.isZero_iff outcome⟩

theorem poses_authenticate (operation : UInt64) (subject : Int32) :
    record.Poses (.authenticate operation subject) (host.beginAuthenticate operation subject) :=
  record.poses_forward fun v _ hhandle =>
    Ensures.mono (record.ensures_driver v hhandle (.authenticate operation subject)) fun outcome _ hasked =>
      ⟨outcome, hasked, DriverCall.isZero_iff outcome⟩

theorem poses_remove (id : UInt32) (subject : Int32) :
    record.Poses (.remove id subject) (host.beginRemove id subject) :=
  record.poses_forward fun v _ hhandle =>
    Ensures.mono (record.ensures_driver v hhandle (.remove id subject)) fun outcome _ hasked =>
      ⟨outcome, hasked, DriverCall.isZero_iff outcome⟩

/-- A session that the driver has not begun stays, or is told so and leaves its slot. -/
theorem yields_handleStartRejected {kind : SessionKind} {x : Session} (hslot : v.slots.get kind = some x)
    (hkind : x.kind = kind) (status : DriverStatus) :
    record.Yields v (host.handleStartRejected kind status) fun _ v' =>
      ∃ v₁, v.Kept v₁ ∧
        if host.setup.teardownOnReject then
          ∃ device delivered v₂, v₁.Delivered x (.error device SensorError.hwUnavailable.code) delivered v₂ ∧
            v' = v₂.leave x
        else v' = v₁ := by
  refine (record.yields_active v kind).andThen fun found v₁ h₁ => ?_
  obtain ⟨rfl, rfl⟩ := h₁
  rw [hslot]
  refine (record.yields_publish_note v₁ _ rfl).andThen fun _ v₂ h₂ => ?_
  split
  case isFalse => exact yields_pure ⟨v₂, h₂.kept, rfl⟩
  case isTrue =>
    refine (record.yields_sendError v₂ x .hwUnavailable).andThen fun _ v₃ h₃ => ?_
    obtain ⟨device, delivered, htold⟩ := h₃
    have hslot₃ : v₃.slots.get kind = some x := by rw [htold.framed.slots, h₂.noted.slots_eq, hslot]
    refine (record.yields_removeSession v₃ hslot₃ hkind).mono fun _ v₄ h₄ => ?_
    exact ⟨v₂, h₂.kept, device, delivered, v₃, htold, h₄⟩

/-- If it leaves its slot, it does so since the driver has refused. -/
theorem along_handleStartRejected {P : Session → Prop} {kind : SessionKind} {x : Session}
    (hslot : v.slots.get kind = some x) (hkind : x.kind = kind) (hx : P x)
    (hrefusal : ∃ entry ∈ v.history, entry.isRefusal) (status : DriverStatus) :
    record.Along (EpisodesOf P False) v (host.handleStartRejected kind status) := by
  refine (record.yields_handleStartRejected v hslot hkind status).along ?_
  rintro _ v' ⟨v₁, hkept, hrest⟩
  split at hrest
  case isFalse => exact .single (.noted (hrest ▸ hkept.1))
  case isTrue =>
    obtain ⟨device, delivered, v₂, htold, rfl⟩ := hrest
    refine .single (.parted hx hslot (.rejected hrefusal hkept htold) fun _ hobliging _ _ => ?_)
    -- A driver that obliges has not refused.
    obtain ⟨entry, hentry, hrefused⟩ := hrefusal
    have hobeyed := (hobliging entry ((hkept.framed.trans htold.framed).mem_history hentry)).2
    rw [hobeyed] at hrefused
    cases hrefused

/-- A session gets its slot, which is empty, and the driver is asked to begin. A caller that
    is nobody gets none. -/
theorem along_launch (hconnected : v.connected) {P : Session → Prop}
    {kind : SessionKind} {caller : CallerToken} {sink : Option SinkName}
    (hP : ∀ x : Session, x.IsNew kind caller sink → P x)
    (vacant : v.slots.get kind = none)
    (alone : kind ≠ .remove → v.slots.enroll = none ∧ v.slots.authenticate = none) (message : Bytes)
    (subject : Int32) {ask : Op ω κ DriverStatus} (hask : record.Begins kind ask) :
    record.Along (EpisodesOf P False) v (host.launch kind message caller sink subject ask) := by
  let x := v.newSession kind caller sink subject
  have hx : P x := hP x ⟨rfl, rfl, rfl⟩
  refine ensures_bind ((record.ensures_slotNew v vacant caller sink subject).mono
    fun outcome v₁ h₁ => ?_)
  cases outcome with
  | error fault =>
    change EpisodesOf P False v v₁
    obtain ⟨-, rfl⟩ := h₁
    exact .single .numbered
  | ok =>
    -- The driver that was acquired is still there when it is asked to begin.
    refine (record.yields_publish v₁ _).bind fun _ v₂ h₂ => ?_
    replace h₂ : v₂ = v.enter x message := h₂.trans (h₁ message)
    have hconnected₂ : v₂.connected := h₂ ▸ hconnected
    refine (hask v₂ hconnected₂).bind fun status v₃ h₃ => ?_
    obtain ⟨call, outcome, hcall, hasked, hstatus⟩ := h₃
    have hepisode : EpisodeOf P False v v₃ := .launched hx rfl rfl vacant alone hcall (h₂ ▸ hasked)
    have hslot₃ : v₃.slots.get kind = some x := by
      rw [hasked.framed.slots, h₂]
      exact Slots.get_set_self ..
    cases hok : status.isOk with
    | true => exact ensures_pure (.single hepisode)
    | false =>
      -- The session may part for no other reason than that the driver has refused.
      have hrefusal : ∃ entry ∈ v₃.history, entry.isRefusal := by
        obtain ⟨handle, -, entries, -, rfl⟩ := hasked
        refine ⟨.called (.driver handle call) outcome v₂.slots v₂.speaker, ?_, ?_⟩
        · exact List.mem_append_left _ (List.mem_append_right _ (List.mem_singleton_self _))
        · have haccepts : call.accepts outcome = false := by simpa [hok] using hstatus
          simp [Entry.isRefusal, hcall, haccepts]
      have hreject := record.along_handleStartRejected v₃ hslot₃ rfl hx hrefusal status
      exact Ensures.mono hreject fun outcome v₄ hrest => .head hepisode hrest

/-- A start begins by acquiring the driver. -/
theorem along_start (hv : v.Sound) {P : Session → Prop} {kind : SessionKind} {caller : CallerToken}
    {rest : Op ω κ Unit}
    (hrest : ∀ v', v.Kept v' → v'.Sound → v'.connected → record.Along (EpisodesOf P False) v' rest) :
    record.Along (EpisodesOf P False) v (do
      if (← host.acquire).isNone then host.abortStart kind caller else rest) := by
  refine (record.yields_acquire v).thenAlong (fun _ v₁ h => .single (.noted h.2.1.1))
    fun handle v₁ h₁ => ?_
  obtain ⟨hhandle, hkept, -⟩ := h₁
  rw [View.connected_of_handle hhandle]
  cases hconnected : v₁.connected with
  | false =>
    exact (record.yields_publish_note v₁ _ rfl).along fun _ v₂ h₂ => .single (.noted h₂.noted)
  | true => exact hrest v₁ hkept (hv.framed hkept.framed) hconnected

/-- A start concerns the sessions that it stops, and the one that is new. -/
theorem along_startEnrollment (hv : v.Sound) (caller : CallerToken) (sink : Option SinkName)
    (request : EnrollRequest) {P : Session → Prop}
    (hP : ∀ x : Session, x.kind ≠ .remove → v.slots.get x.kind = some x → P x)
    (hnew : ∀ x : Session, x.IsNew .enroll caller sink → P x) :
    record.Along (EpisodesOf P False) v (host.startEnrollment caller sink request) := by
  refine record.along_start v hv fun v₁ hkept hv₁ hconnected => ?_
  have hstop := record.yields_stopPendingOperations v₁ hv₁ (hkept.framed.slots ▸ hP)
  refine hstop.thenAlong (fun _ v₂ h => h.1) fun _ v₂ h₂ => ?_
  -- With a driver, stopping what is pending has left both slots empty.
  obtain ⟨hconnected₂, henroll, hauthenticate⟩ := h₂.2 hconnected
  have vacant : v₂.slots.get .enroll = none := henroll
  exact record.along_launch v₂ hconnected₂ hnew vacant (fun _ => ⟨henroll, hauthenticate⟩) _ _
    ((record.poses_enroll _ _ _).begins rfl)

/-- Whoever is refused since authentication is locked is told so, and gets no slot. -/
theorem yields_refuseLocked (caller : CallerToken) (sink : Option SinkName) (subject : Int32) :
    record.Yields v (host.refuseLocked caller sink subject) fun _ v' =>
      ∃ device delivered v₁, { v with nextSession := v.nextSession + 1 }.Kept v₁ ∧
        v₁.Delivered { id := v.nextSession, kind := .authenticate, caller, sink, subject }
          (.error device SensorError.lockout.code) delivered v' := by
  refine (record.yields_freshSession v).andThen fun id v₁ h₁ => ?_
  obtain ⟨rfl, rfl⟩ := h₁
  refine (record.yields_publish_note _ _ rfl).andThen fun _ v₂ h₂ => ?_
  cases sink with
  | none =>
    refine (record.yields_publish_note v₂ _ rfl).mono fun _ v₃ h₃ => ?_
    exact ⟨0, false, v₃, (h₂.trans h₃).kept, .nowhere rfl⟩
  | some =>
    refine (record.yields_sendError v₂ _ .lockout).mono fun _ v₃ h₃ => ?_
    obtain ⟨device, delivered, htold⟩ := h₃
    exact ⟨device, delivered, v₂, h₂.kept, htold⟩

theorem yields_isLocked : record.Yields v host.isLocked fun _ v' => v' = v := by
  rintro s rfl
  exact ⟨_, rfl, rfl⟩

theorem along_startAuthentication (hv : v.Sound) (caller : CallerToken) (sink : Option SinkName)
    (request : AuthenticateRequest) {P : Session → Prop}
    (hP : ∀ x : Session, x.kind ≠ .remove → v.slots.get x.kind = some x → P x)
    (hnew : ∀ x : Session, x.IsNew .authenticate caller sink → P x) :
    record.Along (EpisodesOf P False) v (host.startAuthentication caller sink request) := by
  refine record.along_start v hv fun v₁ hkept hv₁ hconnected => ?_
  have hstop := record.yields_stopPendingOperations v₁ hv₁ (hkept.framed.slots ▸ hP)
  refine hstop.thenAlong (fun _ v₂ h => h.1) fun _ v₂ h₂ => ?_
  obtain ⟨hconnected₂, henroll, hauthenticate⟩ := h₂.2 hconnected
  refine (record.yields_isLocked v₂).bind fun locked v₃ h₃ => ?_
  obtain rfl := h₃
  cases locked with
  | true =>
    refine (record.yields_refuseLocked v₃ _ _ _).along ?_
    rintro _ v₅ ⟨device, delivered, v₄, hkept₄, htold⟩
    exact .single (.refused (hnew _ ⟨rfl, rfl, rfl⟩) rfl hkept₄ htold)
  | false =>
    have vacant : v₃.slots.get .authenticate = none := hauthenticate
    exact record.along_launch v₃ hconnected₂ hnew vacant (fun _ => ⟨henroll, hauthenticate⟩) _ _
      ((record.poses_authenticate _ _).begins rfl)

theorem along_startRemove (hv : v.Sound) (caller : CallerToken) (sink : Option SinkName)
    (request : RemoveRequest) {P : Session → Prop}
    (hP : ∀ x : Session, x.kind = .remove → v.slots.get x.kind = some x → P x)
    (hnew : ∀ x : Session, x.IsNew .remove caller sink → P x) :
    record.Along (EpisodesOf P False) v (host.startRemove caller sink request) := by
  refine record.along_start v hv fun v₁ hkept hv₁ hconnected => ?_
  have hlaunch (v₂) (hconnected₂ : v₂.connected) (vacant : v₂.slots.get .remove = none) :=
    record.along_launch v₂ hconnected₂ hnew vacant (fun h => absurd rfl h)
      "Removal started" request.subject ((record.poses_remove request.id request.subject).begins rfl)
  refine (record.yields_active v₁ .remove).bind fun found v₂ h₂ => ?_
  obtain ⟨rfl, rfl⟩ := h₂
  cases hslot : v₂.slots.get .remove with
  | none => exact hlaunch v₂ hconnected hslot
  | some x =>
    have hkind := hv₁.sorted .remove x hslot
    have hx : P x := hP x hkind (by rw [hkind, ← hkept.framed.slots, hslot])
    -- The removal before it leaves the slot first.
    refine (record.yields_dismissRemove v₂ hslot hkind).thenAlong ?_ ?_
    · rintro _ v₃ ⟨device, delivered, v', htold, rfl⟩
      exact .single (.parted hx hslot (.canceled (.refl v₂) (.remove hkind) htold)
        fun _ _ _ hsensor => absurd hkind hsensor)
    · rintro _ v₃ ⟨device, delivered, v', htold, rfl⟩
      refine hlaunch _ (htold.connected hconnected) ?_
      change (v'.slots.set x.kind none).get .remove = none
      rw [hkind, Slots.get_set_self]

end Record

end Fingerprint
