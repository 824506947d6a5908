import Fingerprint.Proofs.Milestone

/-!
# Preemption

Whoever starts an enrollment or an authentication ends the session of either
kind that is active: the driver gives it up, its sink is told, it leaves its
slot, and only then the new one gets its own and is begun. What the driver
answers and whether sinks fail makes no difference to that. Where
authentication is locked, no more than the first half happens, and the new
sink is told why.

* `Start`: what callers start;
* `Record.yields_launch`: what comes of a session that gets its slot;
* `Record.yields_preempt_of_some`: what the active session gives way with;
* `Record.Reachable.preempts`: the one after the other.
-/

namespace Fingerprint

variable {ω κ : Type}

/-! ## Starts -/

/-- What a caller starts. -/
inductive Start where
  | enroll (request : EnrollRequest)
  | authenticate (request : AuthenticateRequest)
  | remove (request : RemoveRequest)

namespace Start

def kind : Start → SessionKind
  | enroll _ => .enroll
  | authenticate _ => .authenticate
  | remove _ => .remove

def subject : Start → Int32
  | enroll request => request.subject
  | authenticate request => request.subject
  | remove request => request.subject

/-- The task that does it. -/
def task (caller : CallerToken) (sink : Option SinkName) : Start → Task κ
  | enroll request => .startEnrollment caller sink request
  | authenticate request => .startAuthentication caller sink request
  | remove request => .startRemove caller sink request

/-- What the driver is asked for. -/
def call (host : Host ω κ) : Start → DriverCall
  | enroll request => .enroll request.token request.subject host.enrollTimeout
  | authenticate request => .authenticate request.operation request.subject
  | remove request => .remove request.id request.subject

/-- The request to the driver. -/
def ask (host : Host ω κ) : Start → Op ω κ DriverStatus
  | enroll request => host.beginEnroll request.token request.subject host.enrollTimeout
  | authenticate request => host.beginAuthenticate request.operation request.subject
  | remove request => host.beginRemove request.id request.subject

/-- What observers are told of a session that gets its slot. -/
def message : Start → Bytes
  | enroll _ => "Enrollment started"
  | authenticate _ => "Authentication started"
  | remove _ => "Removal started"

/-- What is done first, with a driver: sessions that are in the way end. -/
def clear (host : Host ω κ) : Start → Op ω κ Unit
  | enroll _ | authenticate _ => host.stopPendingOperations
  | remove _ => do
    if let some previous ← Host.active .remove then host.dismissRemove previous

/-- What is done then: the new session gets its slot, and is begun, unless authentication is
    locked. -/
def fill (host : Host ω κ) (caller : CallerToken) (sink : Option SinkName) (start : Start) : Op ω κ Unit := do
  if start.kind = .authenticate && (← host.isLocked) then host.refuseLocked caller sink start.subject
  else host.launch start.kind start.message caller sink start.subject (start.ask host)

/-- Starts of all kinds go the same way. -/
theorem perform_task (host : Host ω κ) (start : Start) (caller : CallerToken) (sink : Option SinkName) :
    host.perform (start.task caller sink) = (do
      if (← host.acquire).isNone then host.abortStart start.kind caller
      else
        start.clear host
        start.fill host caller sink) := by
  cases start with
  | enroll | authenticate => rfl
  | remove request =>
    refine bind_congr fun handle => ?_
    split
    · rfl
    · simp only [clear, bind_assoc]
      refine bind_congr fun previous => ?_
      cases previous <;> rfl

theorem begins_call (host : Host ω κ) (start : Start) : (start.call host).begins = some start.kind := by
  cases start <;> rfl

theorem poses {host : Host ω κ} (record : Record host) (start : Start) :
    record.Poses (start.call host) (start.ask host) := by
  cases start with
  | enroll => exact record.poses_enroll _ _ _
  | authenticate => exact record.poses_authenticate _ _
  | remove => exact record.poses_remove _ _

end Start

theorem DriverCall.isForSession_of_begins {call : DriverCall} {kind : SessionKind} (h : call.begins = some kind)
    (handle : Handle) : (Call.driver handle call).isForSession := by
  cases call <;> first | rfl | cases h

theorem DriverCall.isForSession_of_cancels {call : DriverCall} {kind : SessionKind} (h : call.cancels = some kind)
    (handle : Handle) : (Call.driver handle call).isForSession := by
  cases call <;> first | rfl | cases h

variable {host : Host ω κ} {s : System ω κ} {handle : Handle}

/-- A start may as well begin once the driver is there. -/
theorem Record.exists_acquired (record : Record host) (havailable : (host.acquire.run s).1 = .ok (some handle)) :
    ∃ s₀ : System ω κ, (s.view record.history).Kept (s₀.view record.history) ∧
      (s₀.view record.history).connection.handle = some handle ∧
      ∀ (start : Start) (caller : CallerToken) (sink : Option SinkName),
        (host.perform (start.task caller sink)).run s = (host.perform (start.task caller sink)).run s₀ := by
  obtain ⟨found, hok, hfound, hkept, -⟩ := record.yields_acquire (s.view record.history) s rfl
  rw [havailable, Except.ok.injEq] at hok
  rw [← hok] at hfound
  refine ⟨(host.acquire.run s).2, hkept, hfound.symm, fun start caller sink => ?_⟩
  rw [start.perform_task, Op.run_bind_of_ok havailable, Op.run_bind, host.run_acquire_of_handle hfound.symm]

namespace View

variable {v v' v₁ : View κ} {x : Session} {marks : List Entry} {kind : SessionKind}

/-- From `v` to `v'` the slot of a kind was cleared. No operation is begun on the way, and nothing
    is told to the session that comes next. -/
structure Cleared (v : View κ) (kind : SessionKind) (v' : View κ) : Prop where
  vacant : v'.slots.get kind = none
  lockout : v'.lockout = v.lockout
  nextSession : v'.nextSession = v.nextSession
  nextId : v'.liveness.nextId = v.liveness.nextId
  handle : v.connected → v'.connection.handle = v.connection.handle
  history : ∃ entries, v'.history = v.history ++ entries ∧ beginnings entries = [] ∧
    ∀ t ∈ tellings entries, t.speaker ≠ some v.nextSession

namespace Cleared

theorem refl (vacant : v.slots.get kind = none) : v.Cleared kind v :=
  ⟨vacant, rfl, rfl, rfl, fun _ => rfl, [], (List.append_nil _).symm, rfl, nofun⟩

/-- A session leaves its slot, and nobody else is told of anything. -/
theorem of_leave (h : v.Passes marks v₁) (hbeginnings : beginnings marks = [])
    (htellings : ∀ t ∈ tellings marks, t.speaker = some x.id) (hid : x.id < v.nextSession)
    (vacant : (v.slots.set x.kind none).get kind = none) : v.Cleared kind (v₁.leave x) := by
  obtain ⟨entries, hentries, rfl⟩ := h.history
  rw [beginnings_milestones] at hbeginnings
  rw [tellings_milestones] at htellings
  refine ⟨?_, h.lockout, h.nextSession, ?_, h.handle, entries ++ [.published x.removedEvent (v.slots.set x.kind none)],
    ?_, ?_, fun t ht => ?_⟩
  · change (v₁.slots.set x.kind none).get kind = none
    rwa [h.slots]
  · rw [← h.liveness]
    change (x.registration.release v₁.liveness).2.nextId = v₁.liveness.nextId
    rw [Registration.release]
    cases x.registration.id <;> rfl
  · change v₁.history ++ [.published x.removedEvent (v₁.slots.set x.kind none)] = _
    rw [hentries, h.slots, List.append_assoc]
  · rw [beginnings_append, hbeginnings]
    rfl
  · rw [tellings_append] at ht
    rcases List.mem_append.1 ht with ht | ht
    · rw [htellings t ht]
      simpa using Nat.ne_of_lt hid
    · cases ht

theorem handle_eq (h : v.Cleared kind v') {handle : Handle} (hv : v.connection.handle = some handle) :
    v'.connection.handle = some handle := by
  rw [h.handle (by rw [View.connected, hv]; rfl), hv]

/-- The next session is the same as before. -/
theorem newSession_eq (h : v.Cleared kind v') (other : SessionKind) (caller : CallerToken) (sink : Option SinkName)
    (subject : Int32) : v'.newSession other caller sink subject = v.newSession other caller sink subject := by
  rw [newSession, newSession, h.nextSession, h.nextId]

/-- What was noted before makes no difference. -/
theorem after (h : v.Kept v₁) (hcleared : v₁.Cleared kind v') : v.Cleared kind v' := by
  have hpasses := h.passes
  refine ⟨hcleared.vacant, hcleared.lockout.trans hpasses.lockout, hcleared.nextSession.trans hpasses.nextSession,
    hcleared.nextId.trans (congrArg _ hpasses.liveness),
    fun hv => (hcleared.handle (hpasses.connected hv)).trans (hpasses.handle hv), ?_⟩
  obtain ⟨notes, hnotes, hnone⟩ := hpasses.history
  obtain ⟨entries, hentries, hbeginnings, htellings⟩ := hcleared.history
  refine ⟨notes ++ entries, by rw [hentries, hnotes, List.append_assoc], ?_, fun t ht => ?_⟩
  · rw [beginnings_append, hbeginnings, ← beginnings_milestones, hnone]
    rfl
  · rw [tellings_append, ← tellings_milestones, hnone] at ht
    rw [← hpasses.nextSession]
    exact htellings t ht

end Cleared

/-- Of enrollments and authentications, only one is active. -/
theorem Sound.get_eq_none (hv : v.Sound) {other : SessionKind} (hslot : v.slots.get other = some x)
    (hother : other ≠ .remove) (hkind : kind ≠ .remove) (hne : kind ≠ other) : v.slots.get kind = none := by
  have hexclusive := hv.exclusive
  cases other <;> cases kind <;> simp_all [Slots.get]

/-- So only one may be in the way. -/
theorem GivesWay.cleared (h : v.GivesWay handle x v') (hv : v.Sound) (hslot : v.slots.get x.kind = some x)
    (hx : x.kind ≠ .remove) (hkind : kind ≠ .remove) : v.Cleared kind v' := by
  obtain ⟨call, outcome, tidings, v₁, hcall, htidings, hpasses, rfl⟩ := h
  refine .of_leave hpasses ?_ (fun t ht => ?_) (hv.numbered _ x hslot) ?_
  · have hnone : beginnings tidings = [] := htidings.beginnings
    cases call <;> first | exact hnone | cases hcall
  · obtain ⟨device, taken, htold⟩ := htidings.tellings
    change t ∈ tellings tidings at ht
    rw [htold] at ht
    exact (Session.speaker_of_mem_told ht).2
  · by_cases hsame : kind = x.kind
    · rw [hsame, Slots.get_set_self]
    · rw [Slots.get_set_of_ne _ _ hsame]
      exact hv.get_eq_none hslot hx hkind hsame

end View

namespace Record

variable (record : Record host) {v : View κ} {x : Session}

/-! ## The new session -/

theorem yields_slotNew {kind : SessionKind} (vacant : v.slots.get kind = none) {caller : CallerToken}
    (hcaller : caller ≠ 0) (sink : Option SinkName) (subject : Int32) :
    record.Yields v (Host.slotNew kind caller sink subject) fun _ v' => ∀ message,
      let x := v.newSession kind caller sink subject
      v'.log [.published (x.startedEvent message) v'.slots] = v.enter x message := by
  refine (record.ensures_slotNew v vacant caller sink subject).mono fun outcome v' h => ?_
  cases outcome with
  | error fault => exact absurd h.1 hcaller
  | ok result => exact ⟨result, rfl, h⟩

/-- A session gets its slot, and the driver is asked to begin its operation. -/
theorem yields_launch (hhandle : v.connection.handle = some handle) {kind : SessionKind}
    (vacant : v.slots.get kind = none) (message : Bytes) {caller : CallerToken} (hcaller : caller ≠ 0)
    (sink : Option SinkName) (subject : Int32) {call : DriverCall} (hcall : call.begins = some kind)
    {ask : Op ω κ DriverStatus} (hask : record.Poses call ask) :
    record.Yields v (host.launch kind message caller sink subject ask) fun _ v' =>
      ∃ outcome, v.Starts host.setup.teardownOnReject handle call (v.newSession kind caller sink subject) outcome
        v' := by
  refine (record.yields_slotNew vacant hcaller sink subject).andThen fun _ v₁ h₁ => ?_
  refine (record.yields_publish v₁ _).andThen fun _ v₂ h₂ => ?_
  generalize hx : v.newSession kind caller sink subject = x at h₁ ⊢
  have hkind : x.kind = kind := by rw [← hx]; rfl
  replace h₂ : v₂ = v.enter x message := by
    rw [← h₁ message, h₂, ← hx]
    rfl
  subst h₂
  have hentered : (v.enter x message).connection.handle = some handle := hhandle
  refine (hask (v.enter x message) ?_).andThen fun status v₃ h₃ => ?_
  · rw [View.connected, hentered]
    rfl
  obtain ⟨outcome, hasked, hstatus⟩ := h₃
  have hpasses := hasked.passes hentered (DriverCall.isForSession_of_begins hcall handle)
  have hslot₃ : v₃.slots.get kind = some x := by
    rw [hpasses.slots, ← hkind]
    exact Slots.get_set_self ..
  cases hok : status.isOk with
  | true => exact yields_pure ⟨outcome, .stays (.inl (hstatus.1 hok)) ⟨message, hpasses⟩⟩
  | false =>
    have hrefused : call.accepts outcome = false := by simpa [hok] using hstatus
    refine (record.yields_handleStartRejected v₃ hslot₃ hkind status).mono fun _ v₆ h₆ => ⟨outcome, ?_⟩
    obtain ⟨v₄, hkept, hrest⟩ := h₆
    split at hrest
    case isFalse hteardown =>
      subst hrest
      exact .stays (.inr (by simpa using hteardown)) ⟨message, .between (.refl _) hpasses hkept⟩
    case isTrue hteardown =>
      obtain ⟨device, delivered, v₅, htold, rfl⟩ := hrest
      obtain ⟨tidings, htidings, htelling⟩ := htold.passes
      have hslots : v₄.slots = v.slots.set x.kind (some x) := hkept.passes.slots.trans hpasses.slots
      rw [hslots] at htidings
      refine .tornDown (by simp [hrefused, hteardown]) htidings ⟨message, ?_⟩
      exact (View.Passes.between (.refl _) hpasses hkept).trans htelling

/-- Where authentication is locked, a session gets no slot. -/
theorem yields_refuseLocked_turnsAway (caller : CallerToken) (sink : Option SinkName) (subject : Int32) :
    record.Yields v (host.refuseLocked caller sink subject) fun _ v' =>
      v.TurnsAway { id := v.nextSession, kind := .authenticate, caller, sink, subject } v' := by
  refine (record.yields_refuseLocked v caller sink subject).mono ?_
  rintro _ v' ⟨device, delivered, v₁, hkept, htold⟩
  obtain ⟨tidings, htidings, hpasses⟩ := htold.passes
  rw [hkept.passes.slots] at htidings
  exact ⟨tidings, htidings, .between hkept hpasses (.refl v')⟩

/-- What comes of a start once the slot is empty. -/
theorem yields_fill (hhandle : v.connection.handle = some handle) {start : Start} (vacant : v.slots.get start.kind = none)
    {caller : CallerToken} (hcaller : caller ≠ 0) (sink : Option SinkName) :
    record.Yields v (start.fill host caller sink) fun _ v' =>
      let x := v.newSession start.kind caller sink start.subject
      if start.kind = .authenticate ∧ v.lockout.isLocked host.setup.lockout then
        v.TurnsAway { x with registration := {} } v'
      else ∃ outcome, v.Starts host.setup.teardownOnReject handle (start.call host) x outcome v' := by
  have hlaunch := record.yields_launch hhandle vacant start.message hcaller sink start.subject
    (start.begins_call host) (start.poses record)
  have hrefuse := record.yields_refuseLocked_turnsAway (v := v) caller sink start.subject
  intro s hs
  have hlocked : s.lockout = v.lockout := by rw [← hs]; rfl
  have hrun : (start.fill host caller sink).run s =
      (if start.kind = .authenticate && v.lockout.isLocked host.setup.lockout then
        host.refuseLocked caller sink start.subject
      else host.launch start.kind start.message caller sink start.subject (start.ask host)).run s := by
    rw [← hlocked]
    cases start <;> rfl
  rw [hrun]
  by_cases hboth : start.kind = .authenticate ∧ v.lockout.isLocked host.setup.lockout
  · rw [if_pos (by simpa using hboth)]
    obtain ⟨result, hok, hpost⟩ := hrefuse s hs
    refine ⟨result, hok, ?_⟩
    dsimp only
    rw [if_pos hboth, hboth.1]
    exact hpost
  · rw [if_neg (by simpa using hboth)]
    obtain ⟨result, hok, hpost⟩ := hlaunch s hs
    refine ⟨result, hok, ?_⟩
    dsimp only
    rwa [if_neg hboth]

/-- What comes of a start with a driver that is there. -/
theorem yields_start (hhandle : v.connection.handle = some handle) {start : Start} {P : View κ → Prop}
    (hclear : record.Yields v (start.clear host) fun _ v₁ => P v₁) (hP : ∀ v₁, P v₁ → v.Cleared start.kind v₁)
    {caller : CallerToken} (hcaller : caller ≠ 0) (sink : Option SinkName) :
    record.Yields v (host.perform (start.task caller sink)) fun _ v' =>
      let x := v.newSession start.kind caller sink start.subject
      ∃ v₁, P v₁ ∧
        if start.kind = .authenticate ∧ v.lockout.isLocked host.setup.lockout then
          v₁.TurnsAway { x with registration := {} } v'
        else ∃ outcome, v₁.Starts host.setup.teardownOnReject handle (start.call host) x outcome v' := by
  rw [start.perform_task]
  refine (record.yields_acquire v).andThen fun found v₀ h₀ => ?_
  obtain ⟨hfound, -, hsame⟩ := h₀
  obtain rfl := hsame (by rw [View.connected, hhandle]; rfl)
  rw [hfound, hhandle]
  refine hclear.andThen fun _ v₁ h₁ => ?_
  have hcleared := hP v₁ h₁
  refine (record.yields_fill (hcleared.handle_eq hhandle) hcleared.vacant hcaller sink).mono fun _ v' h' => ?_
  rw [hcleared.newSession_eq, hcleared.lockout] at h'
  exact ⟨v₁, h₁, h'⟩

/-! ## The old session -/

theorem yields_preempt_of_none {kind : SessionKind} (hslot : v.slots.get kind = none) :
    record.Yields v (host.preempt kind) fun _ v' => v' = v := by
  refine (record.yields_active v kind).andThen fun found v₁ h₁ => ?_
  obtain ⟨rfl, rfl⟩ := h₁
  rw [hslot]
  exact yields_pure rfl

/-- A session that is active gives way, if there is a driver. -/
theorem yields_preempt_of_some (hhandle : v.connection.handle = some handle) {kind : SessionKind}
    (hremove : kind ≠ .remove) (hslot : v.slots.get kind = some x) (hkind : x.kind = kind) :
    record.Yields v (host.preempt kind) fun _ v' => v.GivesWay handle x v' := by
  refine (record.yields_active v kind).andThen fun found v₀ h₀ => ?_
  obtain ⟨rfl, rfl⟩ := h₀
  rw [hslot]
  refine (record.yields_stopSession v₀ hslot hkind true).andThen fun stopped v' h => yields_pure ?_
  have hconnected : v₀.connected := by rw [View.connected, hhandle]; rfl
  cases stopped with
  | false =>
    obtain ⟨hkept, hnone⟩ := h
    rw [hkept.connected hconnected] at hnone
    cases hnone
  | true =>
    obtain ⟨v₁, v₂, hkept, -, hhalted, device, delivered, v₃, htold, rfl⟩ := h
    cases hhalted with
    | remove h => exact absurd (hkind.symm.trans h) hremove
    | @asked call outcome _ hcall hasked =>
      have hcanceled := hasked.passes (hkept.passes.handle_eq hhandle) (DriverCall.isForSession_of_cancels hcall handle)
      obtain ⟨tidings, htidings, htelling⟩ := htold.passes
      rw [hcanceled.slots] at htidings
      exact .after hkept ⟨call, outcome, tidings, v₃, hcall, htidings, hcanceled.trans htelling, rfl⟩

/-- The enrollment or authentication that is active gives way. -/
theorem yields_stopPendingOperations_of_some (hv : v.Sound) (hhandle : v.connection.handle = some handle)
    {kind : SessionKind} (hremove : kind ≠ .remove) (hslot : v.slots.get kind = some x) :
    record.Yields v host.stopPendingOperations fun _ v' => v.GivesWay handle x v' := by
  have hkind := hv.sorted kind x hslot
  cases kind with
  | enroll =>
    refine (record.yields_preempt_of_some hhandle hremove hslot hkind).andThen fun _ v₁ h₁ => ?_
    have hbefore : v.slots.get .authenticate = none := hv.get_eq_none hslot hremove (by decide) (by decide)
    have hnone : v₁.slots.get .authenticate = none := by
      obtain ⟨call, outcome, tidings, v₂, -, -, hpasses, rfl⟩ := h₁
      change (v₂.slots.set x.kind none).get .authenticate = none
      rw [hpasses.slots, hkind]
      exact hbefore
    refine (record.yields_preempt_of_none hnone).mono fun _ v₂ h₂ => ?_
    rwa [h₂]
  | authenticate =>
    have hnone : v.slots.get .enroll = none := hv.get_eq_none hslot hremove (by decide) (by decide)
    refine (record.yields_preempt_of_none hnone).andThen fun _ v₁ h₁ => ?_
    subst h₁
    exact record.yields_preempt_of_some hhandle hremove hslot hkind
  | remove => exact absurd rfl hremove

/-- An enrollment or authentication is active when one is started, with a driver to be had, by
    whomever. The active one gives way: the driver is asked once to give it up, its sink is told once
    that it is cancelled, it leaves its slot and its registration is released. After that the new
    session gets its slot and is registered, and the driver is asked once to begin just what was
    requested; only if it is to be torn down more is told, to the new sink. Where authentication
    is locked, the new sink is told so once instead, and that is all. Whatever the driver answers and
    whichever sinks fail, the start goes on to its end. -/
theorem Reachable.preempts {record : Record host} (h : record.Reachable s) {kind : SessionKind} {x : Session}
    (hslot : s.slots.get kind = some x) (hkind : kind ≠ .remove) {start : Start} (hstart : start.kind ≠ .remove)
    {caller : CallerToken} (hcaller : caller ≠ 0) (sink : Option SinkName)
    (havailable : (host.acquire.run s).1 = .ok (some handle)) :
    let v := s.view record.history
    let y := v.newSession start.kind caller sink start.subject
    ∃ s' v₁, (host.perform (start.task caller sink)).run s = (.ok (), s') ∧ v.GivesWay handle x v₁ ∧
      (if start.kind = .authenticate ∧ s.lockout.isLocked host.setup.lockout then
        v₁.TurnsAway { y with registration := {} } (s'.view record.history)
      else ∃ outcome,
        v₁.Starts host.setup.teardownOnReject handle (start.call host) y outcome (s'.view record.history)) ∧
      ∃ device taken told,
        v.Told (s'.view record.history) (x.told (.error device SensorError.canceled.code) taken ++ told) ∧
          ∀ t ∈ told, sink = some t.sink ∧ t.speaker = some y.id := by
  intro v y
  obtain ⟨s₀, hkept, hhandle, hperform⟩ := record.exists_acquired havailable
  rw [hperform]
  have hpasses := hkept.passes
  have hsound := h.sound.framed hkept.framed
  have hslot₀ : (s₀.view record.history).slots.get kind = some x := by rw [hpasses.slots]; exact hslot
  have hxkind := hsound.sorted kind x hslot₀
  have hclear : record.Yields (s₀.view record.history) (start.clear host) fun _ v₁ =>
      (s₀.view record.history).GivesWay handle x v₁ := by
    have hstop := record.yields_stopPendingOperations_of_some hsound hhandle hkind hslot₀
    cases start with
    | enroll | authenticate => exact hstop
    | remove => exact absurd rfl hstart
  have hcleared (v₁) (hway : (s₀.view record.history).GivesWay handle x v₁) :
      (s₀.view record.history).Cleared start.kind v₁ :=
    hway.cleared hsound (hxkind ▸ hslot₀) (hxkind ▸ hkind) hstart
  obtain ⟨⟨⟩, hrun, v₁, hway, hrest⟩ := record.yields_start hhandle hclear hcleared hcaller sink s₀ rfl
  rw [hpasses.lockout, hpasses.newSession_eq] at hrest
  replace hway := View.GivesWay.after hkept hway
  refine ⟨_, v₁, Prod.ext hrun rfl, hway, hrest, ?_⟩
  obtain ⟨device, taken, hcanceled⟩ := hway.told
  have hlater : ∃ told, v₁.Told (((host.perform (start.task caller sink)).run s₀).2.view record.history) told ∧
      ∀ t ∈ told, sink = some t.sink ∧ t.speaker = some y.id := by
    split at hrest
    · exact hrest.told_own
    · obtain ⟨outcome, hstarts⟩ := hrest
      exact hstarts.told_own
  obtain ⟨told, htold, hown⟩ := hlater
  exact ⟨device, taken, told, hcanceled.trans htold, hown⟩

/-- A caller who enrolls starts an authentication. The driver fails to give the enrollment up, and
    its sink is unreachable. -/
theorem Reachable.preempts_of_failures :
    let rule : (call : Call) → Except Fault call.Reply
      | .driver _ .cancelEnroll => .error (.plain "gone")
      | .sink "a" _ => .error (.plain "unreachable")
      | call => Ledger.obliging call
    let history := (Ledger.record {} rule).history
    let s := Ledger.perform {} rule [.startEnrollment 1 (some "a") {}]
    let x : Session := ⟨0, .enroll, 1, some "a", 0, ⟨some 1, 1⟩⟩
    let y : Session := ⟨1, .authenticate, 1, some "b", 0, ⟨some 2, 1⟩⟩
    s.slots.get .enroll = some x ∧
      ∃ s' v₁ outcome,
        ((Ledger.host {} rule).perform (.startAuthentication 1 (some "b") {})).run s = (.ok (), s') ∧
          (s.view history).GivesWay 0 x v₁ ∧ v₁.Starts false 0 (.authenticate 0 0) y outcome (s'.view history) := by
  intro rule history s x y
  have hslot : s.slots.get .enroll = some x := rfl
  have hstart : (Start.authenticate {}).kind ≠ .remove := by decide
  have hcaller : (1 : CallerToken) ≠ 0 := by decide
  have hunlocked : ¬(SessionKind.authenticate = .authenticate ∧ s.lockout.isLocked {}) := by decide
  obtain ⟨s', v₁, hrun, hway, hrest, -⟩ :=
    (Ledger.reachable_perform {} rule [.startEnrollment 1 (some "a") {}]).preempts hslot nofun hstart hcaller
      (some "b") rfl
  obtain ⟨outcome, hstarts⟩ := (if_neg hunlocked).mp hrest
  exact ⟨hslot, s', v₁, outcome, hrun, hway, hstarts⟩

end Record

end Fingerprint
