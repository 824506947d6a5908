import Fingerprint.Dispatcher
import Fingerprint.Proofs.Ending

/-!
# What events of the driver do

An event of the driver is for the first session there is among those of certain
kinds, and is handed to its sink. The session is told of progress and goes on,
or is told the last, or cannot be told, and parts from its slot. On the way
templates are kept, feedback is given and attempts are counted.

* `DriverEvent.kinds`, `DriverEvent.callback?`: for whom an event is, and what
  its sink is called with;
* `View.Reached`: what becomes of that session;
* `Record.yields_finish`: the end of a session for which the driver gives up;
* `Record.yields_route`: what becomes of an event;
* `Record.yields_dispatch`: this as a sequence of episodes.
-/

namespace Fingerprint

namespace DriverEvent

/-- The kinds of sessions that an event may be for, first the one that comes first. -/
def kinds : DriverEvent → List SessionKind
  | enrollResult .. => [.enroll]
  | acquired .. => [.enroll, .authenticate]
  | authenticated .. => [.authenticate]
  | error .. => [.enroll, .authenticate, .remove]
  | removed .. => [.remove]
  | enumerate .. => []

/-- What a sink is called with to hand on an event that is for a session. -/
def callback? : DriverEvent → Option Callback
  | enrollResult device id subject remaining => some (.enrollResult device id subject remaining)
  | acquired device info => some (.acquired device info)
  | authenticated device id subject => some (.authenticated device id subject)
  | error device code => some (.error device code)
  | removed device id subject => some (.removed device id subject)
  | enumerate .. => none

/-- Whether a session to which an event is handed may leave its slot without the driver being asked to
    give up its operation. -/
def MayDrop : DriverEvent → Prop
  | enrollResult _ _ _ remaining => remaining = 0
  | acquired .. => True
  | _ => False

end DriverEvent

/-- The first active session there is among those of certain kinds. -/
def Slots.first (slots : Slots) (kinds : List SessionKind) : Option Session := kinds.findSome? slots.get

theorem Slots.first_singleton (slots : Slots) (kind : SessionKind) : slots.first [kind] = slots.get kind := by
  rw [first, List.findSome?_singleton]

theorem Slots.get_of_first {slots : Slots} {kinds : List SessionKind} {x : Session} (h : slots.first kinds = some x) :
    ∃ kind ∈ kinds, slots.get kind = some x :=
  List.exists_of_findSome?_eq_some h

namespace View

variable {κ : Type} {v v' v'' : View κ}

theorem Kept.eased (h : v.Kept v') : v.Eased v' := by
  obtain ⟨⟨connection, entries, hentries, rfl, hkept⟩, hsame⟩ := h
  exact ⟨⟨connection, entries, hentries, rfl, hkept⟩, hsame⟩

theorem Kept.lockout (h : v.Kept v') (lockout : Lockout) :
    { v with lockout }.Kept { v' with lockout } := by
  obtain ⟨⟨connection, entries, hentries, rfl, hkept⟩, hsame⟩ := h
  exact ⟨⟨connection, entries, hentries, rfl, hkept⟩, hsame⟩

/-- A session that goes on was told so. -/
theorem Delivered.progress {x : Session} {callback : Callback} {delivered : Bool}
    (h : v.Delivered x callback delivered v') (hgoing : ¬(delivered → callback.isTerminal)) :
    callback.isTerminal = false ∧ v.Delivered x callback true v' := by
  cases delivered with
  | false => simp at hgoing
  | true => exact ⟨by simpa using hgoing, h⟩

/-- The lockout is left alone by all that goes on at a session's end. -/
theorem Noted.lockout_eq (h : v.Noted v') : v'.lockout = v.lockout := by
  obtain ⟨connection, entries, -, rfl, -⟩ := h
  rfl

theorem Delivered.lockout_eq {x : Session} {callback : Callback} {delivered : Bool}
    (h : v.Delivered x callback delivered v') : v'.lockout = v.lockout := by
  cases h with
  | nowhere => rfl
  | called _ kept => exact kept.1.lockout_eq

theorem Stopped.lockout_eq {kind : SessionKind} (h : v.Stopped kind v') : v'.lockout = v.lockout := by
  obtain ⟨v₁, hkept, hhalted | ⟨-, hkept'⟩⟩ := h
  · rw [← hkept.1.lockout_eq]
    cases hhalted with
    | asked _ asked =>
      obtain ⟨handle, -, hlogged⟩ := asked
      exact hlogged.noted.lockout_eq
    | remove => rfl
  · rw [hkept'.1.lockout_eq, hkept.1.lockout_eq]

/-- What becomes of a session that an event is handed to. Before and after that there are no more
    than notes, but that a failure may enter the lockout. -/
inductive Reached (v : View κ) (x : Session) : Callback → Bool → View κ → Prop
  /-- It is told of progress, and goes on. -/
  | progressed {callback : Callback} {v₁ v₂ v' : View κ} (before : v.Logged v₁)
      (told : v₁.Delivered x callback true v₂) (running : callback.isTerminal = false) (after : v₂.Logged v') :
      Reached v x callback true v'
  /-- It has been told the last, or could not be told, and the driver gives up. -/
  | asked {callback : Callback} {delivered : Bool} {v₁ v₂ v₃ v' : View κ} (before : v.Logged v₁)
      (told : v₁.Delivered x callback delivered v₂) (last : delivered → callback.isTerminal) (eased : v₂.Eased v₃)
      (stopped : v₃.Stopped x.kind v') : Reached v x callback delivered (v'.leave x)
  /-- It has been told the last, or could not be told, and the driver is not asked. -/
  | unasked {callback : Callback} {delivered : Bool} {v₁ v₂ v' : View κ} (before : v.Logged v₁)
      (told : v₁.Delivered x callback delivered v₂) (last : delivered → callback.isTerminal) (kept : v₂.Kept v')
      (ends : EndsUnasked x.kind callback delivered) : Reached v x callback delivered (v'.leave x)
  /-- It has been told of a failure with which the lockout is entered, and of that. -/
  | lockedOut {device : UInt64} {subject : Int32} {delivered again : Bool} {v₁ v₂ v₃ v₄ v₅ v' : View κ}
      {lockout : Lockout} {settings : Lockout.Settings} (hkind : x.kind = .authenticate) (before : v.Logged v₁)
      (told : v₁.Delivered x (.authenticated device 0 subject) delivered v₂) (kept : v₂.Kept v₃)
      (warned : (v₃.lockOut lockout settings).Delivered x (.error device SensorError.lockout.code) again v₄)
      (kept' : v₄.Kept v₅) (stopped : v₅.Stopped x.kind v') :
      Reached v x (.authenticated device 0 subject) delivered (v'.leave x)

namespace Reached

variable {x : Session} {callback : Callback} {delivered : Bool}

/-- What was noted before makes no difference. -/
theorem head (h : v.Logged v') (hreached : v'.Reached x callback delivered v'') :
    v.Reached x callback delivered v'' := by
  cases hreached with
  | progressed before told running after => exact .progressed (h.trans before) told running after
  | asked before told last eased stopped => exact .asked (h.trans before) told last eased stopped
  | unasked before told last kept ends => exact .unasked (h.trans before) told last kept ends
  | lockedOut hkind before told kept warned kept' stopped =>
    exact .lockedOut hkind (h.trans before) told kept warned kept' stopped

/-- A session is told of progress, or comes to its end. -/
theorem episodes {P : Session → Prop} {dropped : Prop} (hx : P x) {kind : SessionKind}
    (hslot : v.slots.get kind = some x) (h : v.Reached x callback delivered v')
    (hends : x.kind ≠ .remove → EndsUnasked x.kind callback delivered → dropped) :
    EpisodesOf P dropped v v' := by
  have hbefore {v₁ : View κ} (before : v.Logged v₁) :
      EpisodesOf P dropped v v₁ ∧ v₁.slots.get kind = some x :=
    ⟨.single (.noted before.noted), by rw [before.noted.slots_eq, hslot]⟩
  cases h with
  | progressed before told running after =>
    obtain ⟨hepisodes, hslot₁⟩ := hbefore before
    exact (hepisodes.tail (.progressed hx hslot₁ running told)).tail (.noted after.noted)
  | asked before told last eased stopped =>
    obtain ⟨hepisodes, hslot₁⟩ := hbefore before
    refine hepisodes.tail (.parted hx hslot₁ (.asked told last eased stopped) fun _ _ hv hsensor => ?_)
    exact stopped.not_outstanding hsensor (eased.connected (told.connected hv))
  | unasked before told last kept ends =>
    obtain ⟨hepisodes, hslot₁⟩ := hbefore before
    refine hepisodes.tail (.parted hx hslot₁ (.unasked told last kept ends) fun hkept _ _ hsensor => ?_)
    exact absurd (hends hsensor ends) hkept
  | lockedOut hkind before told kept warned kept' stopped =>
    obtain ⟨hepisodes, hslot₁⟩ := hbefore before
    refine hepisodes.tail
      (.parted hx hslot₁ (.lockedOut hkind told kept warned kept' stopped) fun _ _ hv hsensor => ?_)
    have hconnected := warned.connected (kept.connected (told.connected hv))
    exact stopped.not_outstanding hsensor (kept'.connected hconnected)

end Reached

/-- What becomes of an event: it reaches the session that it is for, or else is no more than noted. -/
def Routed (v : View κ) (event : DriverEvent) (v' : View κ) : Prop :=
  match v.slots.first event.kinds with
  | none => v.Logged v'
  | some x => ∃ callback delivered, event.callback? = some callback ∧ v.Reached x callback delivered v'

theorem Routed.of_none {event : DriverEvent} (hnone : v.slots.first event.kinds = none) (h : v.Logged v') :
    v.Routed event v' := by
  rwa [Routed, hnone]

theorem Routed.of_some {event : DriverEvent} {x : Session} {callback : Callback} {delivered : Bool}
    (hfirst : v.slots.first event.kinds = some x) (hcallback : event.callback? = some callback)
    (h : v.Reached x callback delivered v') : v.Routed event v' := by
  rw [Routed, hfirst]
  exact ⟨callback, delivered, hcallback, h⟩

/-- What was noted before makes no difference. -/
theorem Routed.head {event : DriverEvent} (h : v.Logged v') (hrouted : v'.Routed event v'') :
    v.Routed event v'' := by
  rw [Routed, h.noted.slots_eq] at hrouted
  rw [Routed]
  cases hfirst : v.slots.first event.kinds with
  | none => exact h.trans (by simpa [hfirst] using hrouted)
  | some x =>
    rw [hfirst] at hrouted
    obtain ⟨callback, delivered, hcallback, hreached⟩ := hrouted
    exact ⟨callback, delivered, hcallback, hreached.head h⟩

/-- An event concerns active sessions of its kinds only. -/
theorem Routed.episodes {event : DriverEvent} (h : v.Routed event v') (hv : v.Sound) :
    EpisodesOf (fun x => x.kind ∈ event.kinds ∧ v.slots.get x.kind = some x) event.MayDrop v v' := by
  rw [Routed] at h
  cases hfirst : v.slots.first event.kinds with
  | none =>
    rw [hfirst] at h
    exact .single (.noted h.noted)
  | some x =>
    rw [hfirst] at h
    obtain ⟨callback, delivered, hcallback, hreached⟩ := h
    obtain ⟨kind, hkind, hslot⟩ := Slots.get_of_first hfirst
    obtain rfl := hv.sorted kind x hslot
    refine hreached.episodes ⟨hkind, hslot⟩ hslot fun hsensor hends => ?_
    -- A session that ends without the driver being asked was told its result, or of an acquisition.
    cases event with
    | enumerate => cases hcallback
    | enrollResult =>
      obtain rfl := Option.some.inj hcallback
      exact hends.2
    | acquired => trivial
    | authenticated | error | removed =>
      obtain rfl := Option.some.inj hcallback
      exact absurd hends hsensor

end View

theorem Host.run_active {ω κ : Type} (kind : SessionKind) (s : System ω κ) :
    (active kind : Op ω κ (Option Session)).run s = (.ok (s.slots.get kind), s) :=
  rfl

/-- To note where an event comes from changes no more than what the host keeps for itself. -/
theorem Host.run_checkDevice {ω κ : Type} (host : Host ω κ) (event : DriverEvent) (s : System ω κ) :
    ∃ world, (host.checkDevice event).run s = (.ok (), { s with world }) := by
  rw [checkDevice, Op.run_get_bind]
  dsimp only
  split
  · exact ⟨host.observe _ s, rfl⟩
  · exact ⟨s.world, rfl⟩

namespace Record

variable {ω κ : Type} {host : Host ω κ} (record : Record host) (v : View κ)

/-! ## Helpers that may fail -/

theorem yields_checkDevice (event : DriverEvent) :
    record.Yields v (host.checkDevice event) fun _ v' => v.Logged v' := by
  refine yields_get fun s _ => ?_
  dsimp only
  split
  · exact record.yields_publish_note v _ rfl
  · exact yields_pure (.refl v)

theorem yields_bestEffort {request : Op ω κ Unit} (hrequest : record.Along View.Logged v request)
    {id : Bytes} (hid : (Host.dispatchWarning id [] []).isAside) (fields : List Field) :
    record.Yields v (host.bestEffort request id fields) fun _ v' => v.Logged v' := by
  refine hrequest.attempt.andThen fun outcome v₁ h₁ => ?_
  cases outcome with
  | ok => exact yields_pure h₁
  | error fault =>
    refine (record.yields_publish_note v₁ (Host.dispatchWarning id fault.message fields) hid).mono
      fun _ v₂ h₂ => ?_
    exact h₁.trans h₂

theorem yields_addTemplate (subject : Int32) (id : UInt32) :
    record.Yields v (host.addTemplate subject id) fun _ v' => v.Logged v' := by
  unfold Host.addTemplate
  split
  · exact record.yields_bestEffort v (record.along_answer v (.storeAdd subject id) rfl) rfl _
  · exact yields_pure (.refl v)

theorem yields_removeTemplate (subject : Int32) (id : UInt32) :
    record.Yields v (host.removeTemplate subject id) fun _ v' => v.Logged v' := by
  unfold Host.removeTemplate
  split
  · exact record.yields_bestEffort v (record.along_answer v (.storeRemove subject id) rfl) rfl _
  · exact yields_pure (.refl v)

theorem yields_feedbackSuccess : record.Yields v host.feedbackSuccess fun _ v' => v.Logged v' := by
  unfold Host.feedbackSuccess
  split
  · exact record.yields_bestEffort v (record.along_answer v .feedbackSuccess rfl) rfl _
  · exact yields_pure (.refl v)

theorem yields_feedbackError : record.Yields v host.feedbackError fun _ v' => v.Logged v' := by
  unfold Host.feedbackError
  split
  · exact record.yields_bestEffort v (record.along_answer v .feedbackError rfl) rfl _
  · exact yields_pure (.refl v)

/-! ## Lockout -/

/-- A failure is counted. One that enters the lockout is told, and no other. -/
theorem yields_recordFailure :
    record.Yields v host.recordFailure fun result v' =>
      ∃ lockout, lockout.failed = v.lockout.failed + 1 ∧
        v' = if result = .entered then v.lockOut lockout host.setup.lockout else { v with lockout } := by
  refine yields_get fun s hs => ?_
  have hset (lockout queue) : record.Yields v (set { s with lockout, queue }) fun _ v' =>
      v' = { v with lockout } := by
    subst hs
    rintro s' -
    exact ⟨_, rfl, rfl⟩
  have hfailed := Lockout.failed_recordFailure s.lockout host.setup.lockout s.clock (.lockoutExpired : Task κ) s.queue
  revert hfailed
  obtain ⟨result, lockout, queue⟩ :=
    s.lockout.recordFailure host.setup.lockout s.clock (.lockoutExpired : Task κ) s.queue
  intro hfailed
  have hcount : lockout.failed = v.lockout.failed + 1 := by
    rw [hfailed, ← hs]
    rfl
  refine (hset lockout queue).andThen fun _ v₁ h₁ => ?_
  cases result with
  | stillOpen => exact yields_pure ⟨lockout, hcount, h₁⟩
  | entered =>
    refine (record.yields_publish v₁ _).andThen fun _ v₂ h₂ => ?_
    subst h₁
    exact yields_pure ⟨lockout, hcount, h₂⟩

theorem yields_recordSuccess :
    record.Yields v (Host.recordSuccess : Op ω κ Unit) fun _ v' =>
      v' = { v with lockout := v.lockout.recordSuccess } := by
  rintro s rfl
  exact ⟨(), rfl, rfl⟩

theorem yields_lockoutExpired {P : Session → Prop} :
    record.Yields v host.lockoutExpired fun _ v' => EpisodesOf P False v v' := by
  have hmodify : record.Yields v
      (modify fun s => { s with lockout := Lockout.expire } : Op ω κ Unit) fun _ v' =>
      v' = { v with lockout := Lockout.expire } := by
    rintro s rfl
    exact ⟨(), rfl, rfl⟩
  refine hmodify.andThen fun _ v₁ h₁ => ?_
  refine (record.yields_publish_note v₁ _ rfl).mono fun _ v₂ h₂ => ?_
  subst h₁
  exact .tail (.single (.lockout _)) (.noted h₂.noted)

/-! ## Routing -/

/-- A session for which the driver gives up leaves its slot. -/
theorem yields_finish {kind : SessionKind} {x : Session} (hslot : v.slots.get kind = some x)
    (hkind : x.kind = kind) :
    record.Yields v (host.finish x) fun _ v' => ∃ v₁, v.Stopped x.kind v₁ ∧ v' = v₁.leave x := by
  subst hkind
  refine (record.yields_stopSession_silent v hslot rfl).andThen fun stopped v₁ h₁ => ?_
  obtain ⟨v₂, hstopped, rfl⟩ := h₁
  cases stopped with
  | true => exact yields_pure ⟨v₂, hstopped, rfl⟩
  | false =>
    have hslot₂ : v₂.slots.get x.kind = some x := by rw [hstopped.framed.slots, hslot]
    refine (record.yields_removeSession v₂ hslot₂ rfl).mono fun _ v₃ h₃ => ?_
    exact ⟨v₂, hstopped, h₃⟩

/-- What becomes of an enrollment that has made progress. -/
theorem yields_dispatchEnrollResult (hv : v.Sound) (device : UInt64) (id : UInt32)
    (subject remaining : Int32) :
    record.Yields v (host.dispatchEnrollResult device id subject remaining) fun _ v' =>
      v.Routed (.enrollResult device id subject remaining) v' := by
  refine (record.yields_active v .enroll).andThen fun found v₀ h₀ => ?_
  obtain ⟨rfl, rfl⟩ := h₀
  cases hslot : v₀.slots.get .enroll with
  | none => exact yields_pure (.of_none (by simpa [Slots.first, DriverEvent.kinds] using hslot) (.refl v₀))
  | some x =>
    have hkind := hv.sorted .enroll x hslot
    have hfirst : v₀.slots.first [.enroll] = some x := (v₀.slots.first_singleton _).trans hslot
    -- From here on it makes no difference whether success was confirmed.
    have hrest (v₁) (h₁ : v₀.Logged v₁) : record.Yields v₁ (do
        let outcome ← host.send x (.enrollResult device id subject remaining)
        if remaining = 0 then host.addTemplate x.subject id
        if outcome = .done then
          if remaining = 0 then host.removeSession .enroll x.id else host.finish x) fun _ v' =>
            v₀.Routed (.enrollResult device id subject remaining) v' := by
      have hslot₁ : v₁.slots.get .enroll = some x := by rw [h₁.noted.slots_eq, hslot]
      refine (record.yields_send v₁ x _).andThen fun outcome v₂ h₂ => ?_
      obtain ⟨delivered, htold, hdone⟩ := h₂
      -- Nor does it make any whether a template was added.
      have hlast (v₃) (h₃ : v₂.Logged v₃) : record.Yields v₃ (do
          if outcome = .done then
            if remaining = 0 then host.removeSession .enroll x.id else host.finish x) fun _ v' =>
              v₀.Routed (.enrollResult device id subject remaining) v' := by
        have hslot₃ : v₃.slots.get .enroll = some x := by
          rw [h₃.noted.slots_eq, htold.framed.slots, hslot₁]
        split
        case isTrue hterminal =>
          split
          case isTrue hremaining =>
            -- The enrollment is complete, and the driver has nothing to give up.
            refine (record.yields_removeSession v₃ hslot₃ hkind).mono fun _ v₄ h₄ => ?_
            rw [h₄]
            exact .of_some hfirst rfl (.unasked h₁ htold (hdone.1 hterminal) h₃.kept ⟨hkind, hremaining⟩)
          case isFalse =>
            -- Progress that was not taken: the driver is asked to give up.
            refine (record.yields_finish v₃ hslot₃ hkind).mono fun _ v₄ h₄ => ?_
            obtain ⟨v₅, hstopped, rfl⟩ := h₄
            exact .of_some hfirst rfl (.asked h₁ htold (hdone.1 hterminal) h₃.kept.eased hstopped)
        case isFalse hgoing =>
          have hprogress := htold.progress fun h => hgoing (hdone.2 h)
          exact yields_pure (.of_some hfirst rfl (.progressed h₁ hprogress.2 hprogress.1 h₃))
      refine yields_ite (fun _ => ?_) fun _ => hlast v₂ (.refl v₂)
      exact (record.yields_addTemplate v₂ _ _).andThen fun _ v₃ h₃ => hlast v₃ h₃
    dsimp only
    split
    · exact (record.yields_feedbackSuccess v₀).andThen fun _ v₁ h₁ => hrest v₁ h₁
    · exact hrest v₀ (.refl v₀)

theorem yields_deliverAcquired (hv : v.Sound) {kind : SessionKind} {x : Session}
    (hslot : v.slots.get kind = some x) (device : UInt64) (info : Int32) :
    record.Yields v (host.deliverAcquired x device info) fun _ v' =>
      ∃ delivered, v.Reached x (.acquired device info) delivered v' := by
  refine (record.yields_send v x _).andThen fun outcome v₁ h₁ => ?_
  obtain ⟨delivered, htold, hdone⟩ := h₁
  refine yields_ite (fun hterminal => ?_) fun hgoing => ?_
  · have hslot₁ : v₁.slots.get x.kind = some x := by
      rw [htold.framed.slots, hv.sorted kind x hslot, hslot]
    have hlast := hdone.1 hterminal
    refine (record.yields_removeSession v₁ hslot₁ rfl).mono fun _ v₂ h₂ => ?_
    -- An acquisition is never the last, so it was not taken.
    have hlost : delivered = false := by simpa [Callback.isTerminal] using hlast
    rw [h₂]
    exact ⟨delivered, .unasked (.refl v) htold hlast (.refl v₁) hlost⟩
  · have hprogress := htold.progress fun h => hgoing (hdone.2 h)
    exact yields_pure ⟨true, .progressed (.refl v) hprogress.2 hprogress.1 (.refl v₁)⟩

theorem yields_dispatchAcquired (hv : v.Sound) (device : UInt64) (info : Int32) :
    record.Yields v (host.dispatchAcquired device info) fun _ v' => v.Routed (.acquired device info) v' := by
  have hdeliver {kind : SessionKind} {x : Session} (hslot : v.slots.get kind = some x)
      (hfirst : v.slots.first [.enroll, .authenticate] = some x) :
      record.Yields v (host.deliverAcquired x device info) fun _ v' => v.Routed (.acquired device info) v' :=
    (record.yields_deliverAcquired v hv hslot device info).mono fun _ _ ⟨_, h⟩ => .of_some hfirst rfl h
  refine (record.yields_active v .enroll).andThen fun found v₁ h₁ => ?_
  obtain ⟨rfl, rfl⟩ := h₁
  cases henroll : v₁.slots.get .enroll with
  | some x => exact hdeliver henroll (by simp [Slots.first, henroll])
  | none =>
    refine (record.yields_active v₁ .authenticate).andThen fun found v₂ h₂ => ?_
    obtain ⟨rfl, rfl⟩ := h₂
    cases hauthenticate : v₂.slots.get .authenticate with
    | some x => exact hdeliver hauthenticate (by simp [Slots.first, henroll, hauthenticate])
    | none =>
      have hnone : v₂.slots.first [.enroll, .authenticate] = none := by
        simp [Slots.first, henroll, hauthenticate]
      exact yields_pure (.of_none hnone (.refl v₂))

/-- What becomes of an authentication that has come to its result: a failure is counted, and with a
    match the failures are forgotten. -/
theorem yields_dispatchAuthenticated (hv : v.Sound) (device : UInt64) (id : UInt32)
    (subject : Int32) :
    record.Yields v (host.dispatchAuthenticated device id subject) fun _ v' =>
      v.Routed (.authenticated device id subject) v' ∧
        ((v.slots.get .authenticate).isSome → v'.lockout.failed = if id = 0 then v.lockout.failed + 1 else 0) := by
  refine (record.yields_active v .authenticate).andThen fun found v₀ h₀ => ?_
  obtain ⟨rfl, rfl⟩ := h₀
  cases hslot : v₀.slots.get .authenticate with
  | none =>
    exact yields_pure ⟨.of_none (by simpa [Slots.first, DriverEvent.kinds] using hslot) (.refl v₀), nofun⟩
  | some x =>
    have hkind := hv.sorted .authenticate x hslot
    have hfirst : v₀.slots.first [.authenticate] = some x := (v₀.slots.first_singleton _).trans hslot
    refine (record.yields_send v₀ x _).andThen fun outcome v₁ h₁ => ?_
    obtain ⟨delivered, htold, -⟩ := h₁
    -- However the result was taken in between, the session ends with the driver giving up.
    have heased (v₂) (h₂ : v₁.Eased v₂) (hfailed : v₂.lockout.failed = if id = 0 then v₀.lockout.failed + 1 else 0) :
        record.Yields v₂ (host.finish x) fun _ v' =>
          v₀.Routed (.authenticated device id subject) v' ∧
            ((some x).isSome → v'.lockout.failed = if id = 0 then v₀.lockout.failed + 1 else 0) := by
      have hslot₂ : v₂.slots.get .authenticate = some x := by
        rw [h₂.framed.slots, htold.framed.slots, hslot]
      refine (record.yields_finish v₂ hslot₂ hkind).mono fun _ v₃ h₃ => ?_
      obtain ⟨v₄, hstopped, rfl⟩ := h₃
      refine ⟨.of_some hfirst rfl (.asked (.refl v₀) htold (fun _ => rfl) h₂ hstopped), fun _ => ?_⟩
      rw [← hfailed, ← hstopped.lockout_eq]
      rfl
    refine yields_ite (fun hmatch => ?_) fun hmatch => ?_
    · subst hmatch
      refine (record.yields_feedbackError v₁).andThen fun _ v₂ h₂ => ?_
      refine (record.yields_recordFailure v₂).andThen fun result v₃ h₃ => ?_
      obtain ⟨lockout, hfailed, h₃⟩ := h₃
      rw [h₂.noted.lockout_eq, htold.lockout_eq] at hfailed
      cases result with
      | stillOpen =>
        obtain rfl : v₃ = { v₂ with lockout } := h₃
        exact heased _ (h₂.kept.lockout lockout) hfailed
      | entered =>
        obtain rfl : v₃ = v₂.lockOut lockout host.setup.lockout := h₃
        -- Whether there is a sink to be told of the lockout or not, the session ends after that.
        have hwarned {again v₄ v₅} (h₄ : (v₂.lockOut lockout host.setup.lockout).Delivered x
            (.error device SensorError.lockout.code) again v₄) (h₅ : v₄.Kept v₅) :
            record.Yields v₅ (host.finish x) fun _ v' =>
              v₀.Routed (.authenticated device 0 subject) v' ∧
                ((some x).isSome → v'.lockout.failed = if (0 : UInt32) = 0 then v₀.lockout.failed + 1 else 0) := by
          have hslot₅ : v₅.slots.get .authenticate = some x := by
            rw [h₅.framed.slots, h₄.framed.slots, (View.lockOut_framed v₂ _ _).slots,
              h₂.noted.slots_eq, htold.framed.slots, hslot]
          refine (record.yields_finish v₅ hslot₅ hkind).mono fun _ v₆ h₆ => ?_
          obtain ⟨v₇, hstopped, rfl⟩ := h₆
          refine ⟨.of_some hfirst rfl (.lockedOut hkind (.refl v₀) htold h₂.kept h₄ h₅ hstopped), fun _ => ?_⟩
          change v₇.lockout.failed = _
          rw [hstopped.lockout_eq, h₅.1.lockout_eq, h₄.lockout_eq]
          exact hfailed
        refine yields_ite (fun _ => ?_) fun hnot => absurd rfl hnot
        refine yields_ite (fun hsink => ?_) fun _ => ?_
        · refine (record.yields_publish_note _ _ rfl).andThen fun _ v₄ h₄ => ?_
          exact hwarned (.nowhere (Option.isNone_iff_eq_none.1 hsink)) h₄.kept
        · refine (record.yields_send _ x _).andThen fun _ v₄ h₄ => ?_
          obtain ⟨again, hagain, -⟩ := h₄
          exact hwarned hagain (.refl v₄)
    · refine (record.yields_feedbackSuccess v₁).andThen fun _ v₂ h₂ => ?_
      refine (record.yields_recordSuccess v₂).andThen fun _ v₃ h₃ => ?_
      subst h₃
      exact heased _ (h₂.kept.lockout _) (if_neg hmatch).symm

/-- A session that the driver has given up on is told so, and ends. -/
theorem yields_fail (hv : v.Sound) {kind : SessionKind} {x : Session}
    (hslot : v.slots.get kind = some x) (device : UInt64) (code : Int32) :
    record.Yields v (do
      let _ ← host.send x (.error device code)
      host.finish x) fun _ v' => ∃ delivered, v.Reached x (.error device code) delivered v' := by
  have hkind := hv.sorted kind x hslot
  refine (record.yields_send v x _).andThen fun _ v₁ h₁ => ?_
  obtain ⟨delivered, htold, -⟩ := h₁
  have hslot₁ : v₁.slots.get kind = some x := by rw [htold.framed.slots, hslot]
  refine (record.yields_finish v₁ hslot₁ hkind).mono fun _ v₂ h₂ => ?_
  obtain ⟨v₃, hstopped, rfl⟩ := h₂
  exact ⟨delivered, .asked (.refl v) htold (fun _ => rfl) (View.Kept.refl v₁).eased hstopped⟩

theorem yields_dispatchError (hv : v.Sound) (device : UInt64) (code : Int32) :
    record.Yields v (host.dispatchError device code) fun _ v' => v.Routed (.error device code) v' := by
  have hfail {kind : SessionKind} {x : Session} (hslot : v.slots.get kind = some x)
      (hfirst : v.slots.first [.enroll, .authenticate, .remove] = some x) :
      record.Yields v (do
        let _ ← host.send x (.error device code)
        host.finish x) fun _ v' => v.Routed (.error device code) v' :=
    (record.yields_fail v hv hslot device code).mono fun _ _ ⟨_, h⟩ => .of_some hfirst rfl h
  refine (record.yields_active v .enroll).andThen fun found v₁ h₁ => ?_
  obtain ⟨rfl, rfl⟩ := h₁
  cases henroll : v₁.slots.get .enroll with
  | some x => exact hfail henroll (by simp [Slots.first, henroll])
  | none =>
    refine (record.yields_active v₁ .authenticate).andThen fun found v₂ h₂ => ?_
    obtain ⟨rfl, rfl⟩ := h₂
    cases hauthenticate : v₂.slots.get .authenticate with
    | some x => exact hfail hauthenticate (by simp [Slots.first, henroll, hauthenticate])
    | none =>
      refine (record.yields_active v₂ .remove).andThen fun found v₃ h₃ => ?_
      obtain ⟨rfl, rfl⟩ := h₃
      have hfirst : v₃.slots.first [.enroll, .authenticate, .remove] = v₃.slots.get .remove := by
        cases hremove : v₃.slots.get .remove <;> simp [Slots.first, henroll, hauthenticate, hremove]
      cases hremove : v₃.slots.get .remove with
      | none => exact yields_pure (.of_none (hfirst.trans hremove) (.refl v₃))
      | some x =>
        have hkind := hv.sorted .remove x hremove
        refine (record.yields_send v₃ x _).andThen fun _ v₄ h₄ => ?_
        obtain ⟨delivered, htold, -⟩ := h₄
        have hslot₄ : v₄.slots.get .remove = some x := by rw [htold.framed.slots, hremove]
        refine (record.yields_removeSession v₄ hslot₄ hkind).mono fun _ v₅ h₅ => ?_
        rw [h₅]
        exact .of_some (hfirst.trans hremove) rfl (.unasked (.refl v₃) htold (fun _ => rfl) (.refl v₄) hkind)

theorem yields_dispatchRemoved (hv : v.Sound) (device : UInt64) (id : UInt32) (subject : Int32) :
    record.Yields v (host.dispatchRemoved device id subject) fun _ v' =>
      v.Routed (.removed device id subject) v' := by
  refine (record.yields_active v .remove).andThen fun found v₀ h₀ => ?_
  obtain ⟨rfl, rfl⟩ := h₀
  cases hslot : v₀.slots.get .remove with
  | none =>
    have hrest (v₁) (h₁ : v₀.Logged v₁) :
        record.Yields v₁ (pure ()) fun _ v' => v₀.Routed (.removed device id subject) v' :=
      yields_pure (.of_none (by simpa [Slots.first, DriverEvent.kinds] using hslot) h₁)
    refine yields_ite (fun _ => ?_) fun _ => hrest v₀ (.refl v₀)
    exact (record.yields_removeTemplate v₀ _ _).andThen fun _ => hrest
  | some x =>
    have hfirst : v₀.slots.first [.remove] = some x := (v₀.slots.first_singleton _).trans hslot
    -- Whether a template was removed or not, the session is told of it.
    have hrest (v₁) (h₁ : v₀.Logged v₁) : record.Yields v₁ (do
        if (← host.send x (.removed device id subject)) = .done then
          host.removeSession .remove x.id) fun _ v' => v₀.Routed (.removed device id subject) v' := by
      have hkind := hv.sorted .remove x hslot
      have hslot₁ : v₁.slots.get .remove = some x := by rw [h₁.noted.slots_eq, hslot]
      refine (record.yields_send v₁ x _).andThen fun outcome v₂ h₂ => ?_
      obtain ⟨delivered, htold, hdone⟩ := h₂
      refine yields_ite (fun hterminal => ?_) fun hgoing => ?_
      · have hslot₂ : v₂.slots.get .remove = some x := by rw [htold.framed.slots, hslot₁]
        refine (record.yields_removeSession v₂ hslot₂ hkind).mono fun _ v₃ h₃ => ?_
        rw [h₃]
        exact .of_some hfirst rfl (.unasked h₁ htold (hdone.1 hterminal) (.refl v₂) hkind)
      · have hprogress := htold.progress fun h => hgoing (hdone.2 h)
        exact yields_pure (.of_some hfirst rfl (.progressed h₁ hprogress.2 hprogress.1 (.refl v₂)))
    refine yields_ite (fun _ => ?_) fun _ => hrest v₀ (.refl v₀)
    exact (record.yields_removeTemplate v₀ _ _).andThen fun _ => hrest

/-- Every event reaches the session that it is for. -/
theorem yields_route (hv : v.Sound) (event : DriverEvent) :
    record.Yields v (host.dispatch event) fun _ v' => v.Routed event v' := by
  refine (record.yields_checkDevice v event).andThen fun _ v₁ h₁ => ?_
  have hv₁ := (Episode.noted h₁.noted).sound hv
  cases event with
  | enrollResult device id subject remaining =>
    exact (record.yields_dispatchEnrollResult v₁ hv₁ device id subject remaining).mono fun _ _ => .head h₁
  | acquired device info => exact (record.yields_dispatchAcquired v₁ hv₁ device info).mono fun _ _ => .head h₁
  | authenticated device id subject =>
    exact (record.yields_dispatchAuthenticated v₁ hv₁ device id subject).mono fun _ _ h => .head h₁ h.1
  | error device code => exact (record.yields_dispatchError v₁ hv₁ device code).mono fun _ _ => .head h₁
  | removed device id subject =>
    exact (record.yields_dispatchRemoved v₁ hv₁ device id subject).mono fun _ _ => .head h₁
  | enumerate device ids subjects =>
    have haside : (Host.enumerateEvent ids subjects).isAside := by
      unfold Host.enumerateEvent
      split <;> rfl
    exact (record.yields_publish_note v₁ _ haside).mono fun _ v₂ h₂ => .of_none rfl (h₁.trans h₂)

/-- Of an authentication that has come to its result a failure is counted, and with a match the
    failures are forgotten. -/
theorem yields_dispatch_authenticated (hv : v.Sound) (hslot : (v.slots.get .authenticate).isSome) (device : UInt64)
    (id : UInt32) (subject : Int32) :
    record.Yields v (host.dispatch (.authenticated device id subject)) fun _ v' =>
      v'.lockout.failed = if id = 0 then v.lockout.failed + 1 else 0 := by
  refine (record.yields_checkDevice v (.authenticated device id subject)).andThen fun _ v₁ h₁ => ?_
  have hv₁ := (Episode.noted h₁.noted).sound hv
  refine (record.yields_dispatchAuthenticated v₁ hv₁ device id subject).mono fun _ v₂ h₂ => ?_
  rw [← h₁.noted.lockout_eq]
  exact h₂.2 (by rwa [h₁.noted.slots_eq])

theorem yields_dispatch (hv : v.Sound) (event : DriverEvent) :
    record.Yields v (host.dispatch event) fun _ v' =>
      EpisodesOf (fun x => x.kind ∈ event.kinds ∧ v.slots.get x.kind = some x) event.MayDrop v v' :=
  (record.yields_route v hv event).mono fun _ _ h => h.episodes hv

end Record

end Fingerprint
