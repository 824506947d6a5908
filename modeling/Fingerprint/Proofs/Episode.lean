import Mathlib.Logic.Relation
import Fingerprint.Coordinator
import Fingerprint.Proofs.View

/-!
# Episodes

What can become of a view, said once. An `Episode` is one thing that the
coordinator does: a session gets its slot and its operation is begun; its sink
is told of progress; it parts from its slot, for one of the reasons that
`Parting` lists, with all that happens on the way; and the little that
concerns no session. Whatever the coordinator does is a sequence of episodes.

* `View.Delivered`, `View.Asked`: one call of a sink, or of the driver;
* `View.Parting`: the ways in which a session comes to its end;
* `Episode`, `Episodes`;
* `View.Framed`: what all of this leaves alone.
-/

namespace Fingerprint

/-- Whether a callback is the last of its session. -/
def Callback.isTerminal : Callback → Bool
  | enrollResult _ _ _ remaining => remaining = 0
  | acquired .. => false
  | authenticated .. => true
  | error .. => true
  | removed _ id _ => id = 0

theorem Callback.outcome_eq_done_iff (callback : Callback) :
    callback.outcome = .done ↔ callback.isTerminal := by
  cases callback <;> simp [Callback.outcome, Callback.isTerminal]

namespace DriverCall

/-- The kind of session whose operation the driver is asked to begin. -/
def begins : DriverCall → Option SessionKind
  | enroll .. => some .enroll
  | authenticate .. => some .authenticate
  | remove .. => some .remove
  | _ => none

/-- The kind of session whose operation the driver is asked to give up. -/
def cancels : DriverCall → Option SessionKind
  | cancelEnroll => some .enroll
  | cancelAuthenticate => some .authenticate
  | _ => none

/-- Whether an answer is zero, with which the driver accepts. -/
def isZero : Except Fault Int → Bool
  | .ok code => code == 0
  | .error _ => false

/-- Whether the driver begins an operation that it is asked for, by its answer. -/
def accepts : (call : DriverCall) → Except Fault call.Reply → Bool
  | enroll .., outcome | authenticate .., outcome | remove .., outcome => isZero outcome
  | _, _ => false

theorem isZero_iff (outcome : Except Fault Int) : isZero outcome ↔ outcome = .ok 0 := by
  cases outcome <;> simp [isZero]

end DriverCall

namespace Session

/-- What is told when a session gets its slot. -/
def startedEvent (x : Session) (message : Bytes) : Event :=
  Host.sessionEvent .info "session_started" message x.kind x.caller (some x.subject)

/-- What is told when a session leaves its slot. -/
def removedEvent (x : Session) : Event :=
  Host.sessionEvent .debug "session_removed" "Session torn down" x.kind x.caller none

/-- What is told when a session ends since its caller has died. -/
def peerGoneEvent (x : Session) : Event :=
  Host.sessionEvent .info "session_peer_gone" "Caller died; session torn down" x.kind x.caller none

end Session

namespace Entry

/-- Whether the driver was asked to begin an operation, and has not. -/
def isRefusal : Entry → Bool
  | called (.driver _ call) outcome _ _ => call.begins.isSome && !call.accepts outcome
  | _ => false

/-- Whether an entry tells of a session that gets its slot, or leaves it. -/
def isTurn : Entry → Bool
  | published event _ =>
    event.id == ("session_started" : Bytes) || event.id == ("session_removed" : Bytes)
  | _ => false

theorem isTurn_eq_false {entry : Entry} (h : entry.isNote) : entry.isTurn = false := by
  cases entry with
  | published event slots =>
    simp only [isNote, Event.isAside, Event.landmarks, List.contains_cons, Bool.not_eq_eq_eq_not,
      Bool.not_true, Bool.or_eq_false_iff] at h
    simp only [isTurn, h, Bool.or_self]
  | called => rfl
  | emitted => rfl

end Entry

namespace View

variable {κ : Type}

/-- A session gets the slot of its kind, registered for the death of its caller. -/
def enter (v : View κ) (x : Session) (message : Bytes) : View κ :=
  { v with
    slots := v.slots.set x.kind (some x)
    liveness :=
      { entries := v.liveness.entries ++
          [⟨v.liveness.nextId, x.caller, some (.endSession x.kind x.id)⟩]
        nextId := v.liveness.nextId + 1 }
    nextSession := v.nextSession + 1
    history := v.history ++ [.published (x.startedEvent message) (v.slots.set x.kind (some x))] }

/-- A session leaves its slot, and its registration is released. -/
def leave (v : View κ) (x : Session) : View κ :=
  { v with
    slots := v.slots.set x.kind none
    liveness := Host.releaseSession (some x) v.liveness
    history := v.history ++ [.published x.removedEvent (v.slots.set x.kind none)] }

/-- The sink of a session was called, and has taken the callback or failed. Without a sink
    nobody takes it. -/
inductive Delivered (v : View κ) (x : Session) (callback : Callback) : Bool → View κ → Prop
  | nowhere (hsink : x.sink = none) : Delivered v x callback false v
  | called {sink : SinkName} {outcome : Except Fault (Call.sink sink callback).Reply} {v' : View κ}
      (hsink : x.sink = some sink)
      (kept : (v.log [.called (.sink sink callback) outcome v.slots (some x.id)]).Kept v') :
      Delivered v x callback outcome.isOk v'

/-- The driver was asked for an operation of the sensor, or to give one up. -/
def Asked (v : View κ) (call : DriverCall) (outcome : Except Fault call.Reply) (v' : View κ) :
    Prop :=
  ∃ handle, v.connection.handle = some handle ∧
    (v.log [.called (.driver handle call) outcome v.slots v.speaker]).Logged v'

/-- The driver was asked to give up the operation of a kind. Removals it does not give up. -/
inductive Halted (v : View κ) (kind : SessionKind) : View κ → Prop
  | asked {call : DriverCall} {outcome : Except Fault call.Reply} {v' : View κ}
      (hcall : call.cancels = some kind) (asked : v.Asked call outcome v') : Halted v kind v'
  | remove (hkind : kind = .remove) : Halted v kind v

/-- The driver was asked to give up the operation of a kind, if a driver is to be had. -/
def Stopped (v : View κ) (kind : SessionKind) (v' : View κ) : Prop :=
  ∃ v₁, v.Kept v₁ ∧ (v₁.Halted kind v' ∨ v₁.connected = false ∧ v₁.Kept v')

/-- At most the lockout has changed besides. -/
def Eased (v v' : View κ) : Prop := { v with lockout := v'.lockout }.Kept v'

/-- The lockout is entered. -/
def lockOut (v : View κ) (lockout : Lockout) (settings : Lockout.Settings) : View κ :=
  { v with lockout }.log [.published (lockout.enteredEvent settings) v.slots]

/-- Whether a session ends without the driver giving up: there is nothing to give up, or
    an enrollment is complete, or the callback of an acquisition was not delivered. -/
def EndsUnasked (kind : SessionKind) : Callback → Bool → Prop
  | .enrollResult _ _ _ remaining, _ => kind = .enroll ∧ remaining = 0
  | .acquired .., delivered => delivered = false
  | _, _ => kind = .remove

/-- What happens to a session, in the view `v`, up to the moment when it leaves its slot. -/
inductive Parting (v : View κ) (x : Session) : View κ → Prop
  /-- It is cancelled, by its caller or in favour of another. -/
  | canceled {v₁ v₂ v' : View κ} {device : UInt64} {delivered : Bool} (kept : v.Kept v₁)
      (halted : v₁.Halted x.kind v₂)
      (told : v₂.Delivered x (.error device SensorError.canceled.code) delivered v') :
      Parting v x v'
  /-- The driver has not begun its operation. -/
  | rejected {v₁ v' : View κ} {device : UInt64} {delivered : Bool}
      (refusal : ∃ entry ∈ v.history, entry.isRefusal) (kept : v.Kept v₁)
      (told : v₁.Delivered x (.error device SensorError.hwUnavailable.code) delivered v') :
      Parting v x v'
  /-- Its caller has died. -/
  | died {registrations : Nat} {slots : Slots}
      (mourned : .published (Host.callerDiedEvent x.caller registrations) slots ∈ v.history)
      (hslots : slots.get x.kind = some x) :
      Parting v x (v.log [.published x.peerGoneEvent v.slots])
  /-- It has been told the last, or could not be told, and the driver gives up. -/
  | asked {callback : Callback} {delivered : Bool} {v₁ v₂ v' : View κ}
      (told : v.Delivered x callback delivered v₁) (last : delivered → callback.isTerminal)
      (eased : v₁.Eased v₂) (stopped : v₂.Stopped x.kind v') : Parting v x v'
  /-- It has been told the last, or could not be told, and the driver is not asked. -/
  | unasked {callback : Callback} {delivered : Bool} {v₁ v' : View κ}
      (told : v.Delivered x callback delivered v₁) (last : delivered → callback.isTerminal)
      (kept : v₁.Kept v') (ends : EndsUnasked x.kind callback delivered) : Parting v x v'
  /-- It has been told of a failure with which the lockout is entered, and of that. -/
  | lockedOut {device : UInt64} {subject : Int32} {delivered again : Bool} {v₁ v₂ v₃ v₄ v' : View κ}
      {lockout : Lockout} {settings : Lockout.Settings} (hkind : x.kind = .authenticate)
      (told : v.Delivered x (.authenticated device 0 subject) delivered v₁) (kept : v₁.Kept v₂)
      (warned : (v₂.lockOut lockout settings).Delivered x
        (.error device SensorError.lockout.code) again v₃)
      (kept' : v₃.Kept v₄) (stopped : v₄.Stopped x.kind v') : Parting v x v'

end View

/-- One thing that the coordinator does. -/
inductive Episode {κ : Type} (v : View κ) : View κ → Prop
  /-- Something that concerns no session. -/
  | noted {v' : View κ} (h : v.Noted v') : Episode v v'
  | lockout (lockout : Lockout) : Episode v { v with lockout }
  | numbered : Episode v { v with nextSession := v.nextSession + 1 }
  /-- A session that gets no slot is told so. -/
  | refused {x : Session} {callback : Callback} {delivered : Bool} {v₁ v' : View κ}
      (hid : x.id = v.nextSession)
      (kept : { v with nextSession := v.nextSession + 1 }.Kept v₁)
      (told : v₁.Delivered x callback delivered v') : Episode v v'
  | mourned (caller : CallerToken) (registrations : Nat) :
      Episode v (v.log [.published (Host.callerDiedEvent caller registrations) v.slots])
  /-- A session gets its slot, and the driver is asked to begin its operation. -/
  | launched {x : Session} {message : Bytes} {call : DriverCall} {outcome : Except Fault call.Reply}
      {v' : View κ}
      (hid : x.id = v.nextSession)
      (hregistration : x.registration = ⟨some v.liveness.nextId, x.caller⟩)
      (vacant : v.slots.get x.kind = none)
      (alone : x.kind ≠ .remove → v.slots.enroll = none ∧ v.slots.authenticate = none)
      (hcall : call.begins = some x.kind) (asked : (v.enter x message).Asked call outcome v') :
      Episode v v'
  /-- A session is told of progress. -/
  | progressed {kind : SessionKind} {x : Session} {callback : Callback} {v' : View κ}
      (hslot : v.slots.get kind = some x) (running : callback.isTerminal = false)
      (told : v.Delivered x callback true v') : Episode v v'
  /-- A session comes to its end. -/
  | parted {kind : SessionKind} {x : Session} {v' : View κ} (hslot : v.slots.get kind = some x)
      (parting : v.Parting x v') : Episode v (v'.leave x)

/-- What the coordinator does, one after the other. -/
abbrev Episodes {κ : Type} : View κ → View κ → Prop := Relation.ReflTransGen Episode

/-! ## What is left alone -/

namespace View

variable {κ : Type} {v v' v₁ v₂ v₃ : View κ} {x : Session} {callback : Callback} {delivered : Bool}

/-- From `v` to `v'` no session gets its slot or leaves it. -/
structure Framed (v v' : View κ) : Prop where
  slots : v'.slots = v.slots
  liveness : v'.liveness = v.liveness
  nextSession : v'.nextSession = v.nextSession
  history : ∃ entries, v'.history = v.history ++ entries ∧
    ∀ entry ∈ entries, entry.isTurn = false ∧ ∀ held ∈ entry.slots?, held = v.slots

namespace Framed

theorem refl (v : View κ) : v.Framed v := ⟨rfl, rfl, rfl, [], (List.append_nil _).symm, by simp⟩

theorem trans (h₁ : v₁.Framed v₂) (h₂ : v₂.Framed v₃) : v₁.Framed v₃ := by
  refine ⟨h₂.slots.trans h₁.slots, h₂.liveness.trans h₁.liveness,
    h₂.nextSession.trans h₁.nextSession, ?_⟩
  obtain ⟨entries, hentries, hframed⟩ := h₁.history
  obtain ⟨more, hmore, hframed'⟩ := h₂.history
  refine ⟨entries ++ more, by rw [hmore, hentries, List.append_assoc], ?_⟩
  rw [h₁.slots] at hframed'
  exact List.forall_mem_append.2 ⟨hframed, hframed'⟩

theorem mem_history (h : v.Framed v') {entry : Entry} (hentry : entry ∈ v.history) :
    entry ∈ v'.history := by
  obtain ⟨entries, hentries, -⟩ := h.history
  rw [hentries]
  exact List.mem_append_left _ hentry

theorem log {entry : Entry} (hturn : entry.isTurn = false)
    (hslots : ∀ held ∈ entry.slots?, held = v.slots) : v.Framed (v.log [entry]) :=
  ⟨rfl, rfl, rfl, [entry], rfl, List.forall_mem_singleton.2 ⟨hturn, hslots⟩⟩

theorem lockout (v : View κ) (lockout : Lockout) : v.Framed { v with lockout } :=
  ⟨rfl, rfl, rfl, [], (List.append_nil _).symm, by simp⟩

end Framed

theorem Noted.framed (h : v.Noted v') : v.Framed v' := by
  obtain ⟨connection, entries, hentries, rfl, -⟩ := h
  refine ⟨rfl, rfl, rfl, entries, rfl, fun entry hentry => ?_⟩
  exact ⟨Entry.isTurn_eq_false (hentries entry hentry).1, (hentries entry hentry).2⟩

theorem Kept.framed (h : v.Kept v') : v.Framed v' := h.1.framed

theorem Eased.framed (h : v.Eased v') : v.Framed v' := (Framed.lockout v _).trans (Kept.framed h)

theorem Delivered.framed (h : v.Delivered x callback delivered v') : v.Framed v' := by
  cases h with
  | nowhere => exact .refl v
  | called hsink kept => exact (Framed.log rfl (by simp [Entry.slots?])).trans kept.framed

theorem Asked.framed {call : DriverCall} {outcome : Except Fault call.Reply}
    (h : v.Asked call outcome v') : v.Framed v' := by
  obtain ⟨handle, -, hlogged⟩ := h
  exact (Framed.log rfl (by simp [Entry.slots?])).trans hlogged.noted.framed

theorem Halted.framed {kind : SessionKind} (h : v.Halted kind v') : v.Framed v' := by
  cases h with
  | asked _ asked => exact asked.framed
  | remove => exact .refl v

theorem Stopped.framed {kind : SessionKind} (h : v.Stopped kind v') : v.Framed v' := by
  obtain ⟨v₁, hkept, hhalted | ⟨-, hkept'⟩⟩ := h
  · exact hkept.framed.trans hhalted.framed
  · exact hkept.framed.trans hkept'.framed

theorem lockOut_framed (v : View κ) (lockout : Lockout) (settings : Lockout.Settings) :
    v.Framed (v.lockOut lockout settings) :=
  (Framed.lockout v lockout).trans (Framed.log rfl (by simp [Entry.slots?]))

/-- Until it leaves its slot, a session holds it. -/
theorem Parting.framed (h : v.Parting x v') : v.Framed v' := by
  cases h with
  | canceled kept halted told => exact (kept.framed.trans halted.framed).trans told.framed
  | rejected _ kept told => exact kept.framed.trans told.framed
  | died => exact .log rfl (by simp [Entry.slots?])
  | asked told _ eased stopped => exact (told.framed.trans eased.framed).trans stopped.framed
  | unasked told _ kept => exact told.framed.trans kept.framed
  | lockedOut _ told kept warned kept' stopped =>
    have hwarned := (lockOut_framed _ _ _).trans warned.framed
    exact ((told.framed.trans kept.framed).trans hwarned).trans (kept'.framed.trans stopped.framed)

end View

end Fingerprint
