import Fingerprint.Proofs.Registration
import Fingerprint.Proofs.Routing

/-!
# Milestones

The entries of a history that are no notes are the milestones of sessions:
they get their slots and leave them, sinks are called, and the driver is asked
for an operation or to give one up. What an operation comes to is told by
naming all milestones that are passed, in order. So nothing else is called on
the way, and nothing twice.

* `milestones`, `View.Passes`: the milestones from one view to another;
* `Session.Tidings`: a sink is told of an error, if there is one;
* `View.GivesWay`: a session leaves its slot in favour of another;
* `View.Starts`: a session gets its slot, and what comes of that;
* `View.TurnsAway`: a session gets no slot, as authentication is locked.
-/

namespace Fingerprint

/-- What of a history is part of the lives of sessions. -/
def milestones (history : List Entry) : List Entry := history.filter fun entry => !entry.isNote

theorem milestones_append (entries more : List Entry) :
    milestones (entries ++ more) = milestones entries ++ milestones more :=
  List.filter_append ..

theorem Notes.milestones {slots : Slots} {entries : List Entry} (h : Notes slots entries) :
    milestones entries = [] :=
  List.filter_eq_nil_iff.2 fun entry hentry => by simp [(h entry hentry).1]

/-- What can be read off entries, and off no notes, can be read off the milestones. -/
theorem filterMap_milestones {α : Type} {f : Entry → Option α} (h : ∀ entry : Entry, entry.isNote → f entry = none)
    (entries : List Entry) : (milestones entries).filterMap f = entries.filterMap f := by
  rw [milestones, List.filterMap_filter]
  congr 1
  funext entry
  cases hnote : entry.isNote with
  | true => exact (h entry hnote).symm
  | false => rfl

theorem tellings_milestones (entries : List Entry) : tellings (milestones entries) = tellings entries :=
  filterMap_milestones (fun _ h => Entry.telling?_eq_none (Entry.isQuiet_of_isNote h)) entries

/-- The driver is asked to begin an operation: who is asked, for what, and what comes of that. -/
structure Beginning where
  handle : Handle
  call : DriverCall
  outcome : Except Fault call.Reply

/-- The request that an entry tells of, if it is one to begin an operation. -/
def Entry.beginning? : Entry → Option Beginning
  | called (.driver handle call) outcome _ _ => if call.begins.isSome then some ⟨handle, call, outcome⟩ else none
  | _ => none

theorem Entry.beginning?_eq_none {entry : Entry} (h : entry.isNote) : entry.beginning? = none := by
  cases entry with
  | published | emitted => rfl
  | called call =>
    cases call with
    | driver handle call => cases call <;> first | rfl | cases h
    | _ => rfl

/-- The requests to begin an operation, oldest first. -/
def beginnings (history : List Entry) : List Beginning := history.filterMap Entry.beginning?

theorem beginnings_append (entries more : List Entry) :
    beginnings (entries ++ more) = beginnings entries ++ beginnings more :=
  List.filterMap_append

theorem beginnings_milestones (entries : List Entry) : beginnings (milestones entries) = beginnings entries :=
  filterMap_milestones (fun _ => Entry.beginning?_eq_none) entries

/-! ## What a sink is told -/

/-- The sink of a session is told of an error, once, whatever it makes of that. If there is none,
    nobody is told. -/
inductive Session.Tidings (x : Session) (error : SensorError) (slots : Slots) : List Entry → Prop
  | nobody (hsink : x.sink = none) : Tidings x error slots []
  | called {sink : SinkName} {device : UInt64}
      {outcome : Except Fault (Call.sink sink (.error device error.code)).Reply} (hsink : x.sink = some sink) :
      Tidings x error slots [.called (.sink sink (.error device error.code)) outcome slots (some x.id)]

namespace Session.Tidings

variable {x : Session} {error : SensorError} {slots : Slots} {marks : List Entry}

theorem tellings (h : x.Tidings error slots marks) :
    ∃ device taken, tellings marks = x.told (.error device error.code) taken := by
  cases h with
  | nobody hsink => exact ⟨0, false, by rw [Session.told, hsink]; rfl⟩
  | called hsink => exact ⟨_, _, by rw [Session.told, hsink]; rfl⟩

theorem beginnings (h : x.Tidings error slots marks) : beginnings marks = [] := by
  cases h <;> rfl

end Session.Tidings

/-- What is told to a session is told on its behalf. -/
theorem Session.speaker_of_mem_told {x : Session} {callback : Callback} {taken : Bool} {t : Telling}
    (h : t ∈ x.told callback taken) : x.sink = some t.sink ∧ t.speaker = some x.id := by
  obtain ⟨sink, hsink, rfl⟩ := List.mem_map.1 h
  exact ⟨Option.mem_toList.1 hsink, rfl⟩

/-- What is told to a session is found among what others are told before. -/
theorem Session.filter_told {x : Session} {before : List Telling} (h : ∀ t ∈ before, t.speaker ≠ some x.id)
    (callback : Callback) (taken : Bool) :
    (before ++ x.told callback taken).filter (·.speaker = some x.id) = x.told callback taken := by
  have hothers : before.filter (·.speaker = some x.id) = [] :=
    List.filter_eq_nil_iff.2 fun t ht => by simpa using h t ht
  have hown : (x.told callback taken).filter (·.speaker = some x.id) = x.told callback taken :=
    List.filter_eq_self.2 fun t ht => by simpa using (speaker_of_mem_told ht).2
  rw [List.filter_append, hothers, hown, List.nil_append]

/-! ## Milestones that are passed -/

namespace View

variable {κ : Type} {v v' v₁ v₂ v₃ : View κ} {x : Session} {marks more : List Entry} {handle : Handle}

/-- From `v` to `v'` these milestones are passed, and no others. At most the connection has
    changed, but for the driver if there was one. -/
structure Passes (v : View κ) (marks : List Entry) (v' : View κ) : Prop where
  slots : v'.slots = v.slots
  liveness : v'.liveness = v.liveness
  lockout : v'.lockout = v.lockout
  nextSession : v'.nextSession = v.nextSession
  speaker : v'.speaker = v.speaker
  handle : v.connected → v'.connection.handle = v.connection.handle
  history : ∃ entries, v'.history = v.history ++ entries ∧ milestones entries = marks

theorem Kept.passes (h : v.Kept v') : v.Passes [] v' := by
  obtain ⟨⟨connection, entries, hentries, rfl, -⟩, hhandle⟩ := h
  exact ⟨rfl, rfl, rfl, rfl, rfl, hhandle, entries, rfl, hentries.milestones⟩

theorem Passes.log {entry : Entry} (h : entry.isNote = false) : v.Passes [entry] (v.log [entry]) :=
  ⟨rfl, rfl, rfl, rfl, rfl, fun _ => rfl, [entry], rfl, by simp [milestones, h]⟩

theorem Passes.connected (h : v.Passes marks v') (hv : v.connected) : v'.connected := by
  rw [View.connected, h.handle hv]
  exact hv

theorem Passes.handle_eq (h : v.Passes marks v') (hv : v.connection.handle = some handle) :
    v'.connection.handle = some handle := by
  rw [h.handle (by rw [View.connected, hv]; rfl), hv]

theorem Passes.trans (h : v₁.Passes marks v₂) (h' : v₂.Passes more v₃) : v₁.Passes (marks ++ more) v₃ := by
  refine ⟨h'.slots.trans h.slots, h'.liveness.trans h.liveness, h'.lockout.trans h.lockout,
    h'.nextSession.trans h.nextSession, h'.speaker.trans h.speaker,
    fun hv => (h'.handle (h.connected hv)).trans (h.handle hv), ?_⟩
  obtain ⟨entries, hentries, rfl⟩ := h.history
  obtain ⟨entries', hentries', rfl⟩ := h'.history
  exact ⟨entries ++ entries', by rw [hentries', hentries, List.append_assoc], milestones_append ..⟩

/-- The next session is the same as before. -/
theorem Passes.newSession_eq (h : v.Passes marks v') (kind : SessionKind) (caller : CallerToken)
    (sink : Option SinkName) (subject : Int32) :
    v'.newSession kind caller sink subject = v.newSession kind caller sink subject := by
  rw [newSession, newSession, h.nextSession, h.liveness]

/-- Notes may be taken before and after. -/
theorem Passes.between (h₁ : v.Kept v₁) (h : v₁.Passes marks v₂) (h₂ : v₂.Kept v') : v.Passes marks v' := by
  have hpasses := (h₁.passes.trans h).trans h₂.passes
  rwa [List.nil_append, List.append_nil] at hpasses

theorem Asked.passes {call : DriverCall} {outcome : Except Fault call.Reply} (h : v.Asked call outcome v')
    (hhandle : v.connection.handle = some handle) (hcall : (Call.driver handle call).isForSession) :
    v.Passes [.called (.driver handle call) outcome v.slots v.speaker] v' := by
  obtain ⟨other, hother, hlogged⟩ := h
  obtain rfl : handle = other := Option.some.inj (hhandle.symm.trans hother)
  refine .between (.refl v) (Passes.log ?_) hlogged.kept
  simp [Entry.isNote, hcall]

theorem Delivered.passes {error : SensorError} {device : UInt64} {delivered : Bool}
    (h : v.Delivered x (.error device error.code) delivered v') :
    ∃ marks, x.Tidings error v.slots marks ∧ v.Passes marks v' := by
  cases h with
  | nowhere hsink => exact ⟨[], .nobody hsink, (Kept.refl v).passes⟩
  | called hsink kept => exact ⟨_, .called hsink, .between (.refl v) (Passes.log rfl) kept⟩

theorem Passes.told (h : v.Passes marks v') : v.Told v' (tellings marks) := by
  obtain ⟨entries, hentries, rfl⟩ := h.history
  exact ⟨entries, hentries, (tellings_milestones entries).symm⟩

/-! ## Ends and starts -/

/-- A session gives way to another. The driver is asked once to give its operation up, whatever it
    answers. Then its sink is told that it is cancelled, whatever that makes of it. Then the session
    leaves its slot, and its registration is released. -/
def GivesWay (v : View κ) (handle : Handle) (x : Session) (v' : View κ) : Prop :=
  ∃ (call : DriverCall) (outcome : Except Fault call.Reply) (tidings : List Entry) (v₁ : View κ),
    call.cancels = some x.kind ∧ x.Tidings .canceled v.slots tidings ∧
      v.Passes (.called (.driver handle call) outcome v.slots v.speaker :: tidings) v₁ ∧ v' = v₁.leave x

/-- A session gets its slot, and is registered. Then the driver is asked once to begin its
    operation. -/
def Enters (v : View κ) (handle : Handle) (call : DriverCall) (outcome : Except Fault call.Reply) (x : Session)
    (marks : List Entry) (v' : View κ) : Prop :=
  ∃ message, (v.enter x message).Passes
    (.called (.driver handle call) outcome (v.enter x message).slots v.speaker :: marks) v'

/-- What comes of a start. A session that the driver begins stays in its slot, and so does any
    other unless it is to be torn down. Then its sink is told that it cannot be served, and it leaves
    its slot again. -/
inductive Starts (teardown : Bool) (v : View κ) (handle : Handle) (call : DriverCall) (x : Session) :
    Except Fault call.Reply → View κ → Prop
  | stays {outcome : Except Fault call.Reply} {v' : View κ} (h : call.accepts outcome ∨ teardown = false)
      (entered : v.Enters handle call outcome x [] v') : Starts teardown v handle call x outcome v'
  | tornDown {outcome : Except Fault call.Reply} {tidings : List Entry} {v' : View κ}
      (h : ¬(call.accepts outcome ∨ teardown = false))
      (told : x.Tidings .hwUnavailable (v.slots.set x.kind (some x)) tidings)
      (entered : v.Enters handle call outcome x tidings v') : Starts teardown v handle call x outcome (v'.leave x)

/-- A session that gets no slot is told that authentication is locked, and that is all. -/
def TurnsAway (v : View κ) (x : Session) (v' : View κ) : Prop :=
  ∃ tidings, x.Tidings .lockout v.slots tidings ∧ { v with nextSession := v.nextSession + 1 }.Passes tidings v'

/-- What is told to the sinks of sessions that give way or are turned away. -/
theorem GivesWay.told (h : v.GivesWay handle x v') :
    ∃ device taken, v.Told v' (x.told (.error device SensorError.canceled.code) taken) := by
  obtain ⟨call, outcome, tidings, v₁, -, htidings, hpasses, rfl⟩ := h
  obtain ⟨device, taken, htold⟩ := htidings.tellings
  refine ⟨device, taken, ?_⟩
  have hall := hpasses.told.trans (told_leave v₁ x)
  rw [List.append_nil] at hall
  rwa [← htold]

theorem TurnsAway.told (h : v.TurnsAway x v') :
    ∃ device taken, v.Told v' (x.told (.error device SensorError.lockout.code) taken) := by
  obtain ⟨tidings, htidings, hpasses⟩ := h
  obtain ⟨device, taken, htold⟩ := htidings.tellings
  exact ⟨device, taken, htold ▸ hpasses.told⟩

theorem Enters.told {call : DriverCall} {outcome : Except Fault call.Reply}
    (h : v.Enters handle call outcome x marks v') : v.Told v' (tellings marks) := by
  obtain ⟨message, hpasses⟩ := h
  have hentered : v.Told (v.enter x message) [] := ⟨_, rfl, rfl⟩
  exact hentered.trans hpasses.told

/-- A session that starts is told nothing, unless it is torn down. -/
theorem Starts.told {teardown : Bool} {call : DriverCall} {outcome : Except Fault call.Reply}
    (h : v.Starts teardown handle call x outcome v') :
    if call.accepts outcome ∨ teardown = false then v.Told v' []
    else ∃ device taken, v.Told v' (x.told (.error device SensorError.hwUnavailable.code) taken) := by
  cases h with
  | stays h entered =>
    rw [if_pos h]
    exact entered.told
  | @tornDown tidings v₁ h told entered =>
    rw [if_neg h]
    obtain ⟨device, taken, htold⟩ := told.tellings
    refine ⟨device, taken, ?_⟩
    have hall := entered.told.trans (told_leave v₁ x)
    rwa [List.append_nil, htold] at hall

/-- While a session is turned away, or starts, nobody else is told of anything. -/
theorem TurnsAway.told_own (h : v.TurnsAway x v') :
    ∃ told, v.Told v' told ∧ ∀ t ∈ told, x.sink = some t.sink ∧ t.speaker = some x.id := by
  obtain ⟨device, taken, htold⟩ := h.told
  exact ⟨_, htold, fun _ => Session.speaker_of_mem_told⟩

theorem Starts.told_own {teardown : Bool} {call : DriverCall} {outcome : Except Fault call.Reply}
    (h : v.Starts teardown handle call x outcome v') :
    ∃ told, v.Told v' told ∧ ∀ t ∈ told, x.sink = some t.sink ∧ t.speaker = some x.id := by
  have htold := h.told
  split at htold
  · exact ⟨[], htold, nofun⟩
  · obtain ⟨device, taken, htold⟩ := htold
    exact ⟨_, htold, fun _ => Session.speaker_of_mem_told⟩

/-- What the session gives way to comes after what was noted before. -/
theorem GivesWay.after (h : v.Kept v₁) (hway : v₁.GivesWay handle x v') : v.GivesWay handle x v' := by
  obtain ⟨call, outcome, tidings, v₂, hcall, htidings, hpasses, rfl⟩ := hway
  rw [h.passes.slots] at htidings hpasses
  rw [h.passes.speaker] at hpasses
  exact ⟨call, outcome, tidings, v₂, hcall, htidings, .between h hpasses (.refl v₂), rfl⟩

end View

end Fingerprint
