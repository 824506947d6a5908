import Fingerprint.System

/-!
# Views

What belongs to the coordinator in a state, together with what has happened so
far. The world around the coordinator is left out, and so are the queue and
the clock. Most of what goes on leaves no more than notes in the history: it
is no part of the life of a session.

* `Entry`, `Notes`: what happens, and what of it concerns no session;
* `View`: the coordinator and its history;
* `View.Logged`, `View.Kept`, `View.Noted`: from one view to another, nothing
  but notes was taken, and the connection has changed not at all, but for the
  driver, or in any way.
-/

namespace Fingerprint

/-- One thing that has happened, with what the slots held when it did. -/
inductive Entry where
  /-- An event was published. -/
  | published (event : Event) (slots : Slots)
  /-- A call was answered. A sink is called on behalf of the session `speaker`. -/
  | called (call : Call) (outcome : Except Fault call.Reply) (slots : Slots) (speaker : Option Nat)
  /-- The driver has told an event. -/
  | emitted (event : DriverEvent)

namespace Event

/-- The events that tell of the lives of sessions, and of what ends them. -/
def landmarks : List Bytes :=
  ["session_started", "session_removed", "session_peer_gone", "caller_died",
    "fingerprint_lockout_entered"]

/-- Whether an event tells of something else. -/
def isAside (event : Event) : Bool := !landmarks.contains event.id

/-- The value of a field. -/
def field? (event : Event) (key : Bytes) : Option Bytes :=
  (event.fields.find? (·.key == key)).map (·.value)

end Event

namespace Call

/-- Whether it is a sink that is called. -/
def isSink : Call → Bool
  | sink .. => true
  | _ => false

/-- Whether a call is part of the life of a session: the call of a sink, or one that begins
    an operation of the sensor or gives one up. -/
def isForSession : Call → Bool
  | sink .. => true
  | driver _ (.enroll ..) | driver _ .cancelEnroll => true
  | driver _ (.authenticate ..) | driver _ .cancelAuthenticate => true
  | driver _ (.remove ..) => true
  | _ => false

end Call

namespace Entry

/-- Whether an entry is no part of the life of a session. -/
def isNote : Entry → Bool
  | published event _ => event.isAside
  | called call .. => !call.isForSession
  | emitted _ => true

/-- What the slots held. Of what the driver tells that is not known. -/
def slots? : Entry → Option Slots
  | published _ slots => some slots
  | called _ _ slots _ => some slots
  | emitted _ => none

/-- The sink that was called. -/
def sink? : Entry → Option SinkName
  | called (.sink name _) .. => some name
  | _ => none

/-- The session on whose behalf a sink was called. -/
def addressee? : Entry → Option Nat
  | called (.sink ..) _ _ speaker => speaker
  | _ => none

/-- A sink that is called is no matter of notes. -/
theorem sink?_eq_none {entry : Entry} (h : entry.isNote) : entry.sink? = none := by
  cases entry with
  | published | emitted => rfl
  | called call =>
    cases call with
    | sink => cases h
    | _ => rfl

/-- Nothing is said on behalf of a session unless a sink is called. -/
theorem addressee?_eq_none {entry : Entry} (h : entry.sink? = none) : entry.addressee? = none := by
  cases entry with
  | published | emitted => rfl
  | called call =>
    cases call with
    | sink => cases h
    | _ => rfl

/-- Whoever says something on behalf of a session calls a sink. -/
theorem sink?_isSome {entry : Entry} {id : Nat} (h : entry.addressee? = some id) : entry.sink?.isSome := by
  cases hsink : entry.sink? with
  | some => rfl
  | none => rw [addressee?_eq_none hsink] at h; cases h

/-- Whether an entry tells of the death of a driver that was in use. -/
def isDriverDeath : Entry → Bool
  | published event _ => event.id == ("driver_died" : Bytes)
  | _ => false

end Entry

/-- Entries that are no part of the life of a session, taken while the slots held what they
    hold. -/
def Notes (slots : Slots) (entries : List Entry) : Prop :=
  ∀ entry ∈ entries, entry.isNote ∧ ∀ held ∈ entry.slots?, held = slots

namespace Notes

variable {slots : Slots} {entries more : List Entry}

theorem nil : Notes slots [] := by simp [Notes]

theorem published {event : Event} (h : event.isAside) : Notes slots [.published event slots] := by
  simp [Notes, Entry.isNote, Entry.slots?, h]

theorem called {call : Call} {outcome : Except Fault call.Reply} {speaker : Option Nat}
    (h : call.isForSession = false) : Notes slots [.called call outcome slots speaker] := by
  simp [Notes, Entry.isNote, Entry.slots?, h]

theorem append (h : Notes slots entries) (hm : Notes slots more) : Notes slots (entries ++ more) :=
  List.forall_mem_append.2 ⟨h, hm⟩

end Notes

/-! ## Views -/

/-- What belongs to the coordinator, and what has happened so far. -/
structure View (κ : Type) where
  slots : Slots := {}
  liveness : Liveness (DeathAction κ) := {}
  lockout : Lockout := {}
  connection : Connection := {}
  nextSession : Nat := 0
  speaker : Option Nat := none
  history : List Entry := []

namespace View

variable {κ : Type}

/-- Something more has happened. -/
def log (v : View κ) (entries : List Entry) : View κ := { v with history := v.history ++ entries }

/-- Something more has happened, and the connection has changed. -/
def reconnect (v : View κ) (connection : Connection) (entries : List Entry) : View κ :=
  { v with connection, history := v.history ++ entries }

@[simp] theorem log_nil (v : View κ) : v.log [] = v := by
  rw [log, List.append_nil]

@[simp] theorem log_log (v : View κ) (entries more : List Entry) :
    (v.log entries).log more = v.log (entries ++ more) := by
  simp only [log, List.append_assoc]

/-- Whether there is a driver. -/
def connected (v : View κ) : Bool := v.connection.handle.isSome

/-! ## Notes -/

variable {v v' v₁ v₂ v₃ : View κ}

/-- From `v` to `v'` nothing but notes was taken. -/
def Logged (v v' : View κ) : Prop := ∃ entries, Notes v.slots entries ∧ v' = v.log entries

/-- From `v` to `v'` at most the connection has changed, and nothing but notes was taken. If
    the driver is no longer the same, it has died. -/
def Noted (v v' : View κ) : Prop :=
  ∃ connection entries, Notes v.slots entries ∧ v' = v.reconnect connection entries ∧
    (v.connected → connection.handle = v.connection.handle ∨ ∃ entry ∈ entries, entry.isDriverDeath)

/-- From `v` to `v'` at most the connection has changed, and nothing but notes was taken. The
    driver is the same if there was one. -/
def Kept (v v' : View κ) : Prop :=
  v.Noted v' ∧ (v.connected → v'.connection.handle = v.connection.handle)

/-- From `v` to `v'` at most the connection has changed, but for the driver, and nothing but
    notes was taken. -/
def Steady (v v' : View κ) : Prop := v.Noted v' ∧ v'.connection.handle = v.connection.handle

theorem Logged.refl (v : View κ) : v.Logged v := ⟨[], Notes.nil, v.log_nil.symm⟩

theorem Logged.of_notes {entries : List Entry} (h : Notes v.slots entries) :
    v.Logged (v.log entries) :=
  ⟨entries, h, rfl⟩

theorem Logged.trans (h₁ : v₁.Logged v₂) (h₂ : v₂.Logged v₃) : v₁.Logged v₃ := by
  obtain ⟨entries, hentries, rfl⟩ := h₁
  obtain ⟨more, hmore, rfl⟩ := h₂
  exact ⟨entries ++ more, hentries.append hmore, log_log ..⟩

theorem Logged.noted (h : v.Logged v') : v.Noted v' := by
  obtain ⟨entries, hentries, rfl⟩ := h
  exact ⟨v.connection, entries, hentries, rfl, fun _ => .inl rfl⟩

theorem Logged.steady (h : v.Logged v') : v.Steady v' := by
  refine ⟨h.noted, ?_⟩
  obtain ⟨entries, -, rfl⟩ := h
  rfl

theorem Noted.refl (v : View κ) : v.Noted v := (Logged.refl v).noted

theorem Noted.trans (h₁ : v₁.Noted v₂) (h₂ : v₂.Noted v₃) : v₁.Noted v₃ := by
  obtain ⟨connection₁, entries, hentries, rfl, hkept⟩ := h₁
  obtain ⟨connection₂, more, hmore, rfl, hkept'⟩ := h₂
  refine ⟨connection₂, entries ++ more, hentries.append hmore, ?_, fun hv => ?_⟩
  · simp only [reconnect, List.append_assoc]
  · rcases hkept hv with hsame | ⟨entry, hentry, hdeath⟩
    · have hconnected : (v₁.reconnect connection₁ entries).connected := by
        rw [connected, reconnect, hsame]
        exact hv
      rcases hkept' hconnected with hsame' | ⟨entry, hentry, hdeath⟩
      · exact .inl (hsame'.trans hsame)
      · exact .inr ⟨entry, List.mem_append_right _ hentry, hdeath⟩
    · exact .inr ⟨entry, List.mem_append_left _ hentry, hdeath⟩

theorem Noted.slots_eq (h : v.Noted v') : v'.slots = v.slots := by
  obtain ⟨_, _, -, rfl, -⟩ := h
  rfl

theorem Steady.kept (h : v.Steady v') : v.Kept v' := ⟨h.1, fun _ => h.2⟩

theorem Steady.refl (v : View κ) : v.Steady v := ⟨Noted.refl v, rfl⟩

theorem Steady.trans (h₁ : v₁.Steady v₂) (h₂ : v₂.Steady v₃) : v₁.Steady v₃ :=
  ⟨h₁.1.trans h₂.1, h₂.2.trans h₁.2⟩

theorem Steady.of_eq {connection : Connection} (h : v' = { v with connection })
    (hhandle : connection.handle = v.connection.handle) : v.Steady v' :=
  ⟨⟨connection, [], Notes.nil, by rw [h, reconnect, List.append_nil], fun _ => .inl hhandle⟩,
    by rw [h, ← hhandle]⟩

theorem Logged.kept (h : v.Logged v') : v.Kept v' := h.steady.kept

theorem Kept.refl (v : View κ) : v.Kept v := (Steady.refl v).kept

theorem Kept.connected (h : v.Kept v') (hv : v.connected) : v'.connected := by
  rw [View.connected, h.2 hv]
  exact hv

theorem Kept.trans (h₁ : v₁.Kept v₂) (h₂ : v₂.Kept v₃) : v₁.Kept v₃ :=
  ⟨h₁.1.trans h₂.1, fun hv => (h₂.2 (h₁.connected hv)).trans (h₁.2 hv)⟩

/-- Where there was no driver, the connection may change in any way. -/
theorem Kept.of_eq {connection : Connection} (hv : v.connected = false)
    (h : v' = { v with connection }) : v.Kept v' := by
  refine ⟨⟨connection, [], Notes.nil, by rw [h, reconnect, List.append_nil], ?_⟩, ?_⟩ <;> simp [hv]

instance : Trans (Steady (κ := κ)) Steady Steady where trans := Steady.trans

instance : Trans (Kept (κ := κ)) Kept Kept where trans := Kept.trans

end View

/-- The view of a state, given what its world remembers. -/
def System.view {ω κ : Type} (history : ω → List Entry) (s : System ω κ) : View κ where
  slots := s.slots
  liveness := s.liveness
  lockout := s.lockout
  connection := s.connection
  nextSession := s.nextSession
  speaker := s.speaker
  history := history s.world

end Fingerprint
