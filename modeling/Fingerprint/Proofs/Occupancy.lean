import Fingerprint.Proofs.Episode

/-!
# What the driver is at

Which operations the driver is at, by what it was asked and what it has told. A
session that leaves its slot while its operation goes on leaves the sensor
behind. Whoever is thorough has the driver asked to give up first.

* `Entry.starts`, `Entry.ends`, `outstanding`: what the driver is at;
* `Obliging`: a driver that stays, and begins whatever it is asked for;
* `View.Idle`: the driver is not asked to begin anything;
* `View.Halted.not_outstanding`, `View.Stopped.not_outstanding`: what it was
  asked to give up is over;
* `View.Thorough`: no session leaves its slot while its operation goes on.
-/

namespace Fingerprint

/-- An entry of two lists, one after the other, is one of the first or of the second. -/
theorem exists_of_append_eq_append_cons {α : Type} {first second before after : List α} {a : α}
    (h : first ++ second = before ++ a :: after) :
    (∃ rest, first = before ++ a :: rest ∧ after = rest ++ second) ∨
      ∃ rest, before = first ++ rest ∧ second = rest ++ a :: after := by
  rcases List.append_eq_append_iff.1 h with ⟨rest, hbefore, hsecond⟩ | ⟨rest, hfirst, hsecond⟩
  · exact .inr ⟨rest, hbefore, hsecond⟩
  · cases rest with
    | nil => exact .inr ⟨[], by simp [hfirst], by simpa using hsecond.symm⟩
    | cons b rest =>
      obtain ⟨rfl, rfl⟩ := List.cons.inj hsecond
      exact .inl ⟨rest, hfirst, rfl⟩

namespace DriverEvent

/-- Whether an event is the last of the driver's operation of a kind. -/
def isTerminalOf (kind : SessionKind) : DriverEvent → Bool
  | enrollResult _ _ _ remaining => kind = .enroll && remaining = 0
  | authenticated .. => kind = .authenticate
  | error .. => true
  | _ => false

end DriverEvent

namespace Entry

/-- Whether the driver is asked to begin an enrollment or an authentication. -/
def claimsSensor : Entry → Bool
  | called (.driver _ call) .. => call.begins = some .enroll || call.begins = some .authenticate
  | _ => false

/-- Whether the driver begins an operation of a kind. -/
def starts (kind : SessionKind) : Entry → Bool
  | called (.driver _ call) outcome .. => call.begins = some kind && call.accepts outcome
  | _ => false

/-- Whether an operation of a kind ends: the driver is asked to give it up, or has told its
    end. -/
def ends (kind : SessionKind) : Entry → Bool
  | called (.driver _ call) .. => call.cancels = some kind
  | emitted event => event.isTerminalOf kind
  | _ => false

end Entry

/-- Whether the driver is at an operation of a kind, after what has happened. -/
def outstanding (kind : SessionKind) (history : List Entry) : Bool :=
  history.foldl (fun busy entry => entry.starts kind || busy && !entry.ends kind) false

/-- Whether the driver has stayed and has begun all operations that it was asked for. -/
def Obliging (history : List Entry) : Prop :=
  ∀ entry ∈ history, entry.isDriverDeath = false ∧ entry.isRefusal = false

section

variable {kind : SessionKind} {history entries : List Entry}

theorem outstanding_append : outstanding kind (history ++ entries) =
    entries.foldl (fun busy entry => entry.starts kind || busy && !entry.ends kind)
      (outstanding kind history) := by
  rw [outstanding, List.foldl_append, outstanding]

/-- Whatever goes on at the end was going on before, unless it was begun in between. -/
theorem outstanding_of_append (hstarts : ∀ entry ∈ entries, entry.starts kind = false)
    (h : outstanding kind (history ++ entries)) :
    outstanding kind history ∧ ∀ entry ∈ entries, entry.ends kind = false := by
  induction entries generalizing history with
  | nil => exact ⟨by simpa using h, by simp⟩
  | cons entry entries ih =>
    rw [List.append_cons] at h
    obtain ⟨hstart, hrest⟩ := List.forall_mem_cons.1 hstarts
    obtain ⟨hfirst, hends⟩ := ih hrest h
    -- By induction from the front: the first entry began nothing, so it ended nothing either.
    rw [outstanding_append] at hfirst
    simp only [List.foldl_cons, List.foldl_nil, hstart, Bool.false_or, Bool.and_eq_true,
      Bool.not_eq_eq_eq_not, Bool.not_true] at hfirst
    exact ⟨hfirst.1, List.forall_mem_cons.2 ⟨hfirst.2, hends⟩⟩

/-- What goes on is not over as long as it does not end. -/
theorem outstanding_append_of_not_ends (hends : ∀ entry ∈ entries, entry.ends kind = false)
    (h : outstanding kind history) : outstanding kind (history ++ entries) := by
  induction entries generalizing history with
  | nil => rwa [List.append_nil]
  | cons entry entries ih =>
    obtain ⟨hend, hrest⟩ := List.forall_mem_cons.1 hends
    rw [List.append_cons]
    refine ih hrest ?_
    rw [outstanding_append]
    simp [h, hend]

end

/-- What the driver is asked to give up it is not asked to begin. -/
theorem DriverCall.begins_of_cancels {call : DriverCall} {kind : SessionKind}
    (h : call.cancels = some kind) : call.begins = none := by
  cases call <;> first | rfl | cases h

namespace Entry

variable {kind : SessionKind} {entry : Entry}

theorem claimsSensor_of_starts (hkind : kind ≠ .remove) (h : entry.starts kind) :
    entry.claimsSensor := by
  cases entry with
  | called call =>
    cases call with
    | driver _ call =>
      simp only [starts, Bool.and_eq_true, decide_eq_true_eq] at h
      cases kind with
      | remove => exact absurd rfl hkind
      | _ => simp [claimsSensor, h.1]
    | _ => cases h
  | _ => cases h

theorem starts_eq_false (hkind : kind ≠ .remove) (h : entry.claimsSensor = false) : entry.starts kind = false := by
  cases hstarts : entry.starts kind with
  | false => rfl
  | true => simpa [h] using claimsSensor_of_starts hkind hstarts

theorem claimsSensor_of_isNote (h : entry.isNote) : entry.claimsSensor = false := by
  cases entry with
  | called call =>
    cases call with
    | driver _ call => cases call <;> first | rfl | cases h
    | _ => rfl
  | _ => rfl

end Entry

/-- Sessions of different kinds leave their slots with different events. -/
theorem Session.kind_eq_of_removedEvent {x y : Session} (h : x.removedEvent = y.removedEvent) :
    x.kind = y.kind := by
  have hname : (x.kind.name : Bytes) = y.kind.name :=
    Option.some.inj (congrArg (Event.field? · "kind") h)
  revert hname
  cases x.kind <;> cases y.kind <;> decide

namespace View

variable {κ : Type} {v v' v₁ v₂ v₃ : View κ} {x : Session} {kind : SessionKind}

/-- From `v` to `v'` the driver is not asked to begin an enrollment or an authentication. -/
def Idle (v v' : View κ) : Prop :=
  ∃ entries, v'.history = v.history ++ entries ∧ ∀ entry ∈ entries, entry.claimsSensor = false

namespace Idle

theorem refl (v : View κ) : v.Idle v := ⟨[], (List.append_nil _).symm, by simp⟩

theorem trans (h₁ : v₁.Idle v₂) (h₂ : v₂.Idle v₃) : v₁.Idle v₃ := by
  obtain ⟨entries, hentries, hidle⟩ := h₁
  obtain ⟨more, hmore, hidle'⟩ := h₂
  exact ⟨entries ++ more, by rw [hmore, hentries, List.append_assoc],
    List.forall_mem_append.2 ⟨hidle, hidle'⟩⟩

theorem log {entry : Entry} (h : entry.claimsSensor = false) : v.Idle (v.log [entry]) :=
  ⟨[entry], rfl, List.forall_mem_singleton.2 h⟩

theorem leave (v : View κ) (x : Session) : v.Idle (v.leave x) :=
  ⟨_, rfl, List.forall_mem_singleton.2 rfl⟩

/-- What goes on after was going on before, and has not come to its end. -/
theorem outstanding (h : v.Idle v') (hkind : kind ≠ .remove) (hv' : outstanding kind v'.history) :
    Fingerprint.outstanding kind v.history ∧
      ∃ entries, v'.history = v.history ++ entries ∧ ∀ entry ∈ entries, entry.ends kind = false := by
  obtain ⟨entries, hentries, hidle⟩ := h
  rw [hentries] at hv'
  obtain ⟨hv, hends⟩ :=
    outstanding_of_append (fun entry hentry => Entry.starts_eq_false hkind (hidle entry hentry)) hv'
  exact ⟨hv, entries, hentries, hends⟩

theorem not_outstanding (h : v.Idle v') (hkind : kind ≠ .remove) (hv : Fingerprint.outstanding kind v.history = false) :
    Fingerprint.outstanding kind v'.history = false := by
  cases hbusy : Fingerprint.outstanding kind v'.history with
  | false => rfl
  | true => rw [← hv, (h.outstanding hkind hbusy).1]

end Idle

theorem Noted.idle (h : v.Noted v') : v.Idle v' := by
  obtain ⟨connection, entries, hentries, rfl, -⟩ := h
  exact ⟨entries, rfl, fun entry hentry => Entry.claimsSensor_of_isNote (hentries entry hentry).1⟩

theorem Kept.idle (h : v.Kept v') : v.Idle v' := h.1.idle

theorem Eased.idle (h : v.Eased v') : v.Idle v' :=
  have hkept : { v with lockout := v'.lockout }.Kept v' := h
  hkept.idle

theorem Delivered.idle {callback : Callback} {delivered : Bool}
    (h : v.Delivered x callback delivered v') : v.Idle v' := by
  cases h with
  | nowhere => exact .refl v
  | called _ kept => exact (Idle.log rfl).trans kept.idle

theorem Asked.idle {call : DriverCall} {outcome : Except Fault call.Reply}
    (h : v.Asked call outcome v')
    (hcall : call.begins ≠ some .enroll ∧ call.begins ≠ some .authenticate) : v.Idle v' := by
  obtain ⟨handle, -, hlogged⟩ := h
  exact (Idle.log (by simp [Entry.claimsSensor, hcall])).trans hlogged.noted.idle

theorem Halted.idle (h : v.Halted kind v') : v.Idle v' := by
  cases h with
  | asked hcall asked => exact asked.idle (by simp [DriverCall.begins_of_cancels hcall])
  | remove => exact .refl v

theorem Stopped.idle (h : v.Stopped kind v') : v.Idle v' := by
  obtain ⟨v₁, hkept, hhalted | ⟨-, hkept'⟩⟩ := h
  · exact hkept.idle.trans hhalted.idle
  · exact hkept.idle.trans hkept'.idle

theorem Parting.idle (h : v.Parting x v') : v.Idle v' := by
  cases h with
  | canceled kept halted told => exact (kept.idle.trans halted.idle).trans told.idle
  | rejected _ kept told => exact kept.idle.trans told.idle
  | died => exact .log rfl
  | asked told _ eased stopped => exact (told.idle.trans eased.idle).trans stopped.idle
  | unasked told _ kept => exact told.idle.trans kept.idle
  | @lockedOut _ _ _ _ _ v₂ _ _ _ lockout settings _ told kept warned kept' stopped =>
    have hentered : v₂.Idle (v₂.lockOut lockout settings) :=
      ⟨_, rfl, List.forall_mem_singleton.2 rfl⟩
    exact (told.idle.trans kept.idle).trans
      ((hentered.trans warned.idle).trans (kept'.idle.trans stopped.idle))

/-! ## With a driver -/

theorem Delivered.connected {callback : Callback} {delivered : Bool}
    (h : v.Delivered x callback delivered v') (hv : v.connected) : v'.connected := by
  cases h with
  | nowhere => exact hv
  | called _ kept => exact kept.connected hv

theorem Asked.connected {call : DriverCall} {outcome : Except Fault call.Reply}
    (h : v.Asked call outcome v') : v'.connected := by
  obtain ⟨handle, hhandle, hlogged⟩ := h
  refine hlogged.kept.connected ?_
  change v.connection.handle.isSome
  rw [hhandle]
  rfl

theorem Halted.connected {kind : SessionKind} (h : v.Halted kind v') (hv : v.connected) :
    v'.connected := by
  cases h with
  | asked _ asked => exact asked.connected
  | remove => exact hv

theorem Eased.connected (h : v.Eased v') (hv : v.connected) : v'.connected :=
  have hkept : { v with lockout := v'.lockout }.Kept v' := h
  hkept.connected hv

theorem Stopped.connected (h : v.Stopped kind v') (hv : v.connected) : v'.connected := by
  obtain ⟨v₁, hkept, hhalted | ⟨-, hkept'⟩⟩ := h
  · exact hhalted.connected (hkept.connected hv)
  · exact hkept'.connected (hkept.connected hv)

theorem Parting.connected (h : v.Parting x v') (hv : v.connected) : v'.connected := by
  cases h with
  | canceled kept halted told => exact told.connected (halted.connected (kept.connected hv))
  | rejected _ kept told => exact told.connected (kept.connected hv)
  | died => exact hv
  | asked told _ eased stopped => exact stopped.connected (eased.connected (told.connected hv))
  | unasked told _ kept => exact kept.connected (told.connected hv)
  | lockedOut _ told kept warned kept' stopped =>
    have hentered := kept.connected (told.connected hv)
    exact stopped.connected (kept'.connected (warned.connected hentered))

/-- A driver that obliges does not die. -/
theorem Noted.connected_of_obliging (h : v.Noted v') (hobliging : Obliging v'.history) (hv : v.connected) :
    v'.connected := by
  obtain ⟨connection, entries, -, rfl, hkept⟩ := h
  rcases hkept hv with hsame | ⟨entry, hentry, hdeath⟩
  · rw [View.connected, View.reconnect, hsame]
    exact hv
  · rw [(hobliging entry (List.mem_append_right _ hentry)).1] at hdeath
    cases hdeath

/-- An operation that the driver was asked to give up is over. -/
theorem Halted.not_outstanding (h : v.Halted kind v') (hkind : kind ≠ .remove) :
    outstanding kind v'.history = false := by
  cases h with
  | @asked call outcome _ hcall asked =>
    obtain ⟨handle, -, hlogged⟩ := asked
    cases hbusy : Fingerprint.outstanding kind v'.history with
    | false => rfl
    | true =>
      have hasked := (hlogged.noted.idle.outstanding hkind hbusy).1
      change Fingerprint.outstanding kind (v.history ++ [_]) at hasked
      rw [outstanding_append] at hasked
      simp [Entry.starts, Entry.ends, hcall, DriverCall.begins_of_cancels hcall] at hasked
  | remove hremove => exact absurd hremove hkind

theorem Stopped.not_outstanding (h : v.Stopped kind v') (hkind : kind ≠ .remove)
    (hv : v.connected) : Fingerprint.outstanding kind v'.history = false := by
  obtain ⟨v₁, hkept, hhalted | ⟨hnone, -⟩⟩ := h
  · exact hhalted.not_outstanding hkind
  · rw [hkept.connected hv] at hnone
    cases hnone

/-! ## Leaving the sensor behind -/

/-- If the driver is at an operation of a kind, it is there to be asked. -/
def AtHand (v : View κ) (kind : SessionKind) : Prop :=
  v.connected ∨ Fingerprint.outstanding kind v.history = false

/-- The driver is at nothing more if it is not asked, and there if it was. -/
theorem AtHand.idle (h : v.AtHand kind) (hidle : v.Idle v') (hkind : kind ≠ .remove)
    (hconnected : v.connected → v'.connected) : v'.AtHand kind :=
  h.imp hconnected (hidle.not_outstanding hkind)

/-- From `v` to `v'` no session leaves its slot while its operation goes on, if the driver obliges, and
    is there to be asked. -/
def Thorough (v v' : View κ) : Prop :=
  ∃ entries, v'.history = v.history ++ entries ∧ (Obliging v'.history → ∀ kind ≠ .remove, v.AtHand kind →
    v'.AtHand kind ∧ ∀ (before after : List Entry) (x : Session) (slots : Slots),
      entries = before ++ .published x.removedEvent slots :: after → x.kind = kind →
        Fingerprint.outstanding kind (v.history ++ before) = false)

namespace Thorough

theorem trans (h₁ : v₁.Thorough v₂) (h₂ : v₂.Thorough v₃) : v₁.Thorough v₃ := by
  obtain ⟨entries, hentries, hthorough⟩ := h₁
  obtain ⟨more, hmore, hthorough'⟩ := h₂
  refine ⟨entries ++ more, by rw [hmore, hentries, List.append_assoc], fun hobliging kind hkind hv₁ => ?_⟩
  have hbefore : Obliging v₂.history :=
    fun entry hentry => hobliging entry (hmore ▸ List.mem_append_left _ hentry)
  obtain ⟨hv₂, hfirst⟩ := hthorough hbefore kind hkind hv₁
  obtain ⟨hv₃, hsecond⟩ := hthorough' hobliging kind hkind hv₂
  refine ⟨hv₃, fun before after x slots hlist hsame => ?_⟩
  -- A session has left its slot either on the way to `v₂` or after that.
  rcases exists_of_append_eq_append_cons hlist with ⟨rest, hfirstPart, -⟩ | ⟨rest, rfl, hrest⟩
  · exact hfirst before rest x slots hfirstPart hsame
  · rw [← List.append_assoc, ← hentries]
    exact hsecond rest after x slots hrest hsame

/-- Where no session leaves its slot. -/
theorem of_entries {entries : List Entry} (hentries : v'.history = v.history ++ entries)
    (hstays : ∀ x : Session, ∀ slots, .published x.removedEvent slots ∉ entries)
    (hhand : Obliging v'.history → ∀ kind ≠ .remove, v.AtHand kind → v'.AtHand kind) : v.Thorough v' := by
  refine ⟨entries, hentries, fun hobliging kind hkind hv => ⟨hhand hobliging kind hkind hv, ?_⟩⟩
  intro before after x slots hlist
  exact absurd (hlist ▸ List.mem_append_right _ List.mem_cons_self) (hstays x slots)

theorem of_framed (h : v.Framed v') (hhand : Obliging v'.history → ∀ kind ≠ .remove, v.AtHand kind → v'.AtHand kind) :
    v.Thorough v' := by
  obtain ⟨entries, hentries, hframed⟩ := h.history
  refine .of_entries hentries (fun x slots hmem => ?_) hhand
  exact Bool.noConfusion (hframed _ hmem).1

theorem of_idle (h : v.Framed v') (hidle : v.Idle v') (hconnected : Obliging v'.history → v.connected → v'.connected) :
    v.Thorough v' :=
  .of_framed h fun hobliging _ hkind hv => hv.idle hidle hkind (hconnected hobliging)

theorem of_noted (h : v.Noted v') : v.Thorough v' :=
  .of_idle h.framed h.idle h.connected_of_obliging

/-- A session gets its slot, and the driver, which is there, is asked for its operation. -/
theorem launched {message : Bytes} {call : DriverCall} {outcome : Except Fault call.Reply}
    (asked : (v.enter x message).Asked call outcome v') : v.Thorough v' := by
  have hentered : v.Thorough (v.enter x message) := by
    refine .of_entries rfl (fun y slots hmem => ?_) fun _ kind hkind hv => ?_
    · have hevent := (Entry.published.inj (List.mem_singleton.1 hmem)).1
      have hid : ("session_removed" : Bytes) = "session_started" := congrArg Event.id hevent
      exact absurd hid (by decide)
    · exact hv.idle ⟨_, rfl, List.forall_mem_singleton.2 rfl⟩ hkind id
  exact hentered.trans (.of_framed asked.framed fun _ _ _ _ => .inl asked.connected)

/-- A session parts from its slot when its operation is over. -/
theorem parted (parting : v.Parting x v')
    (h : Obliging v'.history → v.connected → x.kind ≠ .remove → outstanding x.kind v'.history = false) :
    v.Thorough (v'.leave x) := by
  obtain ⟨entries, hentries, hframed⟩ := parting.framed.history
  refine ⟨entries ++ [.published x.removedEvent (v'.slots.set x.kind none)],
    by rw [← List.append_assoc, ← hentries]; rfl, fun hobliging kind hkind hv => ⟨?_, ?_⟩⟩
  · exact hv.idle (parting.idle.trans (.leave v' x)) hkind parting.connected
  have hbefore : Obliging v'.history := fun entry hentry => hobliging entry (List.mem_append_left _ hentry)
  intro before after y slots hlist hsame
  rcases exists_of_append_eq_append_cons hlist with ⟨rest, rfl, -⟩ | ⟨rest, rfl, hlast⟩
  -- No session leaves its slot before the last entry.
  · exact Bool.noConfusion (hframed _ (List.mem_append_right _ List.mem_cons_self)).1
  · rcases List.singleton_eq_append_iff.1 hlast with ⟨rfl, hlast⟩ | ⟨-, hnil⟩
    · have hevent := (Entry.published.inj (List.cons.inj hlast).1).1
      obtain rfl : x.kind = kind := (Session.kind_eq_of_removedEvent hevent).trans hsame
      rw [List.append_nil, ← hentries]
      exact hv.elim (fun hconnected => h hbefore hconnected hkind) (parting.idle.not_outstanding hkind)
    · cases hnil

end Thorough

end View

end Fingerprint
