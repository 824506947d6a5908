import Fingerprint.Proofs.Slots

/-!
# The tale of a session

What a session's caller may learn of it: the callbacks that its sink was
called with on its behalf, and besides that its caller has died, that it has
ended for this, and that a failure of its own has entered the lockout. Here is
what each part of an episode adds to the tales of sessions.

* `Word`, `Session.tale`;
* `Word.Ongoing`, `Word.Ended`: the tales of sessions that are active, and of
  those that have ended;
* `View.Parting.tale_self`: how the tale of a session ends.
-/

namespace Fingerprint

/-- What happens to a session that its caller may learn of. -/
inductive Word where
  /-- The sink is called while the session is in its slot. -/
  | told (callback : Callback)
  /-- The sink is called while the session is not in its slot. -/
  | stray (callback : Callback)
  /-- The caller has died. -/
  | mourned
  /-- The session ends since its caller has died. -/
  | peerGone
  /-- The lockout is entered. -/
  | lockedOut
  deriving DecidableEq, Repr

namespace Session

/-- What an entry tells of a session. The sink that is called has to be its own. -/
def word? (x : Session) : Entry → Option Word
  | .called (.sink name callback) _ slots speaker =>
    if x.sink = some name ∧ speaker = some x.id then
      if slots.get x.kind = some x then some (.told callback) else some (.stray callback)
    else none
  | .published event slots =>
    if slots.get x.kind = some x then
      if event = x.peerGoneEvent then some .peerGone
      else if event.id = "fingerprint_lockout_entered" ∧ x.kind = .authenticate then some .lockedOut
      else if event.id = "caller_died" ∧
          event.field? "caller" = some (Bytes.ofNat x.caller.toNat) then some .mourned
      else none
    else none
  | _ => none

/-- What a history tells of a session. -/
def tale (x : Session) (history : List Entry) : List Word := history.filterMap x.word?

/-- Whether a session had its slot at some time. -/
def Slotted (x : Session) (history : List Entry) : Prop :=
  ∃ entry ∈ history, ∃ slots ∈ entry.slots?, slots.get x.kind = some x

/-- Whether the sink of a session has not taken a callback. -/
def misses (x : Session) : Entry → Bool
  | .called (.sink name _) outcome _ speaker => x.sink = some name && speaker = some x.id && !outcome.isOk
  | _ => false

/-- Whether the sink of a session has taken every callback. -/
def Heard (x : Session) (history : List Entry) : Prop := ∀ entry ∈ history, x.misses entry = false

end Session

namespace Word

/-- A session that goes on has not been told the last. -/
def Ongoing (tale : List Word) : Prop :=
  ∀ word ∈ tale, word = .mourned ∨ ∃ callback, word = .told callback ∧ callback.isTerminal = false

/-- A session ends since its caller has died, and is not told so, or with one last callback,
    or with a failure that enters the lockout, which it is told in addition. -/
inductive Ended : List Word → Prop
  | callerDied {before : List Word} (h : Ongoing before) (mourned : .mourned ∈ before) :
      Ended (before ++ [.peerGone])
  | told {before : List Word} {callback : Callback} (h : Ongoing before)
      (last : callback.isTerminal) : Ended (before ++ [.told callback])
  | lockedOut {before : List Word} {device : UInt64} {subject : Int32} (h : Ongoing before) :
      Ended (before ++ [.told (.authenticated device 0 subject), .lockedOut,
        .told (.error device SensorError.lockout.code)])

theorem Ongoing.append {tale : List Word} (h : Ongoing tale) {word : Word}
    (hword : word = .mourned ∨ ∃ callback, word = .told callback ∧ callback.isTerminal = false) :
    Ongoing (tale ++ [word]) :=
  List.forall_mem_append.2 ⟨h, List.forall_mem_singleton.2 hword⟩

end Word

namespace Entry

/-- Whether an entry tells of no session: neither a sink was called, nor was one of the
    events published that tell of sessions. -/
def isQuiet : Entry → Bool
  | published event _ => event.isAside
  | called call .. => !call.isSink
  | emitted _ => true

theorem isQuiet_of_isNote {entry : Entry} (h : entry.isNote) : entry.isQuiet := by
  cases entry with
  | published => exact h
  | called call => cases call <;> first | rfl | exact h
  | emitted => rfl

end Entry

namespace Session

variable {x : Session}

/-- What has been heard was heard before, too. -/
theorem Heard.mono {history history' : List Entry} (h : x.Heard history')
    (hmem : ∀ entry ∈ history, entry ∈ history') : x.Heard history :=
  fun entry hentry => h entry (hmem entry hentry)

/-- Whoever has had a slot has had it from then on. -/
theorem Slotted.mono {history history' : List Entry} (h : x.Slotted history)
    (hmem : ∀ entry ∈ history, entry ∈ history') : x.Slotted history' := by
  obtain ⟨entry, hentry, hslots⟩ := h
  exact ⟨entry, hmem entry hentry, hslots⟩

/-- The events that tell of a session's life beyond its callbacks. -/
def fates : List Bytes := ["session_peer_gone", "fingerprint_lockout_entered", "caller_died"]

theorem word?_published_eq_none {event : Event} (h : event.id ∉ fates) (slots : Slots) :
    x.word? (.published event slots) = none := by
  simp only [fates, List.mem_cons, List.not_mem_nil, or_false, not_or] at h
  have hpeerGone : event ≠ x.peerGoneEvent := by
    rintro rfl
    exact h.1 rfl
  simp [word?, hpeerGone, h]

/-- The death of a caller is told of the sessions that are active then. -/
theorem word?_callerDied (x : Session) (caller : CallerToken) (registrations : Nat)
    (slots : Slots) :
    x.word? (.published (Host.callerDiedEvent caller registrations) slots) =
      if slots.get x.kind = some x ∧ Bytes.ofNat caller.toNat = Bytes.ofNat x.caller.toNat then
        some .mourned
      else none := by
  have hpeerGone : Host.callerDiedEvent caller registrations ≠ x.peerGoneEvent := by
    intro h
    have hid : ("caller_died" : Bytes) = "session_peer_gone" := congrArg Event.id h
    exact absurd hid (by decide)
  have hlockedOut :
      (Host.callerDiedEvent caller registrations).id ≠ "fingerprint_lockout_entered" :=
    show ("caller_died" : Bytes) ≠ "fingerprint_lockout_entered" by decide
  rw [word?]
  by_cases hslot : slots.get x.kind = some x
  · rw [if_pos hslot, if_neg hpeerGone, if_neg fun h => hlockedOut h.1]
    by_cases hcaller : Bytes.ofNat caller.toNat = Bytes.ofNat x.caller.toNat
    · rw [if_pos ⟨rfl, congrArg some hcaller⟩, if_pos ⟨hslot, hcaller⟩]
    · rw [if_neg fun h => hcaller (Option.some.inj h.2), if_neg fun h => hcaller h.2]
  · rw [if_neg hslot, if_neg fun h => hslot h.1]

theorem word?_eq_none {entry : Entry} (h : entry.isQuiet) : x.word? entry = none := by
  cases entry with
  | published event slots =>
    refine word?_published_eq_none (fun hmem => ?_) slots
    have hlandmarks : ∀ id ∈ fates, id ∈ Event.landmarks := by decide
    have hlandmark := hlandmarks event.id hmem
    simp [Entry.isQuiet, Event.isAside, hlandmark] at h
  | called call =>
    cases call with
    | sink => cases h
    | _ => rfl
  | emitted => rfl

end Session

namespace View

variable {κ : Type} {v v' v₁ v₂ v₃ : View κ} {x y : Session} {callback : Callback}
  {delivered : Bool}

/-- From `v` to `v'` nothing is told of any session. -/
def Quiet (v v' : View κ) : Prop :=
  ∃ entries, v'.history = v.history ++ entries ∧ ∀ entry ∈ entries, entry.isQuiet

namespace Quiet

theorem refl (v : View κ) : v.Quiet v := ⟨[], (List.append_nil _).symm, by simp⟩

theorem trans (h₁ : v₁.Quiet v₂) (h₂ : v₂.Quiet v₃) : v₁.Quiet v₃ := by
  obtain ⟨entries, hentries, hquiet⟩ := h₁
  obtain ⟨more, hmore, hquiet'⟩ := h₂
  exact ⟨entries ++ more, by rw [hmore, hentries, List.append_assoc],
    List.forall_mem_append.2 ⟨hquiet, hquiet'⟩⟩

theorem log {entry : Entry} (h : entry.isQuiet) : v.Quiet (v.log [entry]) :=
  ⟨[entry], rfl, List.forall_mem_singleton.2 h⟩

theorem tale (h : v.Quiet v') (x : Session) : x.tale v'.history = x.tale v.history := by
  obtain ⟨entries, hentries, hquiet⟩ := h
  have hnone : entries.filterMap x.word? = [] :=
    List.filterMap_eq_nil_iff.2 fun entry hentry => Session.word?_eq_none (hquiet entry hentry)
  rw [hentries, Session.tale, List.filterMap_append, hnone, List.append_nil, Session.tale]

end Quiet

theorem Noted.quiet (h : v.Noted v') : v.Quiet v' := by
  obtain ⟨connection, entries, hentries, rfl, -⟩ := h
  exact ⟨entries, rfl, fun entry hentry => Entry.isQuiet_of_isNote (hentries entry hentry).1⟩

theorem Kept.quiet (h : v.Kept v') : v.Quiet v' := h.1.quiet

theorem Eased.quiet (h : v.Eased v') : v.Quiet v' :=
  have hkept : { v with lockout := v'.lockout }.Kept v' := h
  hkept.quiet

theorem Asked.quiet {call : DriverCall} {outcome : Except Fault call.Reply}
    (h : v.Asked call outcome v') : v.Quiet v' := by
  obtain ⟨handle, -, hlogged⟩ := h
  exact (Quiet.log rfl).trans hlogged.noted.quiet

theorem Halted.quiet {kind : SessionKind} (h : v.Halted kind v') : v.Quiet v' := by
  cases h with
  | asked _ asked => exact asked.quiet
  | remove => exact .refl v

theorem Stopped.quiet {kind : SessionKind} (h : v.Stopped kind v') : v.Quiet v' := by
  obtain ⟨v₁, hkept, hhalted | ⟨-, hkept'⟩⟩ := h
  · exact hkept.quiet.trans hhalted.quiet
  · exact hkept.quiet.trans hkept'.quiet

/-! ## What a session is told -/

theorem tale_log (v : View κ) (x : Session) (entry : Entry) :
    x.tale (v.log [entry]).history = x.tale v.history ++ (x.word? entry).toList := by
  rw [View.log, Session.tale, List.filterMap_append, Session.tale]
  cases h : x.word? entry <;> simp [h]

/-- A session that is told something in its slot, by a sink that takes it. -/
theorem Delivered.tale_self (h : v.Delivered x callback delivered v') (hsink : x.sink.isSome)
    (hslot : v.slots.get x.kind = some x) (heard : x.Heard v'.history) :
    x.tale v'.history = x.tale v.history ++ [.told callback] ∧ delivered = true := by
  cases h with
  | nowhere hnone => simp [hnone] at hsink
  | @called sink outcome _ hsink kept =>
    refine ⟨?_, ?_⟩
    · rw [kept.quiet.tale x, tale_log]
      simp [Session.word?, hsink, hslot]
    · obtain ⟨entries, hentries, -⟩ := kept.quiet
      have hmisses := heard (.called (.sink sink callback) outcome v.slots (some x.id)) ?_
      · simpa [Session.misses, hsink] using hmisses
      · rw [hentries]
        exact List.mem_append_left _ (List.mem_append_right _ (List.mem_singleton_self _))

/-- What one session is told is not told on behalf of another. -/
theorem Delivered.tale_other (h : v.Delivered y callback delivered v') (hid : y.id ≠ x.id) :
    x.tale v'.history = x.tale v.history := by
  cases h with
  | nowhere => rfl
  | called _ kept =>
    rw [kept.quiet.tale x, tale_log]
    simp [Session.word?, hid]

theorem tale_enter (v : View κ) (x y : Session) (message : Bytes) :
    x.tale (v.enter y message).history = x.tale v.history := by
  have hword : x.word? (.published (y.startedEvent message) (v.slots.set y.kind (some y))) = none :=
    Session.word?_published_eq_none (show ("session_started" : Bytes) ∉ Session.fates by decide) _
  change x.tale (v.history ++ [_]) = _
  rw [Session.tale, List.filterMap_append, Session.tale]
  simp [hword]

theorem tale_leave (v : View κ) (x y : Session) :
    x.tale (v.leave y).history = x.tale v.history := by
  have hword : x.word? (.published y.removedEvent (v.slots.set y.kind none)) = none :=
    Session.word?_published_eq_none (show ("session_removed" : Bytes) ∉ Session.fates by decide) _
  change x.tale (v.history ++ [_]) = _
  rw [Session.tale, List.filterMap_append, Session.tale]
  simp [hword]

theorem tale_lockOut (v : View κ) (x : Session) (lockout : Lockout) (settings : Lockout.Settings) :
    x.tale (v.lockOut lockout settings).history =
      x.tale v.history ++
        if v.slots.get x.kind = some x ∧ x.kind = .authenticate then [.lockedOut] else [] := by
  have hpeerGone : lockout.enteredEvent settings ≠ x.peerGoneEvent := by
    intro h
    have hid : ("fingerprint_lockout_entered" : Bytes) = "session_peer_gone" := congrArg Event.id h
    exact absurd hid (by decide)
  have hmourned : (lockout.enteredEvent settings).id ≠ "caller_died" :=
    show ("fingerprint_lockout_entered" : Bytes) ≠ "caller_died" by decide
  rw [lockOut, tale_log, Session.word?]
  by_cases hslot : v.slots.get x.kind = some x
  · by_cases hkind : x.kind = .authenticate
    · rw [if_pos hslot, if_neg hpeerGone, if_pos ⟨rfl, hkind⟩, if_pos ⟨hslot, hkind⟩]
      rfl
    · rw [if_pos hslot, if_neg hpeerGone, if_neg fun h => hkind h.2, if_neg fun h => hmourned h.1,
        if_neg fun h => hkind h.2]
      rfl
  · rw [if_neg hslot, if_neg fun h => hslot h.1]
    rfl

/-- A session whose caller has died is not told so. -/
theorem tale_peerGone_self (hslot : v.slots.get x.kind = some x) :
    x.tale (v.log [.published x.peerGoneEvent v.slots]).history =
      x.tale v.history ++ [.peerGone] := by
  rw [tale_log]
  simp [Session.word?, hslot]

theorem tale_peerGone_other (hslot : v.slots.get y.kind = some y) (hne : x ≠ y) :
    x.tale (v.log [.published y.peerGoneEvent v.slots]).history = x.tale v.history := by
  have hword : x.word? (.published y.peerGoneEvent v.slots) = none := by
    rw [Session.word?]
    by_cases hheld : v.slots.get x.kind = some x
    · have hkind : x.kind ≠ y.kind := by
        intro hkind
        rw [hkind, hslot] at hheld
        exact hne (Option.some.inj hheld).symm
      -- Sessions of different kinds end with different events.
      have hpeerGone : y.peerGoneEvent ≠ x.peerGoneEvent := by
        intro h
        have hname : (y.kind.name : Bytes) = x.kind.name :=
          Option.some.inj (congrArg (Event.field? · "kind") h)
        revert hname hkind
        cases x.kind <;> cases y.kind <;> decide
      have hother : ∀ id ∈ (["fingerprint_lockout_entered", "caller_died"] : List Bytes),
          y.peerGoneEvent.id ≠ id :=
        show ∀ id ∈ _, ("session_peer_gone" : Bytes) ≠ id by decide
      rw [if_pos hheld, if_neg hpeerGone, if_neg fun h => hother _ (by simp) h.1,
        if_neg fun h => hother _ (by simp) h.1]
    · rw [if_neg hheld]
  rw [tale_log, hword]
  exact List.append_nil _

/-! ## How sessions end -/

theorem mourned_mem_tale {registrations : Nat} {slots : Slots}
    (h : .published (Host.callerDiedEvent x.caller registrations) slots ∈ v.history)
    (hslot : slots.get x.kind = some x) : .mourned ∈ x.tale v.history := by
  refine List.mem_filterMap.2 ⟨_, h, ?_⟩
  rw [Session.word?_callerDied, if_pos ⟨hslot, rfl⟩]

/-- How a session that is heard comes to its end. -/
theorem Parting.tale_self (h : v.Parting x v') (hsink : x.sink.isSome)
    (hslot : v.slots.get x.kind = some x)
    (heard : x.Heard v'.history) (hongoing : Word.Ongoing (x.tale v.history)) :
    Word.Ended (x.tale v'.history) := by
  cases h with
  | canceled kept halted told =>
    -- The last word is that it is cancelled. What the driver is asked before is not heard.
    have hslot₂ := (kept.framed.trans halted.framed).slots ▸ hslot
    obtain ⟨htale, -⟩ := told.tale_self hsink hslot₂ heard
    rw [htale, halted.quiet.tale x, kept.quiet.tale x]
    exact .told hongoing rfl
  | rejected _ kept told =>
    obtain ⟨htale, -⟩ := told.tale_self hsink (kept.framed.slots ▸ hslot) heard
    rw [htale, kept.quiet.tale x]
    exact .told hongoing rfl
  | died mourned hslots =>
    rw [tale_peerGone_self hslot]
    exact .callerDied hongoing (mourned_mem_tale mourned hslots)
  | asked told last eased stopped =>
    have hrest := eased.framed.trans stopped.framed
    obtain ⟨htale, hdelivered⟩ := told.tale_self hsink hslot (heard.mono fun _ => hrest.mem_history)
    rw [stopped.quiet.tale x, eased.quiet.tale x, htale]
    exact .told hongoing (last hdelivered)
  | unasked told last kept =>
    obtain ⟨htale, hdelivered⟩ :=
      told.tale_self hsink hslot (heard.mono fun _ => kept.framed.mem_history)
    rw [kept.quiet.tale x, htale]
    exact .told hongoing (last hdelivered)
  | lockedOut hkind told kept warned kept' stopped =>
    -- Three words are added: of the failure, of the lockout, and that it is told of it.
    have hend := kept'.framed.trans stopped.framed
    have hwarned := (lockOut_framed _ _ _).trans (warned.framed.trans hend)
    have hslot₂ := (told.framed.trans kept.framed).slots ▸ hslot
    obtain ⟨htold, -⟩ :=
      told.tale_self hsink hslot (heard.mono fun _ => (kept.framed.trans hwarned).mem_history)
    obtain ⟨hagain, -⟩ := warned.tale_self hsink hslot₂ (heard.mono fun _ => hend.mem_history)
    rw [stopped.quiet.tale x, kept'.quiet.tale x, hagain, tale_lockOut, if_pos ⟨hslot₂, hkind⟩,
      kept.quiet.tale x, htold, List.append_assoc, List.append_assoc]
    exact .lockedOut hongoing

/-- The end of one session is not told of another. -/
theorem Parting.tale_other (h : v.Parting y v') (hslot : v.slots.get y.kind = some y) (hne : x ≠ y)
    (hid : y.id ≠ x.id) : x.tale v'.history = x.tale v.history := by
  cases h with
  | canceled kept halted told => rw [told.tale_other hid, halted.quiet.tale x, kept.quiet.tale x]
  | rejected _ kept told => rw [told.tale_other hid, kept.quiet.tale x]
  | died => exact tale_peerGone_other hslot hne
  | asked told _ eased stopped => rw [stopped.quiet.tale x, eased.quiet.tale x, told.tale_other hid]
  | unasked told _ kept => rw [kept.quiet.tale x, told.tale_other hid]
  | lockedOut hkind told kept warned kept' stopped =>
    rw [stopped.quiet.tale x, kept'.quiet.tale x, warned.tale_other hid, tale_lockOut,
      kept.quiet.tale x, told.tale_other hid, kept.framed.slots, told.framed.slots]
    -- Only one session can be the active authentication.
    have hother : ¬(v.slots.get x.kind = some x ∧ x.kind = .authenticate) := by
      rintro ⟨hheld, hkind'⟩
      rw [hkind', ← hkind, hslot] at hheld
      exact hne (Option.some.inj hheld).symm
    rw [if_neg hother, List.append_nil]

end View

end Fingerprint
