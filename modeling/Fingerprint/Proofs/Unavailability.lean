import Fingerprint.Proofs.Performance
import Fingerprint.Proofs.Routing
import Fingerprint.Proofs.Wiring

/-!
# What happens where no driver is to be had

To start a session, or to end one at somebody's wish, a driver is acquired
first. That may come to nothing: there is no registry, or it hands out nothing
or fails, or the driver that it hands out fails to be linked, to be told where
to send events, or to open its device. By then the acquisition has a number, and
the driver may have been asked for as much as that. All else is as before, and
the operation gives up. It has looked at the slots, at most, and reports in an
event that there is no driver.

What is pending is stopped for one kind after the other, each with an
acquisition of its own. Since there is an enrollment or an authentication, but
not both, there is one acquisition all the same.

* `Host.Unobtainable`: no driver is to be had;
* `Host.NeedsDriver`: the operations that are in need of one;
* `Host.NeedsDriver.givesUp`: what is left of such an operation is its acquisition;
* `Attempt`, `Move.attempt`: what a driver was asked for in vain;
* `Record.Wired.left_alone`: all else is left alone.
-/

namespace Fingerprint

variable {ω κ α : Type} {host : Host ω κ} {s : System ω κ}

namespace Host

/-! ## Acquisitions that come to nothing -/

/-- A driver that was handed out under a number fails before it is taken into use. -/
inductive Refuses (host : Host ω κ) (handle : Handle) (number : Nat) (s : System ω κ) : Prop
  | unlinked {fault : Fault} {s' : System ω κ}
      (hlink : (host.driver handle (.linkToDeath number)).run s = (.error fault, s'))
  /-- It fails to be told where to send events. -/
  | mute {fault : Fault} {s₁ s' : System ω κ} (hsink : host.setup.hasEventSink)
      (hlink : (host.driver handle (.linkToDeath number)).run s = (.ok (), s₁))
      (hinit : (host.driver handle .init).run s₁ = (.error fault, s'))
  | unopened {fault : Fault} {s₁ s₂ s' : System ω κ}
      (hlink : (host.driver handle (.linkToDeath number)).run s = (.ok (), s₁))
      (hinit : if host.setup.hasEventSink then (host.driver handle .init).run s₁ = (.ok (), s₂) else s₂ = s₁)
      (hopen : (host.driver handle .openHal).run s₂ = (.error fault, s'))

/-- In a state, no driver is to be had. -/
inductive Unobtainable (host : Host ω κ) (s : System ω κ) : Prop
  | noRegistry (h : host.setup.hasRegistry = false)
  | failed {fault : Fault} {s' : System ω κ} (h : (host.answer .acquire).run s = (.error fault, s'))
  | nothing {s' : System ω κ} (h : (host.answer .acquire).run s = (.ok none, s'))
  | refused {handle : Handle} {s' : System ω κ} (h : (host.answer .acquire).run s = (.ok (some handle), s'))
      (hrefuses : host.Refuses handle (s'.connection.generation + 1)
        { s' with connection := { s'.connection with generation := s'.connection.generation + 1 } })

theorem run_connect_of_unopened {handle : Handle} {number : Nat} {s₁ : System ω κ} {fault : Fault}
    (hlink : (host.driver handle (.linkToDeath number)).run s = (.ok (), s₁))
    (hopen : ((host.openDevice handle).run s₁).1 = .error fault) :
    ((host.connect handle number).run s).1 = .ok false := by
  rw [connect, Op.run_bind, Op.run_attempt, hlink]
  dsimp only
  rw [Op.run_bind, Op.run_attempt, hopen]
  rfl

theorem Refuses.run_connect {handle : Handle} {number : Nat} (h : host.Refuses handle number s) :
    ((host.connect handle number).run s).1 = .ok false := by
  cases h with
  | unlinked hlink =>
    rw [connect, Op.run_bind, Op.run_attempt, hlink]
    rfl
  | @mute fault s₁ s' hsink hlink hinit =>
    have hfails : ((host.openDevice handle).run s₁).1 = .error fault := by
      rw [openDevice, if_pos hsink]
      exact congrArg Prod.fst (Op.run_bind_of_error (congrArg Prod.fst hinit) _)
    exact run_connect_of_unopened hlink hfails
  | @unopened fault s₁ s₂ s' hlink hinit hopen =>
    have hfails : ((host.openDevice handle).run s₁).1 = .error fault := by
      unfold openDevice
      -- Where events go nowhere, the device is opened at once.
      split at hinit
      · next hsink =>
        obtain rfl : _ = s₂ := congrArg Prod.snd hinit
        rw [if_pos hsink]
        refine (congrArg Prod.fst (Op.run_bind_of_ok (congrArg Prod.fst hinit) _)).trans ?_
        exact congrArg Prod.fst (Op.run_bind_of_error (congrArg Prod.fst hopen) _)
      · next hsink =>
        subst hinit
        rw [if_neg hsink]
        exact congrArg Prod.fst (Op.run_bind_of_error (congrArg Prod.fst hopen) _)
    exact run_connect_of_unopened hlink hfails

/-- Then an acquisition gives none. -/
theorem Unobtainable.run_acquire (h : host.Unobtainable s) (hnone : s.connection.handle = none) :
    (host.acquire.run s).1 = .ok none := by
  rw [acquire, Op.run_get_bind, hnone]
  dsimp only
  split
  · rfl
  · next hregistry =>
    cases h with
    | noRegistry h => exact absurd h (by simpa using hregistry)
    | failed h | nothing h =>
      rw [Op.run_bind, Op.run_attempt, h]
      rfl
    | @refused handle s' h hrefuses =>
      have hconnect := hrefuses.run_connect
      -- The number is given before the driver is asked for anything.
      rw [Op.run_bind, Op.run_attempt, h]
      change ((host.connect handle (s'.connection.generation + 1) >>= fun connected =>
        if connected then do return (← get).connection.handle else pure none).run _).1 = _
      rw [Op.run_bind_of_ok hconnect]
      rfl

/-! ## Operations that give up -/

/-- The operations that are in need of a driver. -/
inductive NeedsDriver (host : Host ω κ) : {α : Type} → Op ω κ α → Prop
  | startEnrollment (caller : CallerToken) (sink : Option SinkName) (request : EnrollRequest) :
      NeedsDriver host (host.startEnrollment caller sink request)
  | startAuthentication (caller : CallerToken) (sink : Option SinkName) (request : AuthenticateRequest) :
      NeedsDriver host (host.startAuthentication caller sink request)
  | startRemove (caller : CallerToken) (sink : Option SinkName) (request : RemoveRequest) :
      NeedsDriver host (host.startRemove caller sink request)
  | stopPendingOperations : NeedsDriver host host.stopPendingOperations
  /-- Removals are cancelled without one. -/
  | cancel {kind : SessionKind} (hkind : kind ≠ .remove) (caller : CallerToken) :
      NeedsDriver host (host.cancel kind caller)
  | stopEnrollment (caller : CallerToken) (notify : Bool) : NeedsDriver host (host.stopEnrollment caller notify)
  | stopAuthentication (caller : CallerToken) (notify : Bool) :
      NeedsDriver host (host.stopAuthentication caller notify)

/-- An operation that returns has done nothing, or has acquired a driver and then told of an event. -/
def GivesUp (host : Host ω κ) (op : Op ω κ α) (s : System ω κ) : Prop :=
  ∃ a s', op.run s = (.ok a, s') ∧
    (s' = s ∨ ∃ event, s' = ((host.publish event).run (host.acquire.run s).2).2)

/-- The result does not matter. -/
theorem GivesUp.discarded {op : Op ω κ α} (h : host.GivesUp op s) : host.GivesUp (do let _ ← op) s := by
  obtain ⟨a, s', hrun, hs'⟩ := h
  refine ⟨(), s', ?_, hs'⟩
  rw [Op.run_bind, hrun]
  rfl

theorem run_preempt_of_none {kind : SessionKind} (hslot : s.slots.get kind = none) :
    (host.preempt kind).run s = (.ok (), s) := by
  rw [preempt, Op.run_bind, run_active, hslot]
  rfl

section

variable (hnone : (host.acquire.run s).1 = .ok none)

include hnone

theorem givesUp_start {event : Event} {rest : Op ω κ Unit} :
    host.GivesUp (do if (← host.acquire).isNone then host.publish event else rest) s := by
  refine ⟨(), _, ?_, .inr ⟨event, rfl⟩⟩
  rw [Op.run_bind_of_ok hnone]
  rfl

theorem givesUp_stopSession (kind : SessionKind) (caller : CallerToken) (notify : Bool) :
    host.GivesUp (host.stopSession kind caller notify) s := by
  have hrun : (host.stopSession kind caller notify).run s = _ := Op.run_bind ..
  rw [run_active] at hrun
  cases hslot : s.slots.get kind with
  | none =>
    rw [hslot] at hrun
    exact ⟨false, s, hrun, .inl rfl⟩
  | some x =>
    rw [hslot] at hrun
    dsimp only at hrun
    split at hrun
    · exact ⟨false, s, hrun, .inl rfl⟩
    · rw [Op.run_bind_of_ok hnone] at hrun
      exact ⟨false, _, hrun, .inr ⟨_, rfl⟩⟩

theorem givesUp_preempt (kind : SessionKind) : host.GivesUp (host.preempt kind) s := by
  cases hslot : s.slots.get kind with
  | none => exact ⟨(), s, run_preempt_of_none hslot, .inl rfl⟩
  | some x =>
    have hrun : (host.preempt kind).run s = _ := Op.run_bind ..
    rw [run_active, hslot] at hrun
    obtain ⟨_, s', hstop, hs'⟩ := (givesUp_stopSession hnone kind x.caller true).discarded
    exact ⟨(), s', hrun.trans hstop, hs'⟩

/-- There is nothing to stop of one kind or of the other. -/
theorem givesUp_stopPendingOperations (hexclusive : s.slots.enroll = none ∨ s.slots.authenticate = none)
    (hslots : (host.acquire.run s).2.slots = s.slots) : host.GivesUp host.stopPendingOperations s := by
  rcases hexclusive with hslot | hslot
  · have hvacant : (host.preempt .enroll).run s = (.ok (), s) := run_preempt_of_none hslot
    obtain ⟨_, s', hrun, hs'⟩ := givesUp_preempt hnone .authenticate
    refine ⟨(), s', ?_, hs'⟩
    rw [stopPendingOperations, Op.run_bind, hvacant]
    exact hrun
  · obtain ⟨_, s', hrun, hs'⟩ := givesUp_preempt hnone .enroll
    -- No more than the connection is different by then.
    have hslot' : s'.slots.get .authenticate = none := by
      rcases hs' with rfl | ⟨event, rfl⟩
      · exact hslot
      · exact (congrArg Slots.authenticate hslots).trans hslot
    refine ⟨(), s', ?_, hs'⟩
    rw [stopPendingOperations, Op.run_bind, hrun]
    exact run_preempt_of_none hslot'

/-- An operation that is in need of a driver gives up without one. -/
theorem NeedsDriver.givesUp {op : Op ω κ α} (hop : host.NeedsDriver op)
    (hexclusive : s.slots.enroll = none ∨ s.slots.authenticate = none)
    (hslots : (host.acquire.run s).2.slots = s.slots) : host.GivesUp op s := by
  cases hop with
  | startEnrollment | startAuthentication | startRemove => exact givesUp_start hnone
  | stopPendingOperations => exact givesUp_stopPendingOperations hnone hexclusive hslots
  | @cancel kind hkind caller =>
    cases kind with
    | enroll | authenticate => exact (givesUp_stopSession hnone _ caller true).discarded
    | remove => exact absurd rfl hkind
  | stopEnrollment caller notify | stopAuthentication caller notify =>
    exact givesUp_stopSession hnone _ caller notify

end

end Host

/-! ## What is left -/

/-- What a driver is asked for by an acquisition under a number that comes to nothing. -/
inductive Attempt (sink : Bool) (number : Nat) : List Exchange → Prop
  /-- No driver was handed out, or none was asked for. -/
  | unasked : Attempt sink number []
  | unlinked (handle : Handle) (fault : Fault) : Attempt sink number [⟨handle, .linkToDeath number, .error fault⟩]
  | mute (handle : Handle) (fault : Fault) (hsink : sink = true) :
      Attempt sink number [⟨handle, .linkToDeath number, .ok ()⟩, ⟨handle, .init, .error fault⟩]
  | unopened (handle : Handle) (fault : Fault) :
      Attempt sink number
        (⟨handle, .linkToDeath number, .ok ()⟩ :: Journal.inits sink handle ++ [⟨handle, .openHal, .error fault⟩])

/-- A move of calls that leads from no driver to no driver is such an acquisition. -/
theorem Move.attempt {sink : Bool} {c c' : Connection} {calls : List Exchange}
    (hmove : Move sink c (calls.map .asked) c') (hnone : c.handle = none) (hnone' : c'.handle = none) :
    Attempt sink (c.generation + 1) calls := by
  have hsame {others : List Exchange} (h : calls.map Happening.asked = others.map .asked) : calls = others :=
    (List.map_inj_right fun _ _ => Happening.asked.inj).1 h
  generalize hmore : calls.map Happening.asked = more at hmove
  -- All other moves begin or end with a driver, or with somebody asking for a subject.
  cases hmove with
  | unlinked handle fault =>
    obtain rfl : calls = [_] := hsame hmore
    exact .unlinked handle fault
  | mute handle fault _ hsink =>
    obtain rfl : calls = [_, _] := hsame hmore
    exact .mute handle fault hsink
  | unopened handle fault =>
    rw [Journal.introduction_append] at hmore
    obtain rfl := hsame hmore
    exact .unopened handle fault
  | acquired | greeted => cases hnone'
  | asked _ hheld => simp [hnone] at hheld
  | requested => cases calls <;> cases hmore
  | applied _ _ _ _ hheld => simp [hnone] at hheld
  | lost hheld => exact absurd hnone hheld

namespace Record

/-- From one state to another, nothing has changed but what comes with an acquisition: no session, no
    registration, not the lockout. The store was asked for no change, no sink was called, and the driver was asked for
    nothing but what belongs to that acquisition. There is no driver, and no device. -/
structure LeftAlone (record : Record host) (journal : Journal host) (s s' : System ω κ) : Prop where
  slots : s'.slots = s.slots
  registrations : s'.liveness = s.liveness
  lockout : s'.lockout = s.lockout
  store : changes (record.history s'.world) = changes (record.history s.world)
  untold : tellings (record.history s'.world) = tellings (record.history s.world)
  attempted : ∃ calls, journal.calls s'.world = journal.calls s.world ++ calls ∧
    Attempt host.setup.hasEventSink (s.connection.generation + 1) calls
  disconnected : s'.connection.handle = none
  closed : s'.connection.device = 0

variable {record : Record host} {journal : Journal host}

namespace LeftAlone

theorem refl (hnone : s.connection.handle = none) (hclosed : s.connection.device = 0) :
    record.LeftAlone journal s s where
  slots := rfl
  registrations := rfl
  lockout := rfl
  store := rfl
  untold := rfl
  attempted := ⟨[], (List.append_nil _).symm, .unasked⟩
  disconnected := hnone
  closed := hclosed

/-- Observers may be told of that. -/
theorem published {s' : System ω κ} (h : record.LeftAlone journal s s') (event : Event) :
    record.LeftAlone journal s ((host.publish event).run s').2 where
  slots := h.slots
  registrations := h.registrations
  lockout := h.lockout
  store := Eq.trans (record.spared_published event s') h.store
  untold := by
    refine Eq.trans ?_ h.untold
    change tellings (record.history (host.observe event s')) = _
    rw [record.observe, tellings_append]
    exact List.append_nil _
  attempted := by
    obtain ⟨calls, hcalls, hattempt⟩ := h.attempted
    exact ⟨calls, (journal.observe event s').trans hcalls, hattempt⟩
  disconnected := h.disconnected
  closed := h.closed

end LeftAlone

/-- An acquisition that comes to nothing asks a driver for what belongs to it, and leaves no device open. -/
theorem Wired.attempted_by_acquire (hs : record.Wired s) (hspares : host.SparesConnection)
    (journal : Journal host) (hnone : s.connection.handle = none)
    (hnone' : (host.acquire.run s).2.connection.handle = none) :
    (∃ calls, journal.calls (host.acquire.run s).2.world = journal.calls s.world ++ calls ∧
      Attempt host.setup.hasEventSink (s.connection.generation + 1) calls) ∧
      (host.acquire.run s).2.connection.device = 0 := by
  -- A connection without a driver is closed, before the acquisition and after it.
  obtain ⟨timeline, hsettled⟩ := hs.exists_settled hspares journal
  obtain ⟨_, -, -, hsame | ⟨calls, hmore, hmove⟩⟩ := journal.yields_acquire_of_none hnone s rfl
  · have hcalls : journal.calls (host.acquire.run s).2.world = journal.calls s.world := congrArg Journal.Wire.calls hsame
    have hconnection : (host.acquire.run s).2.connection = s.connection := congrArg Journal.Wire.connection hsame
    refine ⟨⟨[], hcalls.trans (List.append_nil _).symm, .unasked⟩, ?_⟩
    rw [hconnection]
    exact hsettled.closed hnone
  · exact ⟨⟨calls, hmore, hmove.attempt hnone hnone'⟩, (hsettled.move hmove).closed hnone'⟩

/-- It leaves all else alone. -/
theorem Wired.left_alone_by_acquire (hs : record.Wired s) (hspares : host.SparesConnection)
    (hstore : record.SparesStore) (hnone : s.connection.handle = none) (hnothing : (host.acquire.run s).1 = .ok none) :
    record.LeftAlone journal s (host.acquire.run s).2 := by
  obtain ⟨found, hfound, hhandle, ⟨hnoted, -⟩, -⟩ := record.yields_acquire _ s rfl
  obtain rfl : none = found := Except.ok.inj (hnothing.symm.trans hfound)
  obtain ⟨hattempted, hclosed⟩ := hs.attempted_by_acquire hspares journal hnone hhandle.symm
  obtain ⟨told, hhistory, huntold⟩ := hnoted.quiet.told
  obtain ⟨connection, entries, -, hview, -⟩ := hnoted
  exact
    { slots := congrArg View.slots hview
      registrations := congrArg View.liveness hview
      lockout := congrArg View.lockout hview
      store := hstore.pervasive.acquire s
      untold := by
        change record.history _ = record.history s.world ++ told at hhistory
        rw [hhistory, tellings_append, huntold, List.append_nil]
      attempted := hattempted
      disconnected := hhandle.symm
      closed := hclosed }

/-- Where no driver is to be had, every operation that is in need of one returns, and leaves all else alone. -/
theorem Wired.left_alone (hs : record.Wired s) (hspares : host.SparesConnection) (hstore : record.SparesStore)
    (journal : Journal host) (hnone : s.connection.handle = none) (hunobtainable : host.Unobtainable s)
    {op : Op ω κ α} (hop : host.NeedsDriver op) :
    ∃ a s', op.run s = (.ok a, s') ∧ record.LeftAlone journal s s' := by
  have hnothing := hunobtainable.run_acquire hnone
  have hacquired : record.LeftAlone journal s (host.acquire.run s).2 :=
    hs.left_alone_by_acquire hspares hstore hnone hnothing
  obtain ⟨a, s', hrun, hs'⟩ := hop.givesUp hnothing hs.sound.exclusive hacquired.slots
  refine ⟨a, s', hrun, ?_⟩
  rcases hs' with rfl | ⟨event, rfl⟩
  · obtain ⟨timeline, hsettled⟩ := hs.exists_settled hspares journal
    exact .refl hnone (hsettled.closed hnone)
  · exact hacquired.published event

end Record

/-! ## A driver that has died -/

/-- What a driver is asked for, with what it answers. -/
def Entry.exchange? : Entry → Option Exchange
  | called (.driver handle call) outcome _ _ => some ⟨handle, call, outcome⟩
  | _ => none

namespace Ledger

variable (setup : Setup) (rule : (call : Call) → Except Fault call.Reply)

/-- The calls of drivers that the ledger says of. -/
def journal : Journal (Ledger.host setup rule) where
  calls := List.filterMap Entry.exchange?
  observe event s := by
    change List.filterMap Entry.exchange? (s.world ++ [_]) = _
    rw [List.filterMap_append]
    exact List.append_nil _
  acquire s := by
    rw [run_answer]
    refine ⟨rfl, ?_⟩
    rw [List.filterMap_append]
    exact List.append_nil _
  driver handle call s := by
    rw [run_answer]
    exact ⟨rfl, List.filterMap_append⟩

theorem sparesConnection : (Ledger.host setup rule).SparesConnection where
  sink name callback s := by
    rw [run_answer]
    exact .of_eq rfl
  client task := task.elim

theorem wired_perform (tasks : List (Task Empty)) : (record setup rule).Wired (perform setup rule tasks) :=
  List.foldlRecOn tasks _ (.fresh rfl) fun _ h task _ => h.performed task

/-- Everything is accepted, but that a driver can be linked only once. -/
def mortal : (call : Call) → Except Fault call.Reply
  | .driver _ (.linkToDeath number) => if number = 1 then .ok () else .error (.plain "gone")
  | call => obliging call

end Ledger

/-- The driver has died in the course of an enrollment. An authentication, which is to end that, finds no other. -/
theorem Record.Wired.left_alone_after_death :
    let host := Ledger.host {} Ledger.mortal
    let s := Ledger.perform {} Ledger.mortal [.startEnrollment 1 (some "a") {}, .driverDied 1]
    s.slots.enroll.isSome ∧ s.connection.handle = none ∧
      ∃ s', (host.startAuthentication 2 (some "b") {}).run s = (.ok (), s') ∧
        (Ledger.record {} Ledger.mortal).LeftAlone (Ledger.journal {} Ledger.mortal) s s' := by
  intro host s
  have hrefused : host.Unobtainable s := by
    have hhanded : (host.answer .acquire).run s = (.ok (some 0), _) := Ledger.run_answer _ _ _ _
    exact .refused hhanded (.unlinked (Ledger.run_answer _ _ _ _))
  obtain ⟨_, s', hrun, halone⟩ := (Ledger.wired_perform {} Ledger.mortal
    [.startEnrollment 1 (some "a") {}, .driverDied 1]).left_alone (Ledger.sparesConnection _ _)
      (Ledger.sparesStore _ _) (Ledger.journal _ _) rfl hrefused (.startAuthentication 2 (some "b") {})
  exact ⟨rfl, rfl, s', hrun, halone⟩

end Fingerprint
