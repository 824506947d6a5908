import Fingerprint.Connection
import Fingerprint.Proofs.Timeline
import Fingerprint.Proofs.Triple

/-!
# How requests move a connection

Drivers and the registry leave the connection alone while they are asked. Of
the calls of drivers the world of a host keeps a journal. Then whatever is
requested of a connection changes it in moves, and the calls that the journal
has in addition afterwards are what happens in these.

* `Journal`: what the world of a host remembers;
* `Journal.Wire`: the connection, with the journal;
* `Journal.Moved`: a connection has changed in moves;
* `Journal.yields_acquire`, `yields_forward`, `yields_query`,
  `yields_setActiveSubject`: what requests do.
-/

namespace Fingerprint

variable {ω κ α β : Type} {host : Host ω κ}

/-- What the world of a host remembers of the calls of drivers, if neither a driver nor the
    registry turns to the connection before it answers. -/
structure Journal (host : Host ω κ) where
  calls : ω → List Exchange
  observe : ∀ (event : Event) (s : System ω κ), calls (host.observe event s) = calls s.world
  acquire : ∀ s : System ω κ,
    let s' := ((host.answer .acquire).run s).2
    s'.connection = s.connection ∧ calls s'.world = calls s.world
  driver : ∀ (handle : Handle) (call : DriverCall) (s : System ω κ),
    let result := (host.answer (.driver handle call)).run s
    result.2.connection = s.connection ∧
      calls result.2.world = calls s.world ++ [⟨handle, call, result.1⟩]

namespace Journal

/-- The connection, and the calls of drivers so far. -/
structure Wire where
  connection : Connection
  calls : List Exchange

/-- More calls. -/
def Wire.log (w : Wire) (calls : List Exchange) : Wire := { w with calls := w.calls ++ calls }

variable (journal : Journal host)

def wire (s : System ω κ) : Wire := ⟨s.connection, journal.calls s.world⟩

/-- From one wire to another, the connection has changed in moves. -/
def Moved (host : Host ω κ) (w w' : Wire) : Prop :=
  ∃ calls, w'.calls = w.calls ++ calls ∧
    Moves host.setup.hasEventSink w.connection (calls.map .asked) w'.connection

theorem Moved.refl (w : Wire) : Moved host w w := ⟨[], (List.append_nil _).symm, .refl⟩

theorem Moved.trans {w w' w'' : Wire} (h : Moved host w w') (h' : Moved host w' w'') :
    Moved host w w'' := by
  obtain ⟨calls, hcalls, hmoves⟩ := h
  obtain ⟨more, hmore, hmoves'⟩ := h'
  refine ⟨calls ++ more, by rw [hmore, hcalls, List.append_assoc], ?_⟩
  rw [List.map_append]
  exact hmoves.trans hmoves'

variable (w : Wire)

/-! ## Calls -/

theorem yields_publish (event : Event) :
    Op.Yields journal.wire w (host.publish event) fun _ w' => w' = w := by
  rintro s rfl
  refine ⟨(), rfl, ?_⟩
  change (⟨s.connection, journal.calls (host.observe event s)⟩ : Wire) = _
  rw [journal.observe]
  rfl

theorem yields_onConnection (f : Connection → Connection) :
    Op.Yields journal.wire w (Host.onConnection f) fun _ w' =>
      w' = { w with connection := f w.connection } := by
  rintro s rfl
  exact ⟨(), rfl, rfl⟩

theorem ensures_answer_acquire :
    Op.Ensures journal.wire w (host.answer .acquire) fun _ w' => w' = w := by
  rintro s rfl
  obtain ⟨hconnection, hcalls⟩ := journal.acquire s
  rw [wire, wire, hconnection, hcalls]

theorem ensures_driver (handle : Handle) (call : DriverCall) :
    Op.Ensures journal.wire w (host.driver handle call) fun outcome w' =>
      w' = w.log [⟨handle, call, outcome⟩] := by
  rintro s rfl
  obtain ⟨hconnection, hcalls⟩ := journal.driver handle call s
  change wire journal ((host.answer (.driver handle call)).run s).2 = _
  rw [wire, hconnection, hcalls]
  rfl

variable {w}

/-- A guarded request does what the request does. -/
theorem yields_guarded {operation : Bytes} {request : Op ω κ α} {post : Except Fault α → Wire → Prop}
    (h : Op.Ensures journal.wire w request post) :
    Op.Yields journal.wire w (host.guarded operation request) fun _ w' => ∃ outcome, post outcome w' := by
  refine h.attempt.andThen fun outcome w' hw' => ?_
  cases outcome with
  | ok reply => exact Op.yields_pure ⟨_, hw'⟩
  | error fault =>
    refine (journal.yields_publish w' _).andThen fun _ w'' hw'' => Op.yields_pure ⟨.error fault, ?_⟩
    rwa [hw'']

theorem yields_judge (operation : Bytes) (reply : Except DriverStatus Int) :
    Op.Yields journal.wire w (host.judge operation reply) fun _ w' => w' = w := by
  cases reply with
  | error status => exact Op.yields_pure rfl
  | ok code =>
    refine Op.ensures_ite (fun _ => Op.yields_pure rfl) fun _ => ?_
    exact (journal.yields_publish w _).andThen fun _ w' hw' => Op.yields_pure hw'

theorem yields_applyActiveSubject (handle : Handle) (active : ActiveSubject) :
    Op.Yields journal.wire w (host.applyActiveSubject handle active) fun _ w' => ∃ outcome,
      w' = w.log [⟨handle, .setActiveSubject active.subject active.storage, outcome⟩] := by
  refine (journal.yields_guarded (journal.ensures_driver w handle _)).andThen fun reply w₁ h₁ => ?_
  refine (journal.yields_judge _ reply).mono fun _ w₂ h₂ => ?_
  rwa [h₂]

/-! ## Acquiring the driver -/

/-- The driver is told the subject that was last asked for, if there is one. -/
theorem yields_reapply (handle : Handle) :
    Op.Yields journal.wire w (host.reapply handle) fun _ w' =>
      (w.connection.activeSubject = none → w' = w) ∧
        ∀ active, w.connection.activeSubject = some active → ∃ outcome status,
          w' = ⟨{ w.connection with lastApplied := status },
            w.calls ++ [⟨handle, .setActiveSubject active.subject active.storage, outcome⟩]⟩ := by
  refine Op.ensures_get fun s hs => ?_
  have hactive : w.connection.activeSubject = s.connection.activeSubject :=
    congrArg (fun w => w.connection.activeSubject) hs.symm
  cases hsubject : s.connection.activeSubject with
  | none =>
    rw [hsubject] at hactive
    refine Op.yields_pure ⟨fun _ => rfl, fun active hsome => ?_⟩
    rw [hactive] at hsome
    cases hsome
  | some active =>
    rw [hsubject] at hactive
    refine (journal.yields_applyActiveSubject handle active).andThen fun status w₁ h₁ => ?_
    obtain ⟨outcome, rfl⟩ := h₁
    refine (journal.yields_onConnection _ _).mono fun _ w₂ h₂ => ⟨fun hnone => ?_, fun other hother => ?_⟩
    · rw [hactive] at hnone
      cases hnone
    · rw [hactive] at hother
      cases hother
      exact ⟨outcome, status, h₂⟩

/-- The calls by which a driver is told where to send events. -/
def inits (sink : Bool) (handle : Handle) : List Exchange :=
  if sink then [⟨handle, .init, .ok ()⟩] else []

theorem introduction_append (sink : Bool) (handle : Handle) (number : Nat) (last : Exchange) :
    introduction sink handle number ++ [.asked last] =
      (⟨handle, .linkToDeath number, .ok ()⟩ :: inits sink handle ++ [last]).map .asked := by
  cases sink <;> rfl

/-- The device of a driver is opened, or there is a fault on the way. -/
theorem ensures_openDevice (handle : Handle) :
    Op.Ensures journal.wire w (host.openDevice handle) fun outcome w' =>
      match outcome with
      | .ok _ => ∃ device, w' = ⟨{ w.connection with device },
          w.calls ++ (inits host.setup.hasEventSink handle ++ [⟨handle, .openHal, .ok device⟩])⟩
      | .error fault =>
        host.setup.hasEventSink = true ∧ w' = w.log [⟨handle, .init, .error fault⟩] ∨
          w' = w.log (inits host.setup.hasEventSink handle ++ [⟨handle, .openHal, .error fault⟩]) := by
  have hopen (w₁ : Wire) :
      Op.Ensures journal.wire w₁ (do
        let device ← host.driver handle .openHal
        Host.onConnection ({ · with device })) fun outcome w' =>
          match outcome with
          | .ok _ => ∃ device, w' = ⟨{ w₁.connection with device }, w₁.calls ++ [⟨handle, .openHal, .ok device⟩]⟩
          | .error fault => w' = w₁.log [⟨handle, .openHal, .error fault⟩] := by
    refine Op.ensures_bind ((journal.ensures_driver w₁ handle .openHal).mono fun outcome w₂ h₂ => ?_)
    subst h₂
    cases outcome with
    | error fault => exact rfl
    | ok device =>
      dsimp only
      refine Op.Ensures.mono (journal.yields_onConnection _ _) fun outcome w₃ => ?_
      rintro ⟨_, rfl, rfl⟩
      exact ⟨device, rfl⟩
  refine Op.ensures_ite (fun hsink => ?_) fun hsink => ?_
  · refine Op.ensures_bind ((journal.ensures_driver w handle .init).mono fun outcome w₁ h₁ => ?_)
    subst h₁
    cases outcome with
    | error fault => exact .inl ⟨hsink, rfl⟩
    | ok _ =>
      refine (hopen _).mono fun outcome w₂ h₂ => ?_
      rw [inits, if_pos hsink]
      cases outcome with
      | error fault => exact .inr (h₂.trans (congrArg _ (List.append_assoc ..)))
      | ok _ =>
        obtain ⟨device, rfl⟩ := h₂
        exact ⟨device, congrArg _ (List.append_assoc ..)⟩
  · refine (hopen w).mono fun outcome w₂ h₂ => ?_
    rw [inits, if_neg hsink]
    cases outcome with
    | error fault => exact .inr h₂
    | ok _ => exact h₂

/-- A driver that was handed out is taken into use, or else refused, in one move. -/
theorem yields_connect {c : Connection} {calls : List Exchange} (hnone : c.handle = none) (handle : Handle) :
    Op.Yields journal.wire ⟨{ c with generation := c.generation + 1 }, calls⟩
      (host.connect handle (c.generation + 1)) fun connected w' =>
        (connected = false → w'.connection.handle = none) ∧
          ∃ more, w'.calls = calls ++ more ∧
            Move host.setup.hasEventSink c (more.map .asked) w'.connection := by
  refine (journal.ensures_driver _ handle (.linkToDeath (c.generation + 1))).attempt.andThen
    fun outcome w₁ h₁ => ?_
  subst h₁
  cases outcome with
  | error fault =>
    refine (journal.yields_publish _ _).andThen fun _ w₂ h₂ => Op.yields_pure ?_
    subst h₂
    exact ⟨fun _ => hnone, _, rfl, .unlinked handle fault hnone⟩
  | ok linked =>
    cases linked
    refine (journal.ensures_openDevice handle).attempt.andThen fun outcome w₂ h₂ => ?_
    cases outcome with
    | error fault =>
      refine (journal.yields_publish w₂ _).andThen fun _ w₃ h₃ => ?_
      refine (journal.yields_onConnection w₃ _).andThen fun _ w₄ h₄ => Op.yields_pure ?_
      subst h₃ h₄
      rcases h₂ with ⟨hsink, rfl⟩ | rfl
      · exact ⟨fun _ => hnone, _, List.append_assoc .., .mute handle fault hnone hsink⟩
      · refine ⟨fun _ => hnone, _, List.append_assoc .., ?_⟩
        have hmove : Move host.setup.hasEventSink c _ _ := .unopened handle fault hnone
        rw [introduction_append] at hmove
        exact hmove
    | ok _ =>
      obtain ⟨device, rfl⟩ := h₂
      refine (journal.yields_onConnection _ _).andThen fun _ w₃ h₃ => Op.ensures_get fun s _ => ?_
      have hrest : Op.Yields journal.wire w₃ (do
          host.publish (Host.connectedEvent (c.generation + 1) s.connection.device)
          host.reapply handle
          return true) fun connected w' =>
            (connected = false → w'.connection.handle = none) ∧
              ∃ more, w'.calls = calls ++ more ∧
                Move host.setup.hasEventSink c (more.map .asked) w'.connection := by
        subst h₃
        refine (journal.yields_publish _ _).andThen fun _ w₄ h₄ => ?_
        subst h₄
        refine (journal.yields_reapply handle).andThen fun _ w₅ h₅ => Op.yields_pure ⟨nofun, ?_⟩
        obtain ⟨hnothing, htold⟩ := h₅
        have hshake : handshake host.setup.hasEventSink handle (c.generation + 1) device = _ :=
          introduction_append _ _ _ _
        rcases c.activeSubject.eq_none_or_eq_some with hactive | ⟨active, hactive⟩
        · obtain rfl := hnothing hactive
          refine ⟨_, List.append_assoc .., ?_⟩
          have hmove : Move host.setup.hasEventSink c _ _ := .acquired handle device hnone hactive
          rw [hshake] at hmove
          exact hmove
        · obtain ⟨outcome, status, rfl⟩ := htold active hactive
          refine ⟨_, by dsimp only [Wire.log]; rw [List.append_assoc, List.append_assoc], ?_⟩
          have hmove : Move host.setup.hasEventSink c _ _ :=
            .greeted handle device active outcome status hnone hactive
          rw [hshake] at hmove
          rw [← List.append_assoc, List.map_append]
          exact hmove
      refine Op.ensures_ite (fun _ => ?_) fun _ => hrest
      refine (journal.yields_publish w₃ _).andThen fun _ w₄ h₄ => ?_
      rwa [h₄]

/-- Where none is in use, acquiring the driver takes one move at most, and gives the one that is in use
    then. -/
theorem yields_acquire_of_none (hhandle : w.connection.handle = none) :
    Op.Yields journal.wire w host.acquire fun found w' =>
      found = w'.connection.handle ∧
        (w' = w ∨ ∃ more, w'.calls = w.calls ++ more ∧
          Move host.setup.hasEventSink w.connection (more.map .asked) w'.connection) := by
  refine Op.ensures_get fun s hs => ?_
  obtain rfl := hs
  have hnone : Op.Yields journal.wire (journal.wire s) (pure none) fun found w' =>
      found = w'.connection.handle ∧
        (w' = journal.wire s ∨ ∃ more, w'.calls = (journal.wire s).calls ++ more ∧
          Move host.setup.hasEventSink s.connection (more.map .asked) w'.connection) :=
    Op.yields_pure ⟨hhandle.symm, .inl rfl⟩
  rw [show s.connection.handle = none from hhandle]
  refine Op.ensures_ite (fun _ => hnone) fun _ => ?_
  refine (journal.ensures_answer_acquire _).attempt.andThen fun outcome w₁ h₁ => ?_
  subst h₁
  rcases outcome with fault | _ | handle
  · refine (journal.yields_publish _ _).andThen fun _ w₂ h₂ => ?_
    rw [h₂]
    exact hnone
  · exact hnone
  · refine Op.ensures_get fun s₁ hs₁ => ?_
    have hgeneration : s₁.connection.generation = s.connection.generation :=
      congrArg (fun w => w.connection.generation) hs₁
    rw [hgeneration]
    refine (journal.yields_onConnection _ _).andThen fun _ w₂ h₂ => ?_
    subst h₂
    refine (journal.yields_connect hhandle handle).andThen fun connected w₃ h₃ => ?_
    obtain ⟨hrefused, hmove⟩ := h₃
    cases connected with
    | false => exact Op.yields_pure ⟨(hrefused rfl).symm, .inr hmove⟩
    | true =>
      refine Op.ensures_get fun s₃ hs₃ => Op.yields_pure ⟨?_, .inr hmove⟩
      exact congrArg (fun w => w.connection.handle) hs₃

/-- Acquiring the driver gives the one that is in use then. -/
theorem yields_acquire :
    Op.Yields journal.wire w host.acquire fun found w' =>
      found = w'.connection.handle ∧ Moved host w w' := by
  cases hhandle : w.connection.handle with
  | some handle =>
    rintro s rfl
    rw [Host.run_acquire_of_handle host hhandle]
    exact ⟨_, rfl, hhandle.symm, .refl _⟩
  | none =>
    refine (journal.yields_acquire_of_none hhandle).mono fun found w' h => ⟨h.1, ?_⟩
    obtain ⟨-, rfl | ⟨more, hmore, hmove⟩⟩ := h
    · exact .refl w'
    · exact ⟨more, hmore, .single hmove⟩

/-! ## Requests -/

/-- The driver in use is asked for an operation. -/
theorem ensures_ask {handle : Handle} (hheld : w.connection.handle = some handle) {call : DriverCall}
    (hop : call.isOperation) :
    Op.Ensures journal.wire w (host.driver handle call) fun _ w' => Moved host w w' := by
  refine (journal.ensures_driver w handle call).mono fun outcome w' hw' => ?_
  subst hw'
  exact ⟨[⟨handle, call, outcome⟩], rfl, .single (.asked _ hheld hop)⟩

theorem yields_request {operation : Bytes} {ask : Handle → Op ω κ α}
    (hask : ∀ handle w, w.connection.handle = some handle →
      Op.Ensures journal.wire w (ask handle) fun _ w' => Moved host w w') :
    Op.Yields journal.wire w (host.request operation ask) fun _ w' => Moved host w w' := by
  refine journal.yields_acquire.andThen fun found w₁ h₁ => ?_
  obtain ⟨hfound, hmoved⟩ := h₁
  cases found with
  | none =>
    have hunavailable : Op.Yields journal.wire w₁ (host.unavailable operation) fun _ w' => w' = w₁ :=
      (journal.yields_publish w₁ _).andThen fun _ w₂ h₂ => Op.yields_pure h₂
    refine hunavailable.andThen fun status w₂ h₂ => Op.yields_pure ?_
    rwa [h₂]
  | some handle =>
    refine (journal.yields_guarded (hask handle w₁ hfound.symm)).mono fun _ w₂ h₂ => ?_
    obtain ⟨_, hmore⟩ := h₂
    exact hmoved.trans hmore

theorem yields_forward {operation : Bytes} {ask : Handle → Op ω κ Int}
    (hask : ∀ handle w, w.connection.handle = some handle →
      Op.Ensures journal.wire w (ask handle) fun _ w' => Moved host w w') :
    Op.Yields journal.wire w (host.forward operation ask) fun _ w' => Moved host w w' := by
  refine (journal.yields_request hask).andThen fun reply w₁ h₁ => ?_
  refine (journal.yields_judge operation reply).mono fun _ w₂ h₂ => ?_
  rwa [h₂]

theorem yields_query {operation : Bytes} {ask : Handle → Op ω κ UInt64}
    (hask : ∀ handle w, w.connection.handle = some handle →
      Op.Ensures journal.wire w (ask handle) fun _ w' => Moved host w w') :
    Op.Yields journal.wire w (host.query operation ask) fun _ w' => Moved host w w' := by
  refine (journal.yields_request hask).andThen fun reply w₁ h₁ => ?_
  cases reply <;> exact Op.yields_pure h₁

/-- A subject is asked for. The driver in use is told it; one that is acquired on the occasion is
    told it in the course of that. -/
theorem yields_setActiveSubject (subject : Int32) (storage : Bytes) :
    Op.Yields journal.wire w (host.setActiveSubject subject storage) fun _ w' =>
      ∃ more, w'.calls = w.calls ++ more ∧
        Moves host.setup.hasEventSink w.connection (.requested ⟨subject, storage⟩ :: more.map .asked)
          w'.connection := by
  refine (journal.yields_onConnection w _).andThen fun _ w₁ h₁ => Op.ensures_get fun s hs => ?_
  subst h₁
  have hhandle : s.connection.handle = w.connection.handle := congrArg (fun w => w.connection.handle) hs
  cases hheld : s.connection.handle with
  | some handle =>
    rw [hheld, eq_comm] at hhandle
    refine (journal.yields_reapply handle).andThen fun _ w₂ h₂ => Op.ensures_get fun _ _ => ?_
    obtain ⟨outcome, status, rfl⟩ := h₂.2 ⟨subject, storage⟩ rfl
    exact Op.yields_pure ⟨_, rfl, .single (.applied handle ⟨subject, storage⟩ outcome status hhandle)⟩
  | none =>
    rw [hheld, eq_comm] at hhandle
    have hrequested : Move host.setup.hasEventSink w.connection [.requested ⟨subject, storage⟩] _ :=
      .requested ⟨subject, storage⟩ hhandle
    refine journal.yields_acquire.andThen fun found w₂ h₂ => ?_
    obtain ⟨-, more, hmore, hmoves⟩ := h₂
    have hmoved : ∃ more, w₂.calls = w.calls ++ more ∧
        Moves host.setup.hasEventSink w.connection (.requested ⟨subject, storage⟩ :: more.map .asked)
          w₂.connection :=
      ⟨more, hmore, (Moves.single hrequested).trans hmoves⟩
    refine Op.ensures_ite (fun _ => ?_) fun _ => Op.ensures_get fun _ _ => Op.yields_pure hmoved
    refine (journal.yields_publish w₂ _).andThen fun _ w₃ h₃ => Op.yields_pure ?_
    rwa [h₃]

end Journal

end Fingerprint
