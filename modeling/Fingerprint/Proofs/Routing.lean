import Fingerprint.Proofs.Run
import Fingerprint.Proofs.Tale

/-!
# Where events of the driver lead

An event of the driver is handed to the first session there is among those of
its kinds, and to nobody else. Nothing but the event, and whether the sink has
taken it, says whether that session leaves its slot, and no other slot changes.

* `Telling`, `tellings`: what sinks were called with, and on whose behalf;
* `DriverEvent.ends`: when a session ends with an event;
* `View.Reached.slots_eq`, `View.Reached.tellings_eq`: what becomes of the
  session, and what is told meanwhile;
* `DriverEvent.Leads`, `Record.leads_dispatch`: this for every event.
-/

namespace Fingerprint

/-- What a sink was called with, on behalf of which session, and whether it has taken that. -/
structure Telling where
  sink : SinkName
  callback : Callback
  speaker : Option Nat
  taken : Bool
  deriving DecidableEq, Repr

namespace Entry

/-- What is told to a sink. -/
def telling? : Entry → Option Telling
  | called (.sink sink callback) outcome _ speaker => some ⟨sink, callback, speaker, outcome.isOk⟩
  | _ => none

theorem telling?_eq_none {entry : Entry} (h : entry.isQuiet) : entry.telling? = none := by
  cases entry with
  | published | emitted => rfl
  | called call =>
    cases call with
    | sink => cases h
    | _ => rfl

end Entry

/-- What is told to sinks, oldest first. -/
def tellings (history : List Entry) : List Telling := history.filterMap Entry.telling?

theorem tellings_append (entries more : List Entry) : tellings (entries ++ more) = tellings entries ++ tellings more :=
  List.filterMap_append

/-- What is told to the sink of a session, if it has one. -/
def Session.told (x : Session) (callback : Callback) (taken : Bool) : List Telling :=
  x.sink.toList.map fun sink => ⟨sink, callback, some x.id, taken⟩

namespace DriverEvent

/-- Whether a session ends with an event, by whether its sink has taken it. -/
def ends : DriverEvent → (delivered : Bool) → Bool
  | enrollResult _ _ _ remaining, delivered => remaining = 0 || !delivered
  | acquired .., delivered => !delivered
  | authenticated .., _ | error .., _ => true
  | removed _ id _, delivered => id = 0 || !delivered
  | enumerate .., _ => false

/-- A session ends with the last that it is told, and when it cannot be told. -/
theorem ends_eq {event : DriverEvent} {callback : Callback} (h : event.callback? = some callback) (delivered : Bool) :
    event.ends delivered = (callback.isTerminal || !delivered) := by
  cases event <;> cases h <;> rfl

end DriverEvent

namespace View

variable {κ : Type} {v v' v₁ v₂ v₃ : View κ} {x : Session} {callback : Callback} {delivered : Bool}

/-! ## What is told -/

/-- From `v` to `v'` this is told to sinks, and no more. -/
def Told (v v' : View κ) (told : List Telling) : Prop :=
  ∃ entries, v'.history = v.history ++ entries ∧ tellings entries = told

theorem Told.trans {told more : List Telling} (h : v₁.Told v₂ told) (h' : v₂.Told v₃ more) :
    v₁.Told v₃ (told ++ more) := by
  obtain ⟨entries, hentries, rfl⟩ := h
  obtain ⟨entries', hentries', rfl⟩ := h'
  exact ⟨entries ++ entries', by rw [hentries', hentries, List.append_assoc], tellings_append ..⟩

theorem Quiet.told (h : v.Quiet v') : v.Told v' [] := by
  obtain ⟨entries, hentries, hquiet⟩ := h
  exact ⟨entries, hentries, List.filterMap_eq_nil_iff.2 fun entry hentry => Entry.telling?_eq_none (hquiet entry hentry)⟩

/-- What comes before or after in silence makes no difference. -/
theorem Told.between {told : List Telling} (h₁ : v.Told v₁ []) (h : v₁.Told v₂ told) (h₂ : v₂.Told v' []) :
    v.Told v' told := by
  have htold := (h₁.trans h).trans h₂
  rwa [List.nil_append, List.append_nil] at htold

theorem Delivered.told (h : v.Delivered x callback delivered v') : v.Told v' (x.told callback delivered) := by
  cases h with
  | nowhere hsink => exact ⟨[], (List.append_nil _).symm, by rw [Session.told, hsink]; rfl⟩
  | @called sink outcome _ hsink kept =>
    have hlog : v.Told (v.log [.called (.sink sink callback) outcome v.slots (some x.id)])
        (x.told callback outcome.isOk) :=
      ⟨_, rfl, by rw [Session.told, hsink]; rfl⟩
    exact .between (View.Quiet.refl v).told hlog kept.quiet.told

/-- Without a sink nothing is delivered. -/
theorem Delivered.sink_isSome (h : v.Delivered x callback delivered v') (hdelivered : delivered) : x.sink.isSome := by
  cases h with
  | nowhere => cases hdelivered
  | called hsink => exact Option.isSome_of_mem hsink

theorem told_leave (v : View κ) (x : Session) : v.Told (v.leave x) [] := ⟨_, rfl, rfl⟩

theorem told_lockOut (v : View κ) (lockout : Lockout) (settings : Lockout.Settings) :
    v.Told (v.lockOut lockout settings) [] :=
  ⟨_, rfl, rfl⟩

namespace Reached

/-- The sink of the session is called with what the event tells, and once more only if a failure has
    entered the lockout. -/
theorem told (h : v.Reached x callback delivered v') :
    ∃ more, v.Told v' (x.told callback delivered ++ more) ∧
      (more = [] ∨ ∃ device subject again, callback = .authenticated device 0 subject ∧
        more = x.told (.error device SensorError.lockout.code) again) := by
  cases h with
  | progressed before told running after =>
    exact ⟨[], (Told.between before.noted.quiet.told told.told after.noted.quiet.told).trans
      (Quiet.refl v').told, .inl rfl⟩
  | asked before told last eased stopped =>
    exact ⟨[], (Told.between before.noted.quiet.told told.told (eased.quiet.trans stopped.quiet).told).trans
      (told_leave _ x), .inl rfl⟩
  | unasked before told last kept ends =>
    exact ⟨[], (Told.between before.noted.quiet.told told.told kept.quiet.told).trans (told_leave _ x), .inl rfl⟩
  | @lockedOut device subject delivered again _ _ _ _ _ _ lockout settings hkind before told kept warned kept'
      stopped =>
    refine ⟨_, ?_, .inr ⟨device, subject, again, rfl, rfl⟩⟩
    have hwarned := Told.between (told_lockOut _ lockout settings) warned.told (kept'.quiet.trans stopped.quiet).told
    exact (Told.between before.noted.quiet.told told.told kept.quiet.told).trans
      (.between (Quiet.refl _).told hwarned (told_leave _ x))

/-- The sink takes nothing where there is none. -/
theorem sink_isSome (h : v.Reached x callback delivered v') (hdelivered : delivered) : x.sink.isSome := by
  cases h with
  | progressed _ told | asked _ told | unasked _ told | lockedOut _ _ told => exact told.sink_isSome hdelivered

/-- The session leaves its slot, and its registration is released, with the last that it is told, or
    when it cannot be told. -/
theorem rest (h : v.Reached x callback delivered v') :
    if callback.isTerminal || !delivered then
      v'.slots = v.slots.set x.kind none ∧ v'.liveness = Host.releaseSession (some x) v.liveness
    else v'.slots = v.slots ∧ v'.liveness = v.liveness := by
  have hends {delivered : Bool} (last : delivered → callback.isTerminal) :
      (callback.isTerminal || !delivered) = true := by
    cases delivered with
    | false => exact Bool.or_true _
    | true => simp [last rfl]
  have hleave {v₁ : View κ} (hframed : v.Framed v₁) :
      (v₁.leave x).slots = v.slots.set x.kind none ∧
        (v₁.leave x).liveness = Host.releaseSession (some x) v.liveness := by
    rw [← hframed.slots, ← hframed.liveness]
    exact ⟨rfl, rfl⟩
  cases h with
  | progressed before told running after =>
    have hframed := (before.noted.framed.trans told.framed).trans after.noted.framed
    rw [running]
    exact ⟨hframed.slots, hframed.liveness⟩
  | asked before told last eased stopped =>
    rw [hends last]
    exact hleave (((before.noted.framed.trans told.framed).trans eased.framed).trans stopped.framed)
  | unasked before told last kept ends =>
    rw [hends last]
    exact hleave ((before.noted.framed.trans told.framed).trans kept.framed)
  | lockedOut hkind before told kept warned kept' stopped =>
    have hwarned := (lockOut_framed _ _ _).trans warned.framed
    have htold := (before.noted.framed.trans told.framed).trans kept.framed
    exact hleave (((htold.trans hwarned).trans kept'.framed).trans stopped.framed)

end Reached

end View

/-! ## Where an event leads -/

/-- What becomes of slots and registrations when an event is dispatched, and what is told to sinks
    meanwhile. If there is nobody whom the event is for, that is nothing. Else the sink of that
    session is called with it, and the session leaves its slot or not by whether that was taken.
    A failure that enters the lockout is told to the same sink once more. -/
def DriverEvent.Leads {ω κ : Type} (event : DriverEvent) (s s' : System ω κ) (told : List Telling) : Prop :=
  match s.slots.first event.kinds with
  | none => told = [] ∧ s'.slots = s.slots ∧ s'.liveness = s.liveness
  | some x =>
    ∃ (callback : Callback) (delivered : Bool) (more : List Telling), event.callback? = some callback ∧
      (delivered → x.sink.isSome) ∧ told = x.told callback delivered ++ more ∧
      (more = [] ∨ ∃ device subject again, callback = .authenticated device 0 subject ∧
        more = x.told (.error device SensorError.lockout.code) again) ∧
      if event.ends delivered then
        s'.slots = s.slots.set x.kind none ∧ s'.liveness = Host.releaseSession (some x) s.liveness
      else s'.slots = s.slots ∧ s'.liveness = s.liveness

variable {ω κ : Type} {host : Host ω κ} {record : Record host} {s s' : System ω κ} {event : DriverEvent}

theorem View.Routed.leads (h : (s.view record.history).Routed event (s'.view record.history)) :
    ∃ told, (s.view record.history).Told (s'.view record.history) told ∧ event.Leads s s' told := by
  unfold View.Routed at h
  unfold DriverEvent.Leads
  change match s.slots.first event.kinds with | none => _ | some x => _ at h
  cases hfirst : s.slots.first event.kinds with
  | none =>
    rw [hfirst] at h
    exact ⟨[], h.noted.quiet.told, rfl, h.noted.framed.slots, h.noted.framed.liveness⟩
  | some x =>
    rw [hfirst] at h
    obtain ⟨callback, delivered, hcallback, hreached⟩ := h
    obtain ⟨more, htold, hmore⟩ := hreached.told
    refine ⟨_, htold, callback, delivered, more, hcallback, hreached.sink_isSome, rfl, hmore, ?_⟩
    rw [DriverEvent.ends_eq hcallback]
    exact hreached.rest

/-- An event is dispatched without fail, and leads where it should. -/
theorem Record.leads_dispatch (hs : (s.view record.history).Sound) (event : DriverEvent) :
    ∃ told s', (host.dispatch event).run s = (.ok (), s') ∧
      tellings (record.history s'.world) = tellings (record.history s.world) ++ told ∧ event.Leads s s' told := by
  obtain ⟨⟨⟩, hok, hrouted⟩ := record.yields_route _ hs event s rfl
  obtain ⟨told, ⟨entries, hentries, rfl⟩, hleads⟩ := hrouted.leads
  refine ⟨_, ((host.dispatch event).run s).2, Prod.ext hok rfl, ?_, hleads⟩
  rw [← tellings_append]
  exact congrArg tellings hentries

/-- A session that ends with an event whatever its sink does leaves its slot. -/
theorem Record.slot_eq_none_of_ends (hs : (s.view record.history).Sound) (kind : SessionKind) {x : Session}
    (hslot : s.slots.get kind = some x) (hfirst : s.slots.first event.kinds = some x)
    (hends : ∀ delivered, event.ends delivered = true) :
    ((host.dispatch event).run s).2.slots.get kind = none := by
  obtain ⟨told, s', hrun, -, hleads⟩ := record.leads_dispatch hs event
  rw [DriverEvent.Leads, hfirst] at hleads
  obtain ⟨callback, delivered, more, -, -, -, -, hrest⟩ := hleads
  rw [hends delivered, if_pos rfl, hs.sorted kind x hslot] at hrest
  rw [hrun, hrest.1, Slots.get_set_self]

/-- With its result the active authentication leaves its slot. -/
theorem Record.authenticate_eq_none (hs : (s.view record.history).Sound) {x : Session}
    (hslot : s.slots.authenticate = some x) (device : UInt64) (id : UInt32) (subject : Int32) :
    ((host.dispatch (.authenticated device id subject)).run s).2.slots.authenticate = none :=
  record.slot_eq_none_of_ends hs .authenticate hslot ((s.slots.first_singleton _).trans hslot) fun _ => rfl

/-- With its last result the active enrollment leaves its slot. -/
theorem Record.enroll_eq_none (hs : (s.view record.history).Sound) {x : Session}
    (hslot : s.slots.enroll = some x) (device : UInt64) (id : UInt32) (subject : Int32) :
    ((host.dispatch (.enrollResult device id subject 0)).run s).2.slots.enroll = none :=
  record.slot_eq_none_of_ends hs .enroll hslot ((s.slots.first_singleton _).trans hslot) fun _ => rfl

end Fingerprint
