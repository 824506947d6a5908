import Fingerprint.Execution
import Fingerprint.Proofs.Journal

/-!
# Which driver is in use

The life of a connection: requests are made of it, drivers that were ever
linked are told dead, as often as they like and in any order, what they have
posted is done some time later, and in the end the connection is gone. All
along, the connection knows which driver is in use, and the driver in use
knows whom it works for.

* `Host.Request`: what is requested of a connection;
* `Journal.Course`: the life of a connection, with what happens in it;
* `Journal.Course.settled`: it changes in moves;
* `Journal.Attributed`, `Journal.Course.attributed`: a death is attributed to
  the driver that was linked under its number;
* `Journal.Prepared`, `Journal.Course.prepared`: what a driver has been told by
  the time it is asked for an operation.
-/

namespace Fingerprint

variable {ω κ : Type} {host : Host ω κ}

/-- What can be requested of a connection, and what is asked for in the first place. -/
inductive Host.Request (host : Host ω κ) : {α : Type} → Op ω κ α → List Happening → Prop
  | acquire : Request host host.acquire []
  | beginEnroll (token : Bytes) (subject : Int32) (timeout : UInt32) :
      Request host (host.beginEnroll token subject timeout) []
  | cancelEnroll : Request host host.cancelEnroll []
  | beginAuthenticate (operation : UInt64) (subject : Int32) :
      Request host (host.beginAuthenticate operation subject) []
  | cancelAuthenticate : Request host host.cancelAuthenticate []
  | beginRemove (id : UInt32) (subject : Int32) : Request host (host.beginRemove id subject) []
  | preEnroll : Request host host.preEnroll []
  | authenticatorId : Request host host.authenticatorId []
  | setActiveSubject (subject : Int32) (storage : Bytes) :
      Request host (host.setActiveSubject subject storage) [.requested ⟨subject, storage⟩]

namespace Journal

variable {journal : Journal host} {timeline : List Happening} {s s' : System ω κ}

/-- A request changes the connection in moves. -/
theorem moves_request (journal : Journal host) {α : Type} {op : Op ω κ α} {asks : List Happening}
    (hop : host.Request op asks) (s : System ω κ) :
    ∃ calls, journal.calls (op.run s).2.world = journal.calls s.world ++ calls ∧
      Moves host.setup.hasEventSink s.connection (asks ++ calls.map .asked) (op.run s).2.connection := by
  have hmoved {β : Type} {op : Op ω κ β}
      (h : Op.Yields journal.wire (journal.wire s) op fun _ w' => Moved host (journal.wire s) w') :
      ∃ calls, journal.calls (op.run s).2.world = journal.calls s.world ++ calls ∧
        Moves host.setup.hasEventSink s.connection ([] ++ calls.map .asked) (op.run s).2.connection := by
    obtain ⟨_, -, hmoved⟩ := h s rfl
    exact hmoved
  cases hop with
  | acquire => exact hmoved (journal.yields_acquire.mono fun _ _ h => h.2)
  | preEnroll | authenticatorId =>
    exact hmoved (journal.yields_query fun _ _ hheld => journal.ensures_ask hheld rfl)
  | setActiveSubject subject storage =>
    obtain ⟨_, -, hmoves⟩ := journal.yields_setActiveSubject subject storage s rfl
    exact hmoves
  | _ => exact hmoved (journal.yields_forward fun _ _ hheld => journal.ensures_ask hheld rfl)

/-! ## The life of a connection -/

/-- The life of a connection up to a state, with what has happened in it. -/
inductive Course (journal : Journal host) : List Happening → System ω κ → Prop
  | fresh {s : System ω κ} (h : s.connection = {}) : Course journal [] s
  | requested {timeline asks : List Happening} {s : System ω κ} {α : Type} {op : Op ω κ α}
      {calls : List Exchange} (h : Course journal timeline s) (halive : s.connection.alive)
      (hop : host.Request op asks)
      (hcalls : journal.calls (op.run s).2.world = journal.calls s.world ++ calls) :
      Course journal (timeline ++ (asks ++ calls.map .asked)) (op.run s).2
  /-- A driver that was linked under a number is told dead. -/
  | fired {timeline : List Happening} {s : System ω κ} (h : Course journal timeline s)
      (generation : Nat) :
      Course journal timeline ((Host.driverLinkDied generation : Op ω κ Unit).run s).2
  /-- The queue does what is to be done about that. -/
  | processed {timeline : List Happening} {s s' : System ω κ} (h : Course journal timeline s)
      (generation : Nat) (hs' : ((host.perform (.driverDied generation)).run s).2 = s') :
      Course journal (timeline ++ if s'.connection.handle = s.connection.handle then [] else [.lost]) s'
  | destroyed {timeline : List Happening} {s : System ω κ} (h : Course journal timeline s) :
      Course journal timeline { s with connection := { alive := false } }
  /-- Something that does not concern the connection. -/
  | elsewhere {timeline : List Happening} {s s' : System ω κ} (h : Course journal timeline s)
      (hconnection : s'.connection = s.connection)
      (hcalls : journal.calls s'.world = journal.calls s.world) : Course journal timeline s'

/-! ## Deaths -/

/-- The state in which a connection has let go of its driver. -/
def letGo (host : Host ω κ) (s : System ω κ) : System ω κ :=
  let s' := { s with connection := { s.connection with handle := none, device := 0 } }
  { s' with world := host.observe (Host.driverEvent .warning "driver_died" Message.driverDied [] none []) s' }

/-- Whether a death is that of the driver in use is decided by the number. -/
theorem run_driverDied (host : Host ω κ) (generation : Nat) (s : System ω κ) :
    (host.perform (.driverDied generation)).run s =
      if s.connection.alive ∧ generation = s.connection.generation ∧ s.connection.handle ≠ none then
        (.ok (), letGo host s)
      else (.ok (), s) := by
  have hrun : (host.perform (.driverDied generation)).run s =
      ((if s.connection.alive then
        if generation = s.connection.generation && s.connection.handle.isSome then do
          Host.onConnection ({ · with handle := none, device := 0 })
          host.publish (Host.driverEvent .warning "driver_died" Message.driverDied [] none [])
        else pure ()
      else pure ()) : Op ω κ Unit).run s := by
    rw [Host.perform, Host.driverDied, Op.run_bind]
    change ((if s.connection.alive then host.handleDriverDied generation else pure ()) : Op ω κ Unit).run s = _
    split <;> rfl
  rw [hrun]
  by_cases halive : s.connection.alive
  · by_cases hdeath : generation = s.connection.generation ∧ s.connection.handle ≠ none
    · rw [if_pos halive, if_pos (by simpa [Option.isSome_iff_ne_none] using hdeath), if_pos ⟨halive, hdeath⟩]
      rfl
    · rw [if_pos halive, if_neg (by simpa [Option.isSome_iff_ne_none] using hdeath),
        if_neg fun h => hdeath h.2]
      rfl
  · rw [if_neg halive, if_neg fun h => halive h.1]
    rfl

/-! ## What the connection knows -/

/-- As long as there is a connection, it changes in moves. -/
theorem Course.exists_moves (h : journal.Course timeline s) :
    ∃ c, Moves host.setup.hasEventSink {} timeline c ∧
      (s.connection = c ∨ s.connection = { alive := false }) := by
  induction h with
  | fresh h => exact ⟨_, .refl, .inl h⟩
  | @requested timeline asks s α op calls h halive hop hcalls ih =>
    obtain ⟨c, hmoves, rfl | hgone⟩ := ih
    · obtain ⟨calls', hcalls', hmore⟩ := journal.moves_request hop s
      obtain rfl := List.append_cancel_left (hcalls.symm.trans hcalls')
      exact ⟨_, hmoves.trans hmore, .inl rfl⟩
    · rw [hgone] at halive
      cases halive
  | @fired timeline s h generation ih =>
    have hconnection : ((Host.driverLinkDied generation : Op ω κ Unit).run s).2.connection = s.connection := by
      rw [Host.driverLinkDied, Op.run_bind]
      change (((if s.connection.alive then Op.post (.driverDied generation) else pure ()) :
        Op ω κ Unit).run s).2.connection = _
      split <;> rfl
    rwa [hconnection]
  | @processed timeline s s' h generation hs' ih =>
    obtain ⟨c, hmoves, hc⟩ := ih
    rw [run_driverDied] at hs'
    split at hs'
    · next hdeath =>
      obtain ⟨halive, -, hheld⟩ := hdeath
      subst hs'
      rcases hc with rfl | hgone
      · have hlost : ¬(letGo host s).connection.handle = s.connection.handle := hheld.symm
        dsimp only
        rw [if_neg hlost]
        exact ⟨_, hmoves.trans (.single (.lost hheld)), .inl rfl⟩
      · rw [hgone] at halive
        cases halive
    · subst hs'
      rw [if_pos rfl, List.append_nil]
      exact ⟨c, hmoves, hc⟩
  | destroyed h ih =>
    obtain ⟨c, hmoves, -⟩ := ih
    exact ⟨c, hmoves, .inr rfl⟩
  | elsewhere h hconnection hcalls ih => rwa [hconnection]

/-- A connection is settled, or it is gone. -/
theorem Course.exists_settled (h : journal.Course timeline s) :
    ∃ c, Settled host.setup.hasEventSink timeline c ∧ c.alive ∧
      (s.connection = c ∨ s.connection = { alive := false }) := by
  obtain ⟨c, hmoves, hc⟩ := h.exists_moves
  exact ⟨c, .moves hmoves, hmoves.alive_eq, hc⟩

/-- Deaths are attributed to the drivers that were linked under their numbers. -/
structure Attributed (host : Host ω κ) (timeline : List Happening) (s : System ω κ) : Prop where
  /-- No two links have the same number. -/
  numbered : s.connection.alive → timeline.filterMap (·.number?) = List.range' 1 s.connection.generation
  /-- The driver in use was linked under the last number, and has opened the device. -/
  held : ∀ handle, s.connection.handle = some handle →
    ∃ since, Held host.setup.hasEventSink timeline handle s.connection.generation s.connection.device since
  closed : s.connection.handle = none → s.connection.device = 0
  /-- At the death of the driver in use the connection lets go of it. -/
  died : ∀ handle generation device since, s.connection.handle = some handle →
    Held host.setup.hasEventSink timeline handle generation device since →
      (host.perform (.driverDied generation)).run s = (.ok (), letGo host s)
  /-- At any other death it does nothing. -/
  spared : ∀ generation,
    (∀ handle device since, s.connection.handle = some handle →
      ¬Held host.setup.hasEventSink timeline handle generation device since) →
        (host.perform (.driverDied generation)).run s = (.ok (), s)
  /-- No death makes a difference once the connection is gone. -/
  gone : s.connection.alive = false → ∀ generation,
    (Host.driverLinkDied generation : Op ω κ Unit).run s = (.ok (), s) ∧
      (host.perform (.driverDied generation)).run s = (.ok (), s)

/-- Along the life of a connection, deaths are attributed to the drivers that were linked under
    their numbers. -/
theorem Course.attributed (h : journal.Course timeline s) : Attributed host timeline s := by
  obtain ⟨c, hsettled, halive, rfl | hgone⟩ := h.exists_settled
  · refine ⟨fun _ => hsettled.numbered, fun handle hhandle => ?_, hsettled.closed,
      fun handle generation device since hhandle hheld => ?_, fun generation hspared => ?_, fun hdead => ?_⟩
    · obtain ⟨since, hheld, -⟩ := hsettled.held handle hhandle
      exact ⟨since, hheld⟩
    · have hgeneration := hheld.number_eq
      rw [hsettled.numbered, List.getLast?_range'] at hgeneration
      split at hgeneration
      · cases hgeneration
      · rw [Option.some_inj] at hgeneration
        have hlast : generation = s.connection.generation := by omega
        rw [run_driverDied, if_pos ⟨halive, hlast, by simp [hhandle]⟩]
    · rw [run_driverDied, if_neg]
      rintro ⟨-, rfl, hheld⟩
      obtain ⟨handle, hhandle⟩ := Option.ne_none_iff_exists'.1 hheld
      obtain ⟨since, hheld, -⟩ := hsettled.held handle hhandle
      exact hspared handle _ since hhandle hheld
    · rw [hdead] at halive
      cases halive
  · have hdead : s.connection.alive = false := by rw [hgone]
    have hnone : s.connection.handle = none := by rw [hgone]
    have hnothing (generation : Nat) : (host.perform (.driverDied generation)).run s = (.ok (), s) := by
      rw [run_driverDied, if_neg fun h => by simp [hdead] at h]
    refine ⟨fun halive => ?_, fun handle hhandle => ?_, fun _ => by rw [hgone],
      fun handle _ _ _ hhandle => ?_, fun generation _ => hnothing generation,
      fun _ generation => ⟨?_, hnothing generation⟩⟩
    · rw [hdead] at halive
      cases halive
    · rw [hnone] at hhandle
      cases hhandle
    · rw [hnone] at hhandle
      cases hhandle
    · rw [Host.driverLinkDied, Op.run_bind]
      change ((if s.connection.alive then Op.post (.driverDied generation) else pure ()) :
        Op ω κ Unit).run s = _
      rw [hdead]
      rfl

/-- An answer of a driver that has no complaint. -/
def plainReply : (call : DriverCall) → call.Reply
  | .linkToDeath _ | .init => ()
  | .openHal | .preEnroll | .authenticatorId => (209 : UInt64)
  | .enroll .. | .cancelEnroll | .authenticate .. | .cancelAuthenticate | .remove .. | .setActiveSubject .. =>
    (0 : Int)

/-- A host that remembers the calls of drivers. Each driver that it hands out is known by the number
    of the calls before, and the first has no device to open. -/
def bench : Host (List Exchange) Empty where
  setup := {}
  answer
    | .acquire => return some (← get).world.length
    | .driver handle call => ExceptT.mk fun s =>
      let outcome := if handle = 0 ∧ call = .openHal then .error (.plain "broken") else .ok (plainReply call)
      (outcome, { s with world := s.world ++ [⟨handle, call, outcome⟩] })
    | _ => throw (.plain "nobody")
  observe _ s := s.world
  client := nofun
  patience := 0

def benchJournal : Journal bench where
  calls world := world
  observe _ _ := rfl
  acquire _ := ⟨rfl, rfl⟩
  driver _ _ _ := ⟨rfl, rfl⟩

/-- What happens when a subject is asked for and the first driver is refused, and then an
    authentication is, for which the next driver is acquired. -/
def benchTimeline : List Happening :=
  .requested ⟨3, "p"⟩ :: introduction true 0 1 ++ [.asked ⟨0, .openHal, .error (.plain "broken")⟩] ++
    handshake true 3 2 209 ++ [told 3 ⟨3, "p"⟩ (.ok (0 : Int)), .asked ⟨3, .authenticate 5 3, .ok (0 : Int)⟩]

theorem course_bench : ∃ s, benchJournal.Course benchTimeline s ∧
    s.connection.handle = some 3 ∧ s.connection.generation = 2 ∧ s.connection.device = 209 := by
  have hfresh : benchJournal.Course [] { world := [] } := .fresh rfl
  have hrefused : benchJournal.Course ([] ++ ([.requested ⟨3, "p"⟩] ++ [⟨0, .linkToDeath 1, .ok ()⟩,
      ⟨0, .init, .ok ()⟩, ⟨0, .openHal, .error (.plain "broken")⟩].map .asked)) _ :=
    hfresh.requested rfl (.setActiveSubject 3 "p") rfl
  have hasked : benchJournal.Course (_ ++ ([] ++ [⟨3, .linkToDeath 2, .ok ()⟩, ⟨3, .init, .ok ()⟩,
      ⟨3, .openHal, .ok (209 : UInt64)⟩, ⟨3, .setActiveSubject 3 "p", .ok (0 : Int)⟩,
      ⟨3, .authenticate 5 3, .ok (0 : Int)⟩].map .asked)) _ :=
    hrefused.requested rfl (.beginAuthenticate 5 3) rfl
  exact ⟨_, hasked, rfl, rfl, rfl⟩

/-- The first driver is still linked, and its death makes no difference to the second. -/
theorem Course.attributed_of_stale_link : ∃ s, benchJournal.Course benchTimeline s ∧
    s.connection.handle = some 3 ∧ s.connection.device = 209 ∧ Attributed bench benchTimeline s ∧
    (bench.perform (.driverDied 1)).run s = (.ok (), s) ∧
    (bench.perform (.driverDied 2)).run s = (.ok (), letGo bench s) := by
  obtain ⟨s, hcourse, hhandle, hgeneration, hdevice⟩ := course_bench
  have hattributed := hcourse.attributed
  obtain ⟨since, hheld⟩ := hattributed.held 3 hhandle
  rw [hgeneration] at hheld
  refine ⟨s, hcourse, hhandle, hdevice, hattributed, ?_, hattributed.died 3 2 _ since hhandle hheld⟩
  rw [run_driverDied, if_neg (by simp [hgeneration])]

/-- What drivers have been told by the time they are asked for operations. -/
structure Prepared (host : Host ω κ) (timeline : List Happening) (s : System ω κ) : Prop where
  introduced : Introduced host.setup.hasEventSink timeline
  /-- A driver whose handshake has failed is asked for no operation before it was linked anew. -/
  refused : ∀ before middle after failed exchange fault,
    timeline = before ++ .asked failed :: middle ++ .asked exchange :: after →
      failed.outcome = .error fault → failed.call.isIntroductory → exchange.call.isOperation →
        ∃ number, .asked ⟨exchange.handle, .linkToDeath number, .ok ()⟩ ∈ middle
  /-- The driver in use was last told the subject that was last asked for. -/
  applied : ∀ handle, s.connection.handle = some handle →
    ∃ since, Held host.setup.hasEventSink timeline handle s.connection.generation s.connection.device since ∧
      lastApplied since = lastRequested timeline

/-- Along the life of a connection, drivers have gone through the handshake and know the subject
    that was last asked for by the time they are asked for operations. -/
theorem Course.prepared (h : journal.Course timeline s) : Prepared host timeline s := by
  obtain ⟨c, hsettled, -, hc⟩ := h.exists_settled
  refine ⟨hsettled.introduced, fun before middle after failed exchange fault hsplit hfailed hcall hop => ?_,
    fun handle hhandle => ?_⟩
  · exact hsettled.introduced.linked_of_failed hfailed hcall hsplit hop
  · rcases hc with rfl | hgone
    · exact hsettled.held handle hhandle
    · rw [hgone] at hhandle
      cases hhandle

/-- The second driver was told the subject that had been asked for before it was there. -/
theorem Course.prepared_of_earlier_request : ∃ s, benchJournal.Course benchTimeline s ∧
    s.connection.handle = some 3 ∧ Prepared bench benchTimeline s ∧
    lastRequested benchTimeline = some ⟨3, "p"⟩ ∧ lastApplied benchTimeline = some ⟨3, "p"⟩ := by
  obtain ⟨s, hcourse, hhandle, -⟩ := course_bench
  exact ⟨s, hcourse, hhandle, hcourse.prepared, rfl, rfl⟩

end Journal

end Fingerprint
