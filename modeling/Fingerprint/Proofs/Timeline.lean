import Fingerprint.System

/-!
# What happens to a connection

What happens to a connection to the driver is that drivers are asked, that a
subject is asked for, and that the driver is lost. A driver that was taken into
use has gone through the handshake: it was linked under a number, told where to
send events, and its device was opened. Then it was told the subject that was
last asked for, if there was one.

The connection changes in moves, each of which leaves it settled: what it knows
is what has happened.

* `Happening`, `handshake`;
* `Held`: a driver was taken into use, and is so still;
* `Move`, `Moves`: how a connection changes;
* `Settled`: what it knows, which every move keeps (`Settled.move`);
* `Introduced`: what was asked of drivers, and what came before.
-/

namespace Fingerprint

/-! ## Calls of drivers -/

namespace DriverCall

/-- Whether a call is part of taking a driver into use. -/
def isIntroductory : DriverCall → Bool
  | linkToDeath _ | init | openHal => true
  | _ => false

/-- Whether a driver is asked for an operation, or for a number of its own. -/
def isOperation : DriverCall → Bool
  | linkToDeath _ | init | openHal | setActiveSubject .. => false
  | _ => true

theorem isIntroductory_of_isOperation {call : DriverCall} (h : call.isOperation) :
    call.isIntroductory = false := by
  cases call <;> first | rfl | cases h

end DriverCall

/-- A call of a driver, with what it ended with. -/
structure Exchange where
  handle : Handle
  call : DriverCall
  outcome : Except Fault call.Reply

/-- What happens to a connection. -/
inductive Happening where
  | asked (exchange : Exchange)
  /-- A subject is asked for. -/
  | requested (active : ActiveSubject)
  /-- The driver is let go. -/
  | lost

namespace Happening

/-- The number under which a driver is linked. -/
def number? : Happening → Option Nat
  | asked ⟨_, .linkToDeath number, _⟩ => some number
  | _ => none

def requested? : Happening → Option ActiveSubject
  | requested active => some active
  | _ => none

/-- The subject that a driver is told. -/
def applied? : Happening → Option ActiveSubject
  | asked ⟨_, .setActiveSubject subject storage, _⟩ => some ⟨subject, storage⟩
  | _ => none

theorem asked_of_isOperation {exchange : Exchange} (h : exchange.call.isOperation) :
    (asked exchange).number? = none ∧ (asked exchange).applied? = none := by
  obtain ⟨handle, call, outcome⟩ := exchange
  cases call with
  | linkToDeath | init | openHal | setActiveSubject => cases h
  | _ => exact ⟨rfl, rfl⟩

/-- Whether a driver that was taken into use is left so. No other driver is asked meanwhile, and
    no handshake begins. -/
def Leaves (handle : Handle) : Happening → Prop
  | asked exchange => exchange.handle = handle ∧ exchange.call.isIntroductory = false
  | requested _ => True
  | lost => False

end Happening

/-! ## Timelines -/

/-- The subject that was last asked for. -/
def lastRequested (timeline : List Happening) : Option ActiveSubject :=
  (timeline.filterMap (·.requested?)).getLast?

/-- The subject that a driver was last told. -/
def lastApplied (timeline : List Happening) : Option ActiveSubject :=
  (timeline.filterMap (·.applied?)).getLast?

theorem lastRequested_append (timeline more : List Happening) :
    lastRequested (timeline ++ more) = (lastRequested more).or (lastRequested timeline) := by
  rw [lastRequested, List.filterMap_append, List.getLast?_append]
  rfl

theorem lastRequested_asked (exchange : Exchange) : lastRequested [.asked exchange] = none := rfl

theorem lastApplied_append (timeline more : List Happening) :
    lastApplied (timeline ++ more) = (lastApplied more).or (lastApplied timeline) := by
  rw [lastApplied, List.filterMap_append, List.getLast?_append]
  rfl

/-- A driver is linked under a number, and told where to send events, if that is known. -/
def introduction (sink : Bool) (handle : Handle) (number : Nat) : List Happening :=
  .asked ⟨handle, .linkToDeath number, .ok ()⟩ :: if sink then [.asked ⟨handle, .init, .ok ()⟩] else []

/-- After that its device is opened. -/
def handshake (sink : Bool) (handle : Handle) (number : Nat) (device : UInt64) : List Happening :=
  introduction sink handle number ++ [.asked ⟨handle, .openHal, .ok device⟩]

/-- A driver is told a subject, however it takes it. -/
def told (handle : Handle) (active : ActiveSubject)
    (outcome : Except Fault (DriverCall.setActiveSubject active.subject active.storage).Reply) : Happening :=
  .asked ⟨handle, .setActiveSubject active.subject active.storage, outcome⟩

/-- A driver was taken into use under a number, and is so still. If a subject had been asked for,
    the driver was told it first thing. -/
def Held (sink : Bool) (timeline : List Happening) (handle : Handle) (number : Nat) (device : UInt64)
    (since : List Happening) : Prop :=
  ∃ before, timeline = before ++ handshake sink handle number device ++ since ∧
    (∀ active, lastRequested before = some active →
      ∃ outcome rest, since = told handle active outcome :: rest) ∧
    ∀ x ∈ since, x.Leaves handle

/-- Whenever a driver is asked for an operation, it is in use, and the subject that it was last
    told since then is the one last asked for. -/
def Introduced (sink : Bool) (timeline : List Happening) : Prop :=
  ∀ before after exchange, timeline = before ++ .asked exchange :: after → exchange.call.isOperation →
    ∃ number device since, Held sink before exchange.handle number device since ∧
      lastApplied since = lastRequested before

section

variable {sink : Bool} {timeline more since : List Happening} {handle : Handle} {number : Nat}
  {device : UInt64}

theorem numbers_introduction :
    (introduction sink handle number).filterMap (·.number?) = [number] := by
  cases sink <;> rfl

theorem numbers_handshake : (handshake sink handle number device).filterMap (·.number?) = [number] := by
  rw [handshake, List.filterMap_append, numbers_introduction]
  rfl

theorem lastRequested_introduction : lastRequested (introduction sink handle number) = none := by
  cases sink <;> rfl

theorem lastRequested_handshake : lastRequested (handshake sink handle number device) = none := by
  rw [handshake, lastRequested_append, lastRequested_introduction]
  rfl

theorem not_isOperation_of_mem_introduction {exchange : Exchange}
    (h : .asked exchange ∈ introduction sink handle number) : exchange.call.isOperation = false := by
  rw [introduction, List.mem_cons] at h
  rcases h with h | h
  · cases h
    rfl
  · split at h
    · rw [List.mem_singleton] at h
      cases h
      rfl
    · cases h

/-- All goes well in a handshake. -/
theorem ok_of_mem_handshake {exchange : Exchange}
    (h : .asked exchange ∈ handshake sink handle number device) : ∃ reply, exchange.outcome = .ok reply := by
  rw [handshake, introduction, List.mem_append, List.mem_cons, List.mem_singleton] at h
  rcases h with (h | h) | h
  · cases h
    exact ⟨_, rfl⟩
  · split at h
    · rw [List.mem_singleton] at h
      cases h
      exact ⟨_, rfl⟩
    · cases h
  · cases h
    exact ⟨_, rfl⟩

theorem numbers_of_leaves (h : ∀ x ∈ since, x.Leaves handle) : since.filterMap (·.number?) = [] := by
  rw [List.filterMap_eq_nil_iff]
  intro x hx
  have hx := h x hx
  cases x with
  | asked exchange =>
    obtain ⟨other, call, outcome⟩ := exchange
    cases call <;> first | rfl | cases hx.2
  | requested | lost => rfl

theorem not_isOperation_of_mem_handshake {exchange : Exchange}
    (h : .asked exchange ∈ handshake sink handle number device) : exchange.call.isOperation = false := by
  rcases List.mem_append.1 h with h | h
  · exact not_isOperation_of_mem_introduction h
  · rw [List.mem_singleton] at h
    cases h
    rfl

namespace Held

theorem append (h : Held sink timeline handle number device since)
    (hmore : ∀ x ∈ more, x.Leaves handle) :
    Held sink (timeline ++ more) handle number device (since ++ more) := by
  obtain ⟨before, rfl, htold, hleaves⟩ := h
  refine ⟨before, by simp only [List.append_assoc], fun active hactive => ?_,
    List.forall_mem_append.2 ⟨hleaves, hmore⟩⟩
  obtain ⟨outcome, rest, rfl⟩ := htold active hactive
  exact ⟨outcome, rest ++ more, rfl⟩

/-- The number is the last one under which a driver was linked. -/
theorem number_eq (h : Held sink timeline handle number device since) :
    (timeline.filterMap (·.number?)).getLast? = some number := by
  obtain ⟨before, rfl, -, hleaves⟩ := h
  rw [List.filterMap_append, List.filterMap_append, numbers_handshake, numbers_of_leaves hleaves,
    List.append_nil, List.getLast?_concat]

end Held

/-- Where no operation is asked for, nothing more is to be shown. -/
theorem Introduced.append (h : Introduced sink timeline)
    (hmore : ∀ exchange, .asked exchange ∈ more → exchange.call.isOperation = false) :
    Introduced sink (timeline ++ more) := by
  intro before after exchange hsplit hop
  rcases List.append_eq_append_iff.1 hsplit with ⟨middle, -, hmiddle⟩ | ⟨middle, htimeline, hmiddle⟩
  · have hmem : .asked exchange ∈ more := hmiddle ▸ List.mem_append_right _ List.mem_cons_self
    rw [hmore exchange hmem] at hop
    cases hop
  · cases middle with
    | nil =>
      rw [hmore exchange (by rw [← List.nil_append more, ← hmiddle]; exact List.mem_cons_self)] at hop
      cases hop
    | cons x rest =>
      obtain ⟨rfl, -⟩ := List.cons.inj hmiddle
      exact h before rest exchange htimeline hop

/-- An operation that is asked of a driver in use. -/
theorem Introduced.asked (h : Introduced sink timeline) {exchange : Exchange}
    (hheld : Held sink timeline exchange.handle number device since)
    (happlied : lastApplied since = lastRequested timeline) :
    Introduced sink (timeline ++ [.asked exchange]) := by
  intro before after exchange' hsplit hop
  rcases List.eq_nil_or_concat after with rfl | ⟨after, last, rfl⟩
  · obtain ⟨rfl, hlast⟩ := List.append_inj' hsplit rfl
    cases hlast
    exact ⟨number, device, since, hheld, happlied⟩
  · have hsplit' : timeline ++ [.asked exchange] = (before ++ .asked exchange' :: after) ++ [last] := by
      rw [hsplit]
      simp
    exact h before after exchange' (List.append_inj' hsplit' rfl).1 hop

/-- A driver whose handshake has failed is asked for no operation before it was linked anew. -/
theorem Introduced.linked_of_failed (h : Introduced sink timeline) {before middle after : List Happening}
    {failed exchange : Exchange} {fault : Fault} (hfailed : failed.outcome = .error fault)
    (hcall : failed.call.isIntroductory)
    (hsplit : timeline = before ++ .asked failed :: middle ++ .asked exchange :: after)
    (hop : exchange.call.isOperation) :
    ∃ number, .asked ⟨exchange.handle, .linkToDeath number, .ok ()⟩ ∈ middle := by
  obtain ⟨number, device, since, ⟨earlier, hheld, -, hleaves⟩, -⟩ := h _ after exchange hsplit hop
  have hnot : .asked failed ∉ handshake sink exchange.handle number device ++ since := by
    rw [List.mem_append]
    rintro (hmem | hmem)
    · obtain ⟨reply, hreply⟩ := ok_of_mem_handshake hmem
      rw [hfailed] at hreply
      cases hreply
    · have hleft := (hleaves _ hmem).2
      rw [hcall] at hleft
      cases hleft
  rw [List.append_assoc] at hheld
  rcases List.append_eq_append_iff.1 hheld with ⟨rest, -, hrest⟩ | ⟨rest, -, hrest⟩
  · cases rest with
    | nil =>
      rw [List.nil_append] at hrest
      exact absurd (hrest ▸ List.mem_cons_self) hnot
    | cons x rest =>
      obtain ⟨-, rfl⟩ := List.cons.inj hrest
      refine ⟨number, List.mem_append_right _ (List.mem_append_left _ ?_)⟩
      exact List.mem_append_left _ List.mem_cons_self
  · exact absurd (hrest ▸ List.mem_append_right _ List.mem_cons_self) hnot

end

/-! ## Moves -/

/-- One change of a connection, with what happens. -/
inductive Move (sink : Bool) : Connection → List Happening → Connection → Prop
  /-- A driver that was handed out cannot be linked. -/
  | unlinked {c : Connection} (handle : Handle) (fault : Fault) (hnone : c.handle = none) :
      Move sink c [.asked ⟨handle, .linkToDeath (c.generation + 1), .error fault⟩]
        { c with generation := c.generation + 1 }
  /-- It cannot be told where to send events. -/
  | mute {c : Connection} (handle : Handle) (fault : Fault) (hnone : c.handle = none) (hsink : sink = true) :
      Move sink c
        [.asked ⟨handle, .linkToDeath (c.generation + 1), .ok ()⟩, .asked ⟨handle, .init, .error fault⟩]
        { c with generation := c.generation + 1, device := 0 }
  /-- Its device cannot be opened. -/
  | unopened {c : Connection} (handle : Handle) (fault : Fault) (hnone : c.handle = none) :
      Move sink c (introduction sink handle (c.generation + 1) ++ [.asked ⟨handle, .openHal, .error fault⟩])
        { c with generation := c.generation + 1, device := 0 }
  /-- A driver is taken into use. No subject was asked for. -/
  | acquired {c : Connection} (handle : Handle) (device : UInt64) (hnone : c.handle = none)
      (hactive : c.activeSubject = none) :
      Move sink c (handshake sink handle (c.generation + 1) device)
        { c with handle := some handle, device, generation := c.generation + 1 }
  /-- A driver is taken into use, and told the subject that was last asked for. -/
  | greeted {c : Connection} (handle : Handle) (device : UInt64) (active : ActiveSubject)
      (outcome : Except Fault (DriverCall.setActiveSubject active.subject active.storage).Reply)
      (status : DriverStatus) (hnone : c.handle = none) (hactive : c.activeSubject = some active) :
      Move sink c (handshake sink handle (c.generation + 1) device ++ [told handle active outcome])
        { c with handle := some handle, device, generation := c.generation + 1, lastApplied := status }
  /-- The driver in use is asked for an operation. -/
  | asked {c : Connection} (exchange : Exchange) (hheld : c.handle = some exchange.handle)
      (hop : exchange.call.isOperation) : Move sink c [.asked exchange] c
  /-- A subject is asked for while no driver is in use. -/
  | requested {c : Connection} (active : ActiveSubject) (hnone : c.handle = none) :
      Move sink c [.requested active] { c with activeSubject := some active }
  /-- A subject is asked for, and the driver in use is told it. -/
  | applied {c : Connection} (handle : Handle) (active : ActiveSubject)
      (outcome : Except Fault (DriverCall.setActiveSubject active.subject active.storage).Reply)
      (status : DriverStatus) (hheld : c.handle = some handle) :
      Move sink c [.requested active, told handle active outcome]
        { c with activeSubject := some active, lastApplied := status }
  | lost {c : Connection} (hheld : c.handle ≠ none) :
      Move sink c [.lost] { c with handle := none, device := 0 }

/-- How a connection changes, move by move. -/
inductive Moves (sink : Bool) (c : Connection) : List Happening → Connection → Prop
  | refl : Moves sink c [] c
  | tail {timeline more : List Happening} {c' c'' : Connection} (h : Moves sink c timeline c')
      (hmove : Move sink c' more c'') : Moves sink c (timeline ++ more) c''

section

variable {sink : Bool} {timeline more : List Happening} {c c' c'' : Connection}

theorem Moves.single (h : Move sink c more c') : Moves sink c more c' := .tail .refl h

theorem Moves.trans (h : Moves sink c timeline c') (hmore : Moves sink c' more c'') :
    Moves sink c (timeline ++ more) c'' := by
  induction hmore with
  | refl => rwa [List.append_nil]
  | tail _ hmove ih =>
    rw [← List.append_assoc]
    exact ih.tail hmove

/-- No move ends a connection. -/
theorem Moves.alive_eq (h : Moves sink c timeline c') : c'.alive = c.alive := by
  induction h with
  | refl => rfl
  | tail _ hmove ih =>
    rw [← ih]
    cases hmove <;> rfl

/-! ## What a connection knows -/

/-- What a connection knows is what has happened. -/
structure Settled (sink : Bool) (timeline : List Happening) (c : Connection) : Prop where
  /-- Drivers are linked under the numbers from one on. -/
  numbered : timeline.filterMap (·.number?) = List.range' 1 c.generation
  remembered : lastRequested timeline = c.activeSubject
  closed : c.handle = none → c.device = 0
  held : ∀ handle, c.handle = some handle →
    ∃ since, Held sink timeline handle c.generation c.device since ∧
      lastApplied since = lastRequested timeline
  introduced : Introduced sink timeline

theorem settled_nil : Settled sink [] {} where
  numbered := rfl
  remembered := rfl
  closed _ := rfl
  held _ h := nomatch h
  introduced before after exchange hsplit := by simp at hsplit

namespace Settled

/-- A number is given. -/
theorem numbered_succ (h : Settled sink timeline c) (hmore : more.filterMap (·.number?) = [c.generation + 1]) :
    (timeline ++ more).filterMap (·.number?) = List.range' 1 (c.generation + 1) := by
  rw [List.filterMap_append, h.numbered, hmore, List.range'_concat, Nat.add_comm 1]
  simp

theorem remembered_of_none (h : Settled sink timeline c) (hmore : lastRequested more = none) :
    lastRequested (timeline ++ more) = c.activeSubject := by
  rw [lastRequested_append, hmore, Option.none_or, h.remembered]

/-- A driver that was handed out and is not taken into use. -/
theorem refused (h : Settled sink timeline c) (hnone : c.handle = none)
    (hnumbers : more.filterMap (·.number?) = [c.generation + 1]) (hrequested : lastRequested more = none)
    (hmore : ∀ exchange, .asked exchange ∈ more → exchange.call.isOperation = false) {device : UInt64}
    (hdevice : device = 0) :
    Settled sink (timeline ++ more) { c with generation := c.generation + 1, device } where
  numbered := h.numbered_succ hnumbers
  remembered := h.remembered_of_none hrequested
  closed _ := hdevice
  held handle hhandle := by
    dsimp only at hhandle
    rw [hnone] at hhandle
    cases hhandle
  introduced := h.introduced.append hmore

/-- A driver that is taken into use, and greeted with the subject that was last asked for. -/
theorem taken (h : Settled sink timeline c) (handle : Handle) (device : UInt64) (status : DriverStatus)
    {greeting : List Happening}
    (htold : ∀ active, c.activeSubject = some active → ∃ outcome, greeting = [told handle active outcome])
    (hnone : c.activeSubject = none → greeting = []) :
    Settled sink (timeline ++ (handshake sink handle (c.generation + 1) device ++ greeting))
      { c with handle := some handle, device, generation := c.generation + 1, lastApplied := status } := by
  have hgreeting : (∀ x ∈ greeting, x.Leaves handle) ∧ lastRequested greeting = none ∧
      lastApplied greeting = c.activeSubject ∧
      ∀ exchange, .asked exchange ∈ greeting → exchange.call.isOperation = false := by
    cases hactive : c.activeSubject with
    | none =>
      rw [hnone hactive]
      exact ⟨List.forall_mem_nil _, rfl, rfl, fun _ hmem => absurd hmem List.not_mem_nil⟩
    | some active =>
      obtain ⟨outcome, rfl⟩ := htold active hactive
      refine ⟨?_, rfl, rfl, fun exchange hmem => ?_⟩
      · rw [List.forall_mem_singleton]
        exact ⟨rfl, rfl⟩
      · rw [List.mem_singleton] at hmem
        cases hmem
        rfl
  obtain ⟨hleaves, hrequested, happlied, hop⟩ := hgreeting
  have hlast : lastRequested (timeline ++ (handshake sink handle (c.generation + 1) device ++ greeting)) =
      c.activeSubject := by
    refine h.remembered_of_none ?_
    rw [lastRequested_append, hrequested, lastRequested_handshake]
    rfl
  refine ⟨h.numbered_succ ?_, hlast, nofun, fun other hother => ?_, h.introduced.append ?_⟩
  · rw [List.filterMap_append, numbers_handshake, numbers_of_leaves hleaves, List.append_nil]
  · cases hother
    refine ⟨greeting, ⟨timeline, by rw [List.append_assoc], fun active hactive => ?_, hleaves⟩, ?_⟩
    · rw [h.remembered] at hactive
      obtain ⟨outcome, hgreeting⟩ := htold active hactive
      exact ⟨outcome, [], hgreeting⟩
    · rw [hlast, happlied]
  · intro exchange hmem
    rcases List.mem_append.1 hmem with hmem | hmem
    · exact not_isOperation_of_mem_handshake hmem
    · exact hop exchange hmem

/-- Every move keeps a connection settled. -/
theorem move (h : Settled sink timeline c) (hmove : Move sink c more c') :
    Settled sink (timeline ++ more) c' := by
  cases hmove with
  | unlinked handle fault hnone =>
    refine h.refused hnone rfl rfl (fun exchange hmem => ?_) (h.closed hnone)
    rw [List.mem_singleton] at hmem
    cases hmem
    rfl
  | mute handle fault hnone =>
    refine h.refused hnone rfl rfl (fun exchange hmem => ?_) rfl
    rw [List.mem_cons, List.mem_singleton] at hmem
    rcases hmem with hmem | hmem <;> cases hmem <;> rfl
  | unopened handle fault hnone =>
    refine h.refused hnone ?_ ?_ (fun exchange hmem => ?_) rfl
    · rw [List.filterMap_append, numbers_introduction]
      rfl
    · rw [lastRequested_append, lastRequested_introduction]
      rfl
    · rcases List.mem_append.1 hmem with hmem | hmem
      · exact not_isOperation_of_mem_introduction hmem
      · rw [List.mem_singleton] at hmem
        cases hmem
        rfl
  | acquired handle device hnone hactive =>
    rw [← List.append_nil (handshake ..)]
    refine h.taken handle device c.lastApplied (fun active hsome => ?_) fun _ => rfl
    rw [hactive] at hsome
    cases hsome
  | greeted handle device active outcome status hnone hactive =>
    refine h.taken handle device status (fun other hother => ?_) fun hnone => ?_
    · rw [hactive] at hother
      cases hother
      exact ⟨outcome, rfl⟩
    · rw [hactive] at hnone
      cases hnone
  | asked exchange hheld hop =>
    obtain ⟨since, hsince, happlied⟩ := h.held _ hheld
    obtain ⟨hnumber, hnone⟩ := Happening.asked_of_isOperation hop
    have hlast : lastRequested (timeline ++ [.asked exchange]) = c.activeSubject :=
      h.remembered_of_none (lastRequested_asked exchange)
    refine ⟨?_, hlast, h.closed, fun other hhandle => ?_, h.introduced.asked hsince happlied⟩
    · rw [List.filterMap_append, List.filterMap_cons_none hnumber, List.filterMap_nil, List.append_nil,
        h.numbered]
    · rw [hheld] at hhandle
      cases hhandle
      refine ⟨since ++ [.asked exchange], hsince.append ?_, ?_⟩
      · rw [List.forall_mem_singleton]
        exact ⟨rfl, DriverCall.isIntroductory_of_isOperation hop⟩
      · have hmore : lastApplied [.asked exchange] = none := by
          rw [lastApplied, List.filterMap_cons_none hnone]
          rfl
        rw [hlast, lastApplied_append, hmore, Option.none_or, happlied, h.remembered]
  | requested active hnone =>
    refine ⟨?_, ?_, h.closed, fun handle hhandle => ?_, h.introduced.append (by simp)⟩
    · rw [List.filterMap_append, h.numbered]
      exact List.append_nil _
    · rw [lastRequested_append]
      rfl
    · dsimp only at hhandle
      rw [hnone] at hhandle
      cases hhandle
  | applied handle active outcome status hheld =>
    obtain ⟨since, hsince, -⟩ := h.held _ hheld
    have hlast : lastRequested (timeline ++ [.requested active, told handle active outcome]) = some active := by
      rw [lastRequested_append]
      rfl
    refine ⟨?_, hlast, fun hnone => ?_, fun other hhandle => ?_, h.introduced.append fun exchange hmem => ?_⟩
    · rw [List.filterMap_append, h.numbered]
      exact List.append_nil _
    · dsimp only at hnone
      rw [hheld] at hnone
      cases hnone
    · dsimp only at hhandle
      rw [hheld] at hhandle
      cases hhandle
      refine ⟨since ++ [.requested active, told handle active outcome], hsince.append ?_, ?_⟩
      · simp [Happening.Leaves, told, DriverCall.isIntroductory]
      · rw [hlast, lastApplied_append]
        rfl
    · rw [List.mem_cons, List.mem_singleton] at hmem
      rcases hmem with hmem | hmem <;> cases hmem
      rfl
  | lost hheld =>
    refine ⟨?_, h.remembered_of_none rfl, fun _ => rfl, nofun, h.introduced.append (by simp)⟩
    rw [List.filterMap_append, h.numbered]
    exact List.append_nil _

theorem moves (h : Moves sink {} timeline c) : Settled sink timeline c := by
  induction h with
  | refl => exact settled_nil
  | tail _ hmove ih => exact ih.move hmove

end Settled

end

end Fingerprint
