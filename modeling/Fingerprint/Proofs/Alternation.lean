import Fingerprint.Proofs.Ledger

/-!
# Sessions take turns

Along every run, the sessions of each kind take turns in their slot: one gets
it when it is empty, and keeps it until it leaves it empty. An enrollment and
an authentication never have their slots at the same time.

* `Alternates`: the starts and removals of a kind that a history tells of take
  turns, and between them the slot holds what they say;
* `Record.Reachable.exclusive_and_alternates`.
-/

namespace Fingerprint

namespace Entry

/-- Whether an entry tells of a session of a kind that gets its slot, or leaves it. -/
def isTurnOf (kind : SessionKind) : Entry → Bool
  | published event slots =>
    (published event slots).isTurn && event.field? "kind" == some (kind.name : Bytes)
  | _ => false

theorem isTurnOf_eq_false {entry : Entry} (h : entry.isTurn = false) (kind : SessionKind) :
    entry.isTurnOf kind = false := by
  cases entry with
  | published event slots => rw [isTurnOf, h, Bool.false_and]
  | called => rfl
  | emitted => rfl

end Entry

namespace Event

/-- Whether an event tells of a session of a kind and of a caller. -/
def TellsOf (event : Event) (kind : SessionKind) (caller : CallerToken) : Prop :=
  event.field? "kind" = some (kind.name : Bytes) ∧
    event.field? "caller" = some (Bytes.ofNat caller.toNat)

end Event

/-- In a history, the starts and the removals of sessions of a kind take turns, a start
    first, and both tell of the same caller. The slot is empty before a start and after the
    removal that goes with it; in between it holds one session. What it holds at the end is
    the last argument. -/
inductive Alternates (kind : SessionKind) : List Entry → Option Session → Prop
  | nil : Alternates kind [] none
  | other {history : List Entry} {held : Option Session} {entry : Entry}
      (h : Alternates kind history held)
      (hturn : entry.isTurnOf kind = false)
      (hslots : ∀ slots ∈ entry.slots?, slots.get kind = held) :
      Alternates kind (history ++ [entry]) held
  | started {history : List Entry} {event : Event} {slots : Slots} {x : Session}
      (h : Alternates kind history none)
      (hid : event.id = "session_started") (htells : event.TellsOf kind x.caller)
      (hslots : slots.get kind = some x) :
      Alternates kind (history ++ [.published event slots]) (some x)
  | removed {history : List Entry} {event : Event} {slots : Slots} {x : Session}
      (h : Alternates kind history (some x)) (hid : event.id = "session_removed")
      (htells : event.TellsOf kind x.caller) (hslots : slots.get kind = none) :
      Alternates kind (history ++ [.published event slots]) none

namespace Alternates

variable {kind : SessionKind} {history : List Entry} {held : Option Session}

/-- Entries that tell of no turn change nothing. -/
theorem append (h : Alternates kind history held) {entries : List Entry}
    (hentries : ∀ entry ∈ entries, entry.isTurnOf kind = false ∧
      ∀ slots ∈ entry.slots?, slots.get kind = held) :
    Alternates kind (history ++ entries) held := by
  induction entries generalizing history with
  | nil => rwa [List.append_nil]
  | cons entry entries ih =>
    obtain ⟨⟨hturn, hslots⟩, hrest⟩ := List.forall_mem_cons.1 hentries
    rw [List.append_cons]
    exact ih (h.other hturn hslots) hrest

end Alternates

namespace View

variable {κ : Type} {v v' : View κ} {x : Session}

/-- The sessions of each kind take turns. -/
def Alternating (v : View κ) : Prop := ∀ kind, Alternates kind v.history (v.slots.get kind)

namespace Alternating

theorem framed (h : v.Alternating) (hframed : v.Framed v') : v'.Alternating := by
  intro kind
  obtain ⟨entries, hentries, hall⟩ := hframed.history
  rw [hentries, hframed.slots]
  refine (h kind).append fun entry hentry => ?_
  obtain ⟨hturn, hslots⟩ := hall entry hentry
  exact ⟨Entry.isTurnOf_eq_false hturn kind, fun slots hheld => by rw [hslots slots hheld]⟩

/-- The turn of one kind is no turn of another. -/
theorem isTurnOf_of_ne {event : Event} {slots : Slots} {kind other : SessionKind}
    {caller : CallerToken} (htells : event.TellsOf kind caller) (hne : other ≠ kind) :
    (Entry.published event slots).isTurnOf other = false := by
  have hname : (kind.name : Bytes) ≠ other.name := by
    cases kind <;> cases other <;> first | exact absurd rfl hne | decide
  rw [Entry.isTurnOf, htells.1]
  simp [hname]

theorem enter (h : v.Alternating) (vacant : v.slots.get x.kind = none) (message : Bytes) :
    (v.enter x message).Alternating := by
  have htells : (x.startedEvent message).TellsOf x.kind x.caller := ⟨rfl, rfl⟩
  intro kind
  change Alternates kind (v.history ++ [_]) ((v.slots.set x.kind (some x)).get kind)
  by_cases hkind : kind = x.kind
  · subst hkind
    rw [Slots.get_set_self]
    exact (vacant ▸ h x.kind).started rfl htells (Slots.get_set_self ..)
  · rw [Slots.get_set_of_ne _ _ hkind]
    refine (h kind).other (isTurnOf_of_ne htells hkind) fun slots hslots => ?_
    rw [← Option.some.inj hslots, Slots.get_set_of_ne _ _ hkind]

theorem leave (h : v.Alternating) (hslot : v.slots.get x.kind = some x) :
    (v.leave x).Alternating := by
  have htells : x.removedEvent.TellsOf x.kind x.caller := ⟨rfl, rfl⟩
  intro kind
  change Alternates kind (v.history ++ [_]) ((v.slots.set x.kind none).get kind)
  by_cases hkind : kind = x.kind
  · subst hkind
    rw [Slots.get_set_self]
    exact (hslot ▸ h x.kind).removed rfl htells (Slots.get_set_self ..)
  · rw [Slots.get_set_of_ne _ _ hkind]
    refine (h kind).other (isTurnOf_of_ne htells hkind) fun slots hslots => ?_
    rw [← Option.some.inj hslots, Slots.get_set_of_ne _ _ hkind]

end Alternating

end View

section

variable {κ : Type} {v v' : View κ}

/-- A session starts when its slot is empty, and is removed from it. -/
theorem Episode.alternating (h : Episode v v') (hv : v.Sound) (halternating : v.Alternating) :
    v'.Alternating := by
  cases h with
  | noted h => exact halternating.framed h.framed
  | lockout lockout => exact halternating.framed (.lockout v lockout)
  | numbered => exact halternating
  | refused _ kept told =>
    have hnumbered : View.Alternating { v with nextSession := v.nextSession + 1 } := halternating
    exact hnumbered.framed (kept.framed.trans told.framed)
  | mourned => exact halternating.framed (.log rfl (by simp [Entry.slots?]))
  | launched _ _ vacant _ _ asked => exact (halternating.enter vacant _).framed asked.framed
  | progressed _ _ told => exact halternating.framed told.framed
  | parted hslot parting =>
    refine (halternating.framed parting.framed).leave ?_
    rw [parting.framed.slots, hv.sorted _ _ hslot, hslot]

/-- No two of the sessions that exclude each other were in their slots at the same time, at
    any time. -/
theorem Episode.exclusive (h : Episode v v') (hv : v.Sound)
    (hbefore : ∀ entry ∈ v.history, ∀ slots ∈ entry.slots?,
      slots.enroll = none ∨ slots.authenticate = none) :
    ∀ entry ∈ v'.history, ∀ slots ∈ entry.slots?,
      slots.enroll = none ∨ slots.authenticate = none := by
  intro entry hentry slots hslots
  rcases h.snapshot hentry with hold | hnew
  · exact hbefore entry hold slots hslots
  · rcases hnew slots hslots with rfl | rfl
    · exact hv.exclusive
    · exact (h.sound hv).exclusive

end

/-- Along every run, an enrollment and an authentication are never active at the same time,
    and the sessions of each kind take turns in their slot. -/
theorem Record.Reachable.exclusive_and_alternates {ω κ : Type} {host : Host ω κ}
    {record : Record host} {s : System ω κ} (h : record.Reachable s) :
    (s.slots.enroll = none ∨ s.slots.authenticate = none) ∧
      (∀ entry ∈ record.history s.world, ∀ slots ∈ entry.slots?,
        slots.enroll = none ∨ slots.authenticate = none) ∧
      ∀ kind, Alternates kind (record.history s.world) (s.slots.get kind) := by
  have hall := h.invariant (P := fun v => v.Sound ∧
      (∀ entry ∈ v.history, ∀ slots ∈ entry.slots?,
        slots.enroll = none ∨ slots.authenticate = none) ∧
      v.Alternating) ?_ ?_
  · exact ⟨hall.1.exclusive, hall.2⟩
  · exact ⟨.fresh, by simp, fun kind => by cases kind <;> exact .nil⟩
  · rintro v v' hepisode ⟨hsound, hexclusive, halternating⟩
    exact ⟨hepisode.sound hsound, hepisode.exclusive hsound hexclusive,
      hepisode.alternating hsound halternating⟩

/-- An authentication takes the place of an enrollment. -/
theorem Record.Reachable.alternates_of_preemption :
    let tasks := [.startEnrollment 1 (some "a") {}, .startAuthentication 2 (some "b") {}]
    let s := Ledger.perform {} Ledger.obliging tasks
    s.slots.authenticate.isSome ∧ s.slots.enroll = none ∧
      Alternates .enroll s.world none ∧ Alternates .authenticate s.world s.slots.authenticate := by
  intro tasks s
  obtain ⟨-, -, halternates⟩ :=
    (Ledger.reachable_perform {} Ledger.obliging tasks).exclusive_and_alternates
  exact ⟨by decide, by decide, halternates .enroll, halternates .authenticate⟩

end Fingerprint
