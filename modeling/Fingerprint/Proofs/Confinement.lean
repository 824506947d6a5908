import Fingerprint.Proofs.Occupancy
import Fingerprint.Proofs.Slots

/-!
# Whom episodes concern

An episode concerns one session at most: the one that gets its slot, is told
something, or parts. All others keep their slots meanwhile, no sink is called
but the session's own, and the driver is not asked to give up an operation of
another kind.

* `Entry.givenUp?`: what the driver is asked to give up;
* `View.About`: what is put down is about one session at most;
* `View.Spares`: what is kept for all sessions but those that satisfy `P`;
* `EpisodeOf`, `EpisodesOf`: episodes of sessions that satisfy `P`, which are
  thorough unless sessions may be dropped;
* `EpisodesOf.spares`, `EpisodesOf.thorough`.
-/

namespace Fingerprint

namespace Entry

/-- The kind of session whose operation the driver was asked to give up. -/
def givenUp? : Entry → Option SessionKind
  | called (.driver _ call) .. => call.cancels
  | _ => none

theorem givenUp?_eq_none {entry : Entry} (h : entry.isNote) : entry.givenUp? = none := by
  cases entry with
  | published | emitted => rfl
  | called call =>
    cases call with
    | driver handle call =>
      cases call with
      | cancelEnroll | cancelAuthenticate => cases h
      | _ => rfl
    | _ => rfl

/-- An entry is about no session but one: no sink is called but its own, on its behalf, and the driver
    is not asked to give up an operation of another kind. -/
structure About (x : Session) (entry : Entry) : Prop where
  sink : ∀ name ∈ entry.sink?, x.sink = some name ∧ entry.addressee? = some x.id
  givenUp : ∀ kind ∈ entry.givenUp?, kind = x.kind

/-- An entry, taken while sessions were in their slots, is about none of them but those that
    satisfy `P`: no sinks are called but theirs. -/
structure Spares (P : Session → Prop) (held : Slots) (entry : Entry) : Prop where
  sink : ∀ name ∈ entry.sink?, ∃ x, P x ∧ x.sink = some name
  addressee : ∀ kind x, held.get kind = some x → ¬P x → entry.addressee? ≠ some x.id
  givenUp : ∀ kind ∈ entry.givenUp?, ∃ x, P x ∧ x.kind = kind

/-- What is about nobody. -/
theorem About.of_none {entry : Entry} (hsink : entry.sink? = none) (hgivenUp : entry.givenUp? = none)
    (x : Session) : entry.About x := by
  constructor
  · simp [hsink]
  · simp [hgivenUp]

/-- Nothing is said on behalf of anybody else. -/
theorem About.addressee_eq {entry : Entry} {x : Session} (h : entry.About x) {id : Nat}
    (haddressee : entry.addressee? = some id) : id = x.id := by
  obtain ⟨name, hname⟩ := Option.isSome_iff_exists.1 (sink?_isSome haddressee)
  exact Option.some.inj (haddressee.symm.trans (h.sink name hname).2)

theorem Spares.of_none {entry : Entry} (hsink : entry.sink? = none) (hgivenUp : entry.givenUp? = none)
    (P : Session → Prop) (held : Slots) : entry.Spares P held := by
  constructor
  · simp [hsink]
  · simp [addressee?_eq_none hsink]
  · simp [hgivenUp]

/-- What is about a session that satisfies `P` spares all that have other identities. -/
theorem About.spares {entry : Entry} {x : Session} (h : entry.About x) {P : Session → Prop} (hx : P x)
    {held : Slots} (hothers : ∀ kind y, held.get kind = some y → ¬P y → y.id ≠ x.id) :
    entry.Spares P held where
  sink name hname := ⟨x, hx, (h.sink name hname).1⟩
  addressee kind y hy hP haddressee := hothers kind y hy hP (h.addressee_eq haddressee)
  givenUp kind hkind := ⟨x, hx, (h.givenUp kind hkind).symm⟩

end Entry

namespace View

variable {κ : Type} {v v' v₁ v₂ v₃ : View κ} {x : Session} {callback : Callback} {delivered : Bool}

/-! ## What is put down of a session -/

/-- From `v` to `v'` nothing was put down but what is about one session at most. -/
def About (x : Session) (v v' : View κ) : Prop :=
  ∃ entries, v'.history = v.history ++ entries ∧ ∀ entry ∈ entries, entry.About x

namespace About

theorem refl (x : Session) (v : View κ) : v.About x v := ⟨[], (List.append_nil _).symm, by simp⟩

theorem trans (h₁ : v₁.About x v₂) (h₂ : v₂.About x v₃) : v₁.About x v₃ := by
  obtain ⟨entries, hentries, habout⟩ := h₁
  obtain ⟨more, hmore, habout'⟩ := h₂
  exact ⟨entries ++ more, by rw [hmore, hentries, List.append_assoc],
    List.forall_mem_append.2 ⟨habout, habout'⟩⟩

theorem of_entry {entry : Entry} (hhistory : v'.history = v.history ++ [entry]) (h : entry.About x) :
    v.About x v' :=
  ⟨[entry], hhistory, List.forall_mem_singleton.2 h⟩

end About

theorem Noted.about (h : v.Noted v') (x : Session) : v.About x v' := by
  obtain ⟨connection, entries, hentries, rfl, -⟩ := h
  refine ⟨entries, rfl, fun entry hentry => ?_⟩
  have hnote := (hentries entry hentry).1
  exact .of_none (Entry.sink?_eq_none hnote) (Entry.givenUp?_eq_none hnote) x

theorem Kept.about (h : v.Kept v') (x : Session) : v.About x v' := h.1.about x

theorem Eased.about (h : v.Eased v') (x : Session) : v.About x v' := Kept.about h x

theorem Delivered.about (h : v.Delivered x callback delivered v') : v.About x v' := by
  cases h with
  | nowhere => exact .refl x v
  | @called sink outcome _ hsink kept =>
    have hcall : v.About x (v.log [.called (.sink sink callback) outcome v.slots (some x.id)]) :=
      .of_entry rfl ⟨fun name hname => ⟨Option.some.inj hname ▸ hsink, rfl⟩, nofun⟩
    exact hcall.trans (kept.about x)

theorem Asked.about {call : DriverCall} {outcome : Except Fault call.Reply} (h : v.Asked call outcome v')
    (hcall : ∀ kind ∈ call.cancels, kind = x.kind) : v.About x v' := by
  obtain ⟨handle, -, hlogged⟩ := h
  have hasked : v.About x (v.log [.called (.driver handle call) outcome v.slots v.speaker]) :=
    .of_entry rfl ⟨nofun, hcall⟩
  exact hasked.trans (hlogged.noted.about x)

theorem Halted.about (h : v.Halted x.kind v') : v.About x v' := by
  cases h with
  | asked hcall asked =>
    refine asked.about fun kind hkind => ?_
    rw [hcall] at hkind
    exact (Option.some.inj hkind).symm
  | remove => exact .refl x v

theorem Stopped.about (h : v.Stopped x.kind v') : v.About x v' := by
  obtain ⟨v₁, hkept, hhalted | ⟨-, hkept'⟩⟩ := h
  · exact (hkept.about x).trans hhalted.about
  · exact (hkept.about x).trans (hkept'.about x)

/-- Up to the end of a session all is about that session. -/
theorem Parting.about (h : v.Parting x v') : v.About x v' := by
  cases h with
  | canceled kept halted told => exact ((kept.about x).trans halted.about).trans told.about
  | rejected _ kept told => exact (kept.about x).trans told.about
  | died => exact .of_entry rfl (.of_none rfl rfl x)
  | asked told _ eased stopped => exact (told.about.trans (eased.about x)).trans stopped.about
  | unasked told _ kept => exact told.about.trans (kept.about x)
  | @lockedOut _ _ _ _ _ v₂ _ _ _ lockout settings _ told kept warned kept' stopped =>
    have hentered : v₂.About x (v₂.lockOut lockout settings) := .of_entry rfl (.of_none rfl rfl x)
    have hwarned := ((told.about.trans (kept.about x)).trans hentered).trans warned.about
    exact hwarned.trans ((kept'.about x).trans stopped.about)

/-! ## What is spared -/

/-- No two sessions in their slots have the same identity. -/
def Distinct (v : View κ) : Prop :=
  ∀ kind kind' x y, v.slots.get kind = some x → v.slots.get kind' = some y → x.id = y.id → x = y

/-- From `v` to `v'` the sessions that do not satisfy `P` keep their slots, no others of them get
    one, and all that was put down is about sessions that satisfy `P`. -/
structure Spares (P : Session → Prop) (v v' : View κ) : Prop where
  slots : ∀ kind x, ¬P x → (v'.slots.get kind = some x ↔ v.slots.get kind = some x)
  history : ∃ entries, v'.history = v.history ++ entries ∧ ∀ entry ∈ entries, entry.Spares P v.slots

namespace Spares

variable {P Q : Session → Prop}

/-- What leaves the slots alone, and is about nobody. -/
theorem of_slots_eq {entries : List Entry} (hslots : v'.slots = v.slots)
    (hhistory : v'.history = v.history ++ entries)
    (hentries : ∀ entry ∈ entries, entry.sink? = none ∧ entry.givenUp? = none) : v.Spares P v' := by
  refine ⟨fun kind x _ => by rw [hslots], entries, hhistory, fun entry hentry => ?_⟩
  exact .of_none (hentries entry hentry).1 (hentries entry hentry).2 P v.slots

theorem refl (P : Session → Prop) (v : View κ) : v.Spares P v :=
  .of_slots_eq rfl (List.append_nil _).symm (by simp)

theorem trans (h₁ : v₁.Spares P v₂) (h₂ : v₂.Spares P v₃) : v₁.Spares P v₃ := by
  refine ⟨fun kind x hx => (h₂.slots kind x hx).trans (h₁.slots kind x hx), ?_⟩
  obtain ⟨entries, hentries, hspares⟩ := h₁.history
  obtain ⟨more, hmore, hspares'⟩ := h₂.history
  refine ⟨entries ++ more, by rw [hmore, hentries, List.append_assoc], ?_⟩
  refine List.forall_mem_append.2
    ⟨hspares, fun entry hentry => ⟨(hspares' entry hentry).sink, ?_, (hspares' entry hentry).givenUp⟩⟩
  -- Whoever was spared so far is still in the slots.
  intro kind x hx hP
  exact (hspares' entry hentry).addressee kind x ((h₁.slots kind x hP).2 hx) hP

/-- What is about a session that satisfies `P`, and leaves the slots of others alone. -/
theorem of_about (habout : v.About x v') (hx : P x)
    (hothers : ∀ kind y, v.slots.get kind = some y → ¬P y → y.id ≠ x.id)
    (hslots : ∀ kind y, ¬P y → (v'.slots.get kind = some y ↔ v.slots.get kind = some y)) :
    v.Spares P v' := by
  obtain ⟨entries, hentries, habout⟩ := habout
  exact ⟨hslots, entries, hentries, fun entry hentry => (habout entry hentry).spares hx hothers⟩

end Spares

theorem Noted.spares (h : v.Noted v') (P : Session → Prop) : v.Spares P v' := by
  obtain ⟨connection, entries, hentries, rfl, -⟩ := h
  refine .of_slots_eq rfl rfl fun entry hentry => ?_
  have hnote := (hentries entry hentry).1
  exact ⟨Entry.sink?_eq_none hnote, Entry.givenUp?_eq_none hnote⟩

theorem Distinct.framed (h : v.Distinct) (hframed : v.Framed v') : v'.Distinct := by
  rw [Distinct, hframed.slots]
  exact h

end View

/-! ## Episodes -/

variable {κ : Type} {v v' v₁ : View κ} {P Q : Session → Prop} {x : Session}

/-- In every episode the sessions in their slots are told apart by their identities. -/
theorem Episode.distinct (h : Episode v v') (hv : v.Sound) (hdistinct : v.Distinct) : v'.Distinct := by
  cases h with
  | noted h => exact hdistinct.framed h.framed
  | lockout | numbered | mourned => exact hdistinct
  | refused _ kept told =>
    have hnumbered : ({ v with nextSession := v.nextSession + 1 } : View κ).Distinct := hdistinct
    exact hnumbered.framed (kept.framed.trans told.framed)
  | @launched x message _ _ _ hid _ _ _ _ asked =>
    have hentered : (v.enter x message).Distinct := by
      intro kind kind' y z hy hz hyz
      -- The newcomer has an identity above all others.
      rcases View.get_set_cases hy with ⟨-, hy⟩ | ⟨-, hy⟩ <;>
        rcases View.get_set_cases hz with ⟨-, hz⟩ | ⟨-, hz⟩
      · exact Option.some.inj (hy.symm.trans hz)
      · have hlt := hv.numbered kind' z hz
        rw [← hyz, ← Option.some.inj hy, hid] at hlt
        exact absurd hlt (Nat.lt_irrefl _)
      · have hlt := hv.numbered kind y hy
        rw [hyz, ← Option.some.inj hz, hid] at hlt
        exact absurd hlt (Nat.lt_irrefl _)
      · exact hdistinct kind kind' y z hy hz hyz
    exact hentered.framed asked.framed
  | progressed _ _ told => exact hdistinct.framed told.framed
  | parted _ parting =>
    intro kind kind' y z hy hz
    have hbefore := hdistinct.framed parting.framed
    rcases View.get_set_cases hy with ⟨-, hnone⟩ | ⟨-, hy⟩
    · cases hnone
    rcases View.get_set_cases hz with ⟨-, hnone⟩ | ⟨-, hz⟩
    · cases hnone
    exact hbefore kind kind' y z hy hz

/-- A sink is called on behalf of a session that is active then, or has just come and gets no slot; and it
    is the sink of that session. -/
theorem Episode.addressed (h : Episode v v') (hv : v.Sound) {entry : Entry} (hentry : entry ∈ v'.history)
    {name : SinkName} (hname : entry.sink? = some name) :
    entry ∈ v.history ∨ ∃ x : Session, x.sink = some name ∧ entry.addressee? = some x.id ∧
      (v.slots.get x.kind = some x ∨ v'.slots.get x.kind = some x ∨
        x.id = v.nextSession ∧ v'.nextSession = v.nextSession + 1 ∧ v'.slots = v.slots) := by
  have hnew {x : Session} (habout : v.About x v') :
      entry ∈ v.history ∨ x.sink = some name ∧ entry.addressee? = some x.id := by
    obtain ⟨entries, hentries, hall⟩ := habout
    rw [hentries] at hentry
    exact (List.mem_append.1 hentry).imp_right fun hmem => (hall entry hmem).sink name hname
  have hnobody (hsame : entry ∈ v.history ∨ entry.sink? = none) : entry ∈ v.history := by
    refine hsame.resolve_right fun hnone => ?_
    rw [hnone] at hname
    cases hname
  cases h with
  | noted h =>
    obtain ⟨connection, entries, hentries, rfl, -⟩ := h
    refine .inl (hnobody ((List.mem_append.1 hentry).imp_right fun hmem => ?_))
    exact Entry.sink?_eq_none (hentries entry hmem).1
  | lockout | numbered => exact .inl hentry
  | mourned =>
    refine .inl (hnobody ((List.mem_append.1 hentry).imp_right fun hmem => ?_))
    rw [List.mem_singleton.1 hmem]
    rfl
  | @refused x _ _ v₁ _ hxid kept told =>
    have hframed := kept.framed.trans told.framed
    refine (hnew ((kept.about x).trans told.about)).imp_right fun ⟨hsink, hid⟩ => ?_
    exact ⟨x, hsink, hid, .inr (.inr ⟨hxid, hframed.nextSession, hframed.slots⟩)⟩
  | @launched x message call _ _ _ _ _ _ hcall asked =>
    have hcancels : ∀ kind ∈ call.cancels, kind = x.kind := by
      intro kind hkind
      cases call <;> first | cases hcall | cases hkind
    have hentered : v.About x (v.enter x message) := .of_entry rfl (.of_none rfl rfl x)
    refine (hnew (hentered.trans (asked.about hcancels))).imp_right fun ⟨hsink, hid⟩ => ?_
    refine ⟨x, hsink, hid, .inr (.inl ?_)⟩
    rw [asked.framed.slots]
    exact Slots.get_set_self ..
  | @progressed kind x _ _ hslot _ told =>
    refine (hnew told.about).imp_right fun ⟨hsink, hid⟩ => ?_
    exact ⟨x, hsink, hid, .inl (hv.sorted kind x hslot ▸ hslot)⟩
  | @parted kind x v₁ hslot parting =>
    have hleft : v₁.About x (v₁.leave x) := .of_entry rfl (.of_none rfl rfl x)
    refine (hnew (parting.about.trans hleft)).imp_right fun ⟨hsink, hid⟩ => ?_
    exact ⟨x, hsink, hid, .inl (hv.sorted kind x hslot ▸ hslot)⟩

theorem View.Distinct.fresh : ({} : View κ).Distinct := by
  intro kind _ x _ hx
  cases kind <;> cases hx

/-- An episode that concerns nobody, or a session that satisfies `P`. Unless sessions may be dropped,
    it is thorough. -/
def EpisodeOf (P : Session → Prop) (dropped : Prop) (v v' : View κ) : Prop :=
  Episode v v' ∧ (v.Sound → v.Distinct → v.Spares P v') ∧ (¬dropped → v.Thorough v')

namespace EpisodeOf

variable {dropped dropped' : Prop}

theorem noted (h : v.Noted v') : EpisodeOf P dropped v v' :=
  ⟨.noted h, fun _ _ => h.spares P, fun _ => .of_noted h⟩

theorem lockout (lockout : Lockout) : EpisodeOf P dropped v { v with lockout } :=
  ⟨.lockout lockout, fun _ _ => .of_slots_eq rfl (List.append_nil _).symm (by simp),
    fun _ => .of_entries (List.append_nil _).symm (by simp) fun _ _ _ hv => hv⟩

theorem numbered : EpisodeOf P dropped v { v with nextSession := v.nextSession + 1 } :=
  ⟨.numbered, fun _ _ => .of_slots_eq rfl (List.append_nil _).symm (by simp),
    fun _ => .of_entries (List.append_nil _).symm (by simp) fun _ _ _ hv => hv⟩

theorem mourned (caller : CallerToken) (registrations : Nat) :
    EpisodeOf P dropped v (v.log [.published (Host.callerDiedEvent caller registrations) v.slots]) :=
  ⟨.mourned caller registrations,
    fun _ _ => .of_slots_eq rfl rfl (List.forall_mem_singleton.2 ⟨rfl, rfl⟩),
    fun _ => .of_idle (.log rfl (by simp [Entry.slots?])) (.log rfl) fun _ hv => hv⟩

/-- A session that satisfies `P` gets no slot. -/
theorem refused {callback : Callback} {delivered : Bool} (hx : P x) (hid : x.id = v.nextSession)
    (kept : { v with nextSession := v.nextSession + 1 }.Kept v₁)
    (told : v₁.Delivered x callback delivered v') : EpisodeOf P dropped v v' := by
  refine ⟨.refused hid kept told, fun hv _ => ?_, fun _ => ?_⟩
  · have hslots : v'.slots = v.slots := (kept.framed.trans told.framed).slots
    have habout : v.About x v' := (kept.about x).trans told.about
    refine .of_about habout hx (fun kind y hy _ => ?_) fun kind y _ => by rw [hslots]
    rw [hid]
    exact Nat.ne_of_lt (hv.numbered kind y hy)
  · have hnumbered : v.Thorough { v with nextSession := v.nextSession + 1 } :=
      .of_entries (List.append_nil _).symm (by simp) fun _ _ _ hv => hv
    exact hnumbered.trans (.of_idle (kept.framed.trans told.framed) (kept.idle.trans told.idle)
      fun _ hv => told.connected (kept.connected hv))

/-- A session that satisfies `P` gets its slot. -/
theorem launched {message : Bytes} {call : DriverCall} {outcome : Except Fault call.Reply} (hx : P x)
    (hid : x.id = v.nextSession) (hregistration : x.registration = ⟨some v.liveness.nextId, x.caller⟩)
    (vacant : v.slots.get x.kind = none)
    (alone : x.kind ≠ .remove → v.slots.enroll = none ∧ v.slots.authenticate = none)
    (hcall : call.begins = some x.kind) (asked : (v.enter x message).Asked call outcome v') :
    EpisodeOf P dropped v v' := by
  refine ⟨.launched hid hregistration vacant alone hcall asked, fun hv _ => ?_,
    fun _ => .launched asked⟩
  have hentered : v.About x (v.enter x message) := .of_entry rfl (.of_none rfl rfl x)
  have hcancels : ∀ kind ∈ call.cancels, kind = x.kind := by
    intro kind hkind
    cases call <;> first | cases hcall | cases hkind
  refine .of_about (hentered.trans (asked.about hcancels)) hx (fun kind y hy _ => ?_) fun kind y hP => ?_
  · rw [hid]
    exact Nat.ne_of_lt (hv.numbered kind y hy)
  · rw [asked.framed.slots]
    change (v.slots.set x.kind (some x)).get kind = some y ↔ _
    by_cases hkind : kind = x.kind
    · subst hkind
      rw [Slots.get_set_self, vacant]
      exact ⟨fun hy => absurd (Option.some.inj hy ▸ hx) hP, nofun⟩
    · rw [Slots.get_set_of_ne _ _ hkind]

/-- A session that satisfies `P` is told of progress. -/
theorem progressed {kind : SessionKind} {callback : Callback} (hx : P x)
    (hslot : v.slots.get kind = some x) (running : callback.isTerminal = false)
    (told : v.Delivered x callback true v') : EpisodeOf P dropped v v' := by
  refine ⟨.progressed hslot running told, fun _ hdistinct => ?_,
    fun _ => .of_idle told.framed told.idle fun _ => told.connected⟩
  refine .of_about told.about hx (fun kind' y hy hP hyx => ?_) fun kind' y _ => by rw [told.framed.slots]
  exact hP (hdistinct kind' kind y x hy hslot hyx ▸ hx)

/-- A session that satisfies `P` comes to its end. Unless it may be dropped, its operation is over
    by then. -/
theorem parted {kind : SessionKind} (hx : P x) (hslot : v.slots.get kind = some x)
    (parting : v.Parting x v')
    (hover : ¬dropped → Obliging v'.history → v.connected → x.kind ≠ .remove →
      outstanding x.kind v'.history = false) : EpisodeOf P dropped v (v'.leave x) := by
  refine ⟨.parted hslot parting, fun hv hdistinct => ?_, fun hkept => .parted parting (hover hkept)⟩
  obtain rfl := hv.sorted kind x hslot
  have hleft : v'.About x (v'.leave x) := .of_entry rfl (.of_none rfl rfl x)
  refine .of_about (parting.about.trans hleft) hx (fun kind y hy hP hyx => ?_) fun kind y hP => ?_
  · exact hP (hdistinct kind x.kind y x hy hslot hyx ▸ hx)
  · change (v'.slots.set x.kind none).get kind = some y ↔ _
    rw [parting.framed.slots]
    by_cases hkind : kind = x.kind
    · subst hkind
      rw [Slots.get_set_self, hslot]
      exact ⟨nofun, fun hy => absurd (Option.some.inj hy ▸ hx) hP⟩
    · rw [Slots.get_set_of_ne _ _ hkind]

theorem mono (h : EpisodeOf P dropped v v') (hPQ : ∀ x, P x → Q x) (hdropped : dropped → dropped') :
    EpisodeOf Q dropped' v v' := by
  refine ⟨h.1, fun hv hdistinct => ?_, fun hkept => h.2.2 fun hdrop => hkept (hdropped hdrop)⟩
  obtain ⟨hslots, entries, hentries, hspares⟩ := h.2.1 hv hdistinct
  refine ⟨fun kind x hx => hslots kind x fun hP => hx (hPQ x hP), entries, hentries, fun entry hentry => ?_⟩
  obtain ⟨hsink, haddressee, hgivenUp⟩ := hspares entry hentry
  refine ⟨fun name hname => ?_, fun kind x hx hQ => haddressee kind x hx fun hP => hQ (hPQ x hP), fun kind hkind => ?_⟩
  · obtain ⟨x, hP, hx⟩ := hsink name hname
    exact ⟨x, hPQ x hP, hx⟩
  · obtain ⟨x, hP, hx⟩ := hgivenUp kind hkind
    exact ⟨x, hPQ x hP, hx⟩

end EpisodeOf

/-- Episodes, one after the other, that concern nobody but sessions that satisfy `P`, and are
    thorough unless sessions may be dropped. -/
abbrev EpisodesOf (P : Session → Prop) (dropped : Prop) : View κ → View κ → Prop :=
  Relation.ReflTransGen (EpisodeOf P dropped)

namespace EpisodesOf

variable {dropped dropped' : Prop}

theorem episodes (h : EpisodesOf P dropped v v') : Episodes v v' :=
  Relation.ReflTransGen.mono (fun _ _ hepisode => hepisode.1) _ _ h

theorem sound (h : EpisodesOf P dropped v v') (hv : v.Sound) : v'.Sound := h.episodes.sound hv

theorem mono (h : EpisodesOf P dropped v v') (hPQ : ∀ x, P x → Q x) (hdropped : dropped → dropped') :
    EpisodesOf Q dropped' v v' :=
  Relation.ReflTransGen.mono (fun _ _ hepisode => hepisode.mono hPQ hdropped) _ _ h

/-- They spare all other sessions. -/
theorem spares (h : EpisodesOf P dropped v v') (hv : v.Sound) (hdistinct : v.Distinct) : v.Spares P v' := by
  have hall : v.Spares P v' ∧ v'.Sound ∧ v'.Distinct := by
    induction h with
    | refl => exact ⟨.refl P v, hv, hdistinct⟩
    | tail _ hlast ih =>
      obtain ⟨hspares, hsound, hdistinct⟩ := ih
      exact ⟨hspares.trans (hlast.2.1 hsound hdistinct), hlast.1.sound hsound,
        hlast.1.distinct hsound hdistinct⟩
  exact hall.1

/-- No session leaves its slot on the way while its operation goes on. -/
theorem thorough (h : EpisodesOf P False v v') : v.Thorough v' := by
  induction h with
  | refl => exact .of_framed (.refl v) fun _ _ _ hv => hv
  | tail _ hlast ih => exact ih.trans (hlast.2.2 not_false)

end EpisodesOf

end Fingerprint
