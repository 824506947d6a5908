import Fingerprint.Proofs.Ledger
import Fingerprint.Proofs.Tale

/-!
# What callers are told

Along every run, each session whose sink takes its callbacks is told the last
exactly once, unless its caller has died: then it is not told. A failure that
enters the lockout is told in addition. Nothing is told once a session has
left its slot, and nothing since somebody else has cancelled.

* `Episode.newcomer`: who may have got a slot in an episode;
* `View.Tells`: what has been told of a session, active or not;
* `View.Chronicled`: what is told of whom;
* `Record.Reachable.told_last_once`: the last is told exactly once.
-/

namespace Fingerprint

variable {κ : Type} {v v' : View κ}

/-- In an episode slots are only emptied, or a session gets one that never had one, and
    then nothing is told of anybody. -/
theorem Episode.newcomer (h : Episode v v') :
    (∀ kind x, v'.slots.get kind = some x → v.slots.get kind = some x) ∨
      ∃ y, y.id = v.nextSession ∧ v'.nextSession = v.nextSession + 1 ∧
        v'.slots = v.slots.set y.kind (some y) ∧
        y.Slotted v'.history ∧ ∀ x : Session, x.tale v'.history = x.tale v.history := by
  have hframed {v₁ v₂ : View κ} (h : v₁.Framed v₂) {kind x} (hx : v₂.slots.get kind = some x) :
      v₁.slots.get kind = some x := h.slots ▸ hx
  cases h with
  | noted h => exact .inl fun kind x => hframed h.framed
  | lockout => exact .inl fun kind x hx => hx
  | numbered => exact .inl fun kind x hx => hx
  | refused _ kept told => exact .inl fun kind x => hframed (kept.framed.trans told.framed)
  | mourned => exact .inl fun kind x hx => hx
  | @launched y message _ _ _ hid _ _ _ _ asked =>
    refine .inr ⟨y, hid, asked.framed.nextSession, asked.framed.slots, ?_, fun x => ?_⟩
    · refine ⟨_, asked.framed.mem_history (List.mem_append_right _ (List.mem_singleton_self _)), _,
        rfl, ?_⟩
      exact Slots.get_set_self ..
    · rw [asked.quiet.tale x, View.tale_enter]
  | progressed _ _ told => exact .inl fun kind x => hframed told.framed
  | parted _ parting =>
    refine .inl fun kind x hx => ?_
    rcases View.get_set_cases hx with ⟨-, hnone⟩ | ⟨-, hx⟩
    · cases hnone
    · exact hframed parting.framed hx

theorem Episode.nextSession_le (h : Episode v v') : v.nextSession ≤ v'.nextSession := by
  have hframed {v₁ v₂ : View κ} (h : v₁.Framed v₂) : v₁.nextSession ≤ v₂.nextSession :=
    Nat.le_of_eq h.nextSession.symm
  cases h with
  | noted h => exact hframed h.framed
  | lockout => exact Nat.le_refl _
  | numbered => exact Nat.le_succ _
  | refused _ kept told => exact Nat.le_of_succ_le (hframed (kept.framed.trans told.framed))
  | mourned => exact Nat.le_refl _
  | launched _ _ _ _ _ asked => exact Nat.le_of_succ_le (hframed asked.framed)
  | progressed _ _ told => exact hframed told.framed
  | parted _ parting => exact Nat.le_of_eq parting.framed.nextSession.symm

/-- A session that is not in its slot does not get it, unless it has just come. -/
theorem Episode.stays_away (h : Episode v v') {x : Session} (hid : x.id < v.nextSession)
    (hslot : v.slots.get x.kind ≠ some x) : v'.slots.get x.kind ≠ some x := by
  intro hget
  rcases h.newcomer with hold | ⟨z, hzid, -, hset, -⟩
  · exact hslot (hold _ x hget)
  · rw [hset] at hget
    rcases View.get_set_cases hget with ⟨-, hz⟩ | ⟨-, hget⟩
    -- A newcomer has the identity that comes next.
    · rw [← Option.some.inj hz, hzid] at hid
      exact absurd hid (Nat.lt_irrefl _)
    · exact hslot hget

theorem Episodes.nextSession_le (h : Episodes v v') : v.nextSession ≤ v'.nextSession := by
  induction h with
  | refl => exact Nat.le_refl _
  | tail _ hlast ih => exact Nat.le_trans ih hlast.nextSession_le

theorem Episodes.stays_away (h : Episodes v v') {x : Session} (hid : x.id < v.nextSession)
    (hslot : v.slots.get x.kind ≠ some x) : x.id < v'.nextSession ∧ v'.slots.get x.kind ≠ some x := by
  induction h with
  | refl => exact ⟨hid, hslot⟩
  | tail _ hlast ih => exact ⟨Nat.lt_of_lt_of_le ih.1 hlast.nextSession_le, hlast.stays_away ih.1 ih.2⟩

/-- What is told of others is not told of a session that is not in its slot. -/
theorem Episode.tale_other (h : Episode v v') (hv : v.Sound) {x : Session}
    (hslot : v.slots.get x.kind ≠ some x)
    (hothers : ∀ kind y, v.slots.get kind = some y → y.id ≠ x.id)
    (hnext : x.id = v.nextSession → v'.nextSession = v.nextSession) :
    x.tale v'.history = x.tale v.history := by
  cases h with
  | noted h => exact h.quiet.tale x
  | lockout => rfl
  | numbered => rfl
  | refused hid kept told =>
    rw [told.tale_other, kept.quiet.tale x]
    intro hsame
    -- Whoever is refused has an identity of its own, which is used up by that.
    have hnumber := (kept.framed.trans told.framed).nextSession
    rw [hnext (hsame.symm.trans hid)] at hnumber
    exact absurd hnumber.symm (Nat.succ_ne_self _)
  | mourned =>
    rw [View.tale_log, Session.word?, if_neg hslot]
    exact List.append_nil _
  | launched _ _ _ _ _ asked => rw [asked.quiet.tale x, View.tale_enter]
  | progressed hy _ told => rw [told.tale_other (hothers _ _ hy)]
  | parted hy parting =>
    have hy' := (hv.sorted _ _ hy).symm ▸ hy
    rw [View.tale_leave, parting.tale_other hy' _ (hothers _ _ hy)]
    rintro rfl
    exact hslot hy'

/-- The tale of a session goes on while it is in its slot, and has ended otherwise. -/
def View.Tells (v : View κ) (x : Session) : Prop :=
  if v.slots.get x.kind = some x then Word.Ongoing (x.tale v.history)
  else Word.Ended (x.tale v.history)

theorem View.tells_of_slotted {x : Session} (hslot : v.slots.get x.kind = some x)
    (h : Word.Ongoing (x.tale v.history)) : v.Tells x := by
  rwa [View.Tells, if_pos hslot]

/-- What is told of a session that is in its slot. -/
theorem Episode.tale_self (h : Episode v v') (hv : v.Sound) {x : Session}
    (hslot : v.slots.get x.kind = some x)
    (hothers : ∀ kind y, v.slots.get kind = some y → y.id = x.id → y = x) (hsink : x.sink.isSome)
    (heard : x.Heard v'.history) (hongoing : Word.Ongoing (x.tale v.history)) : v'.Tells x := by
  -- All but the end of the session itself leaves it in its slot.
  have hstays {v₂ : View κ} (hslots : v₂.slots = v.slots)
      (hgoing : Word.Ongoing (x.tale v₂.history)) : v₂.Tells x :=
    View.tells_of_slotted (by rw [hslots, hslot]) hgoing
  have hkinds {y : Session} (hne : y ≠ x) (hy : v.slots.get y.kind = some y) : x.kind ≠ y.kind := by
    intro hkind
    rw [hkind, hy] at hslot
    exact hne (Option.some.inj hslot)
  cases h with
  | noted h => exact hstays h.framed.slots (by rwa [h.quiet.tale x])
  | lockout => exact hstays rfl hongoing
  | numbered => exact hstays rfl hongoing
  | refused hid kept told =>
    refine hstays (kept.framed.trans told.framed).slots ?_
    rwa [told.tale_other (by rw [hid]; exact Nat.ne_of_gt (hv.numbered _ x hslot)),
      kept.quiet.tale x]
  | mourned caller registrations =>
    refine hstays rfl ?_
    rw [View.tale_log, Session.word?_callerDied]
    split
    · exact hongoing.append (.inl rfl)
    · rwa [Option.toList_none, List.append_nil]
  | @launched y _ _ _ _ _ _ vacant _ _ asked =>
    have hkind : x.kind ≠ y.kind := by
      intro hkind
      rw [← hkind, hslot] at vacant
      cases vacant
    have hslots : v'.slots.get x.kind = some x := by
      rw [asked.framed.slots]
      exact (Slots.get_set_of_ne _ _ hkind).trans hslot
    refine View.tells_of_slotted hslots ?_
    rwa [asked.quiet.tale x, View.tale_enter]
  | @progressed kind y callback _ hy running told =>
    refine hstays told.framed.slots ?_
    by_cases hid : y.id = x.id
    -- It is this session that is told of progress, so its tale goes on.
    · obtain rfl := hothers kind y hy hid
      obtain ⟨htale, -⟩ := told.tale_self hsink hslot heard
      rw [htale]
      exact hongoing.append (.inr ⟨callback, rfl, running⟩)
    · rwa [told.tale_other hid]
  | @parted kind y v₁ hy parting =>
    have hy' := (hv.sorted _ _ hy).symm ▸ hy
    by_cases hid : y.id = x.id
    -- It is this session that ends, and so does its tale.
    · obtain rfl := hothers kind y hy hid
      have hslots : (v₁.leave y).slots.get y.kind ≠ some y := by
        change (v₁.slots.set y.kind none).get y.kind ≠ some y
        rw [Slots.get_set_self]
        simp
      rw [View.Tells, if_neg hslots, View.tale_leave]
      exact parting.tale_self hsink hslot (heard.mono fun _ => List.mem_append_left _) hongoing
    · have hne : y ≠ x := by
        rintro rfl
        exact hid rfl
      have hslots : (v₁.leave y).slots.get x.kind = some x := by
        change (v₁.slots.set y.kind none).get x.kind = some x
        rw [Slots.get_set_of_ne _ _ (hkinds hne hy'), parting.framed.slots, hslot]
      refine View.tells_of_slotted hslots ?_
      rwa [View.tale_leave, parting.tale_other hy' hne.symm hid]

namespace View

/-- What is told of whom: nothing of sessions that are yet to come, and the tales of all
    others, as long as they are heard, are those of sessions that are active or have ended.
    Sinks are called on behalf of sessions, and on behalf of each its own only. -/
structure Chronicled (v : View κ) : Prop where
  sound : v.Sound
  slotted : ∀ kind x, v.slots.get kind = some x → x.Slotted v.history
  older : ∀ x : Session, x.Slotted v.history → x.id < v.nextSession
  identified : ∀ x y : Session, x.Slotted v.history → y.Slotted v.history → x.id = y.id → x = y
  unborn : ∀ x : Session, v.nextSession ≤ x.id → x.tale v.history = []
  addressed : ∀ entry ∈ v.history, ∀ name ∈ entry.sink?, ∃ id < v.nextSession, entry.addressee? = some id ∧
    ∀ x : Session, x.Slotted v.history → x.id = id → x.sink = some name
  tales : ∀ x : Session, x.Slotted v.history → x.sink.isSome → x.Heard v.history → v.Tells x

/-- At first nothing has happened. -/
theorem Chronicled.fresh : ({} : View κ).Chronicled where
  sound := .fresh
  slotted kind x hx := by cases kind <;> cases hx
  older x := by
    rintro ⟨entry, hentry, -⟩
    cases hentry
  identified x y := by
    rintro ⟨entry, hentry, -⟩
    cases hentry
  unborn x _ := rfl
  addressed entry hentry := absurd hentry List.not_mem_nil
  tales x := by
    rintro ⟨entry, hentry, -⟩
    cases hentry

variable (hv : v.Chronicled)

include hv

/-- Whoever has had a slot after an episode had it before, or has just got it, and then
    nothing is told of anybody. -/
theorem Chronicled.slotted_cases (h : Episode v v') {x : Session} (hx : x.Slotted v'.history) :
    x.Slotted v.history ∨ (x.id = v.nextSession ∧ v'.slots = v.slots.set x.kind (some x) ∧
      ∀ y : Session, y.tale v'.history = y.tale v.history) := by
  obtain ⟨entry, hentry, slots, hheld, hget⟩ := hx
  rcases h.snapshot hentry with hold | hnew
  · exact .inl ⟨entry, hold, slots, hheld, hget⟩
  rcases hnew slots hheld with rfl | rfl
  · exact .inl (hv.slotted _ x hget)
  rcases h.newcomer with hold | ⟨z, hid, -, hset, -, htales⟩
  · exact .inl (hv.slotted _ x (hold _ x hget))
  · rw [hset] at hget
    rcases get_set_cases hget with ⟨-, hz⟩ | ⟨-, hget⟩
    · obtain rfl := Option.some.inj hz
      exact .inr ⟨hid, hset, htales⟩
    · exact .inl (hv.slotted _ x hget)

theorem Chronicled.not_slotted {x : Session} (hid : v.nextSession ≤ x.id) (kind : SessionKind) :
    v.slots.get kind ≠ some x :=
  fun hx => absurd (hv.sound.numbered kind x hx) (Nat.not_lt.2 hid)

theorem Chronicled.identified_of_episode (h : Episode v v') {x y : Session}
    (hx : x.Slotted v'.history) (hy : y.Slotted v'.history) (hid : x.id = y.id) : x = y := by
  rcases hv.slotted_cases h hx with hx | ⟨hxid, hxset, -⟩ <;>
    rcases hv.slotted_cases h hy with hy | ⟨hyid, hyset, -⟩
  · exact hv.identified x y hx hy hid
  · exact absurd (hv.older x hx) (by rw [hid, hyid]; exact Nat.lt_irrefl _)
  · exact absurd (hv.older y hy) (by rw [← hid, hxid]; exact Nat.lt_irrefl _)
  · have hget : (v.slots.set x.kind (some x)).get y.kind = some y := by
      rw [← hxset, hyset, Slots.get_set_self]
    rcases get_set_cases hget with ⟨-, hsame⟩ | ⟨-, hget⟩
    · exact Option.some.inj hsame
    · exact absurd hget (hv.not_slotted (Nat.le_of_eq hyid.symm) _)

/-- Whoever is active after an episode has had a slot. -/
theorem Chronicled.slotted_of_episode (h : Episode v v') {kind : SessionKind} {x : Session}
    (hx : v'.slots.get kind = some x) : x.Slotted v'.history := by
  rcases h.newcomer with hold | ⟨z, -, -, hset, hslotted, -⟩
  · exact (hv.slotted kind x (hold kind x hx)).mono fun _ => h.mem_history
  · rw [hset] at hx
    rcases get_set_cases hx with ⟨-, hz⟩ | ⟨-, hx⟩
    · exact Option.some.inj hz ▸ hslotted
    · exact (hv.slotted kind x hx).mono fun _ => h.mem_history

/-- A sink that is called in an episode is that of the session on whose behalf it is. -/
theorem Chronicled.addressed_of_episode (h : Episode v v') {entry : Entry} (hentry : entry ∈ v'.history)
    {name : SinkName} (hname : entry.sink? = some name) :
    ∃ id < v'.nextSession, entry.addressee? = some id ∧
      ∀ x : Session, x.Slotted v'.history → x.id = id → x.sink = some name := by
  have hactive {y : Session} (hy : y.Slotted v'.history) (hsink : y.sink = some name) (x : Session)
      (hx : x.Slotted v'.history) (hsame : x.id = y.id) : x.sink = some name := by
    rw [hv.identified_of_episode h hx hy hsame, hsink]
  rcases h.addressed hv.sound hentry hname with hold | ⟨y, hsink, hid, hy | hy | ⟨hnext, hsucc, hslots⟩⟩
  · obtain ⟨id, hlt, hid, hown⟩ := hv.addressed entry hold name hname
    refine ⟨id, Nat.lt_of_lt_of_le hlt h.nextSession_le, hid, fun x hx hxid => ?_⟩
    rcases hv.slotted_cases h hx with hx | ⟨hnext, -⟩
    · exact hown x hx hxid
    · exact absurd hlt (by rw [← hxid, hnext]; exact Nat.lt_irrefl _)
  · exact ⟨y.id, Nat.lt_of_lt_of_le (hv.sound.numbered _ y hy) h.nextSession_le, hid,
      hactive ((hv.slotted _ y hy).mono fun _ => h.mem_history) hsink⟩
  · exact ⟨y.id, (h.sound hv.sound).numbered _ y hy, hid, hactive (hv.slotted_of_episode h hy) hsink⟩
  -- Whoever gets no slot has an identity of its own.
  · refine ⟨y.id, by rw [hsucc, hnext]; exact Nat.lt_succ_self _, hid, fun x hx hxid => ?_⟩
    rcases hv.slotted_cases h hx with hx | ⟨-, hset, -⟩
    · exact absurd (hv.older x hx) (by rw [hxid, hnext]; exact Nat.lt_irrefl _)
    · have hx : v.slots.get x.kind = some x := by rw [← hslots, hset, Slots.get_set_self]
      exact absurd hx (hv.not_slotted (Nat.le_of_eq (hxid.trans hnext).symm) _)

/-- The tale of a session that had its slot before an episode, after it. -/
theorem Chronicled.tale_of_episode (h : Episode v v') {x : Session} (hx : x.Slotted v.history)
    (hsink : x.sink.isSome) (heard : x.Heard v'.history) : v'.Tells x := by
  have htale := hv.tales x hx hsink (heard.mono fun _ => h.mem_history)
  have hothers (kind) (y : Session) (hy : v.slots.get kind = some y) (hid : y.id = x.id) : y = x :=
    hv.identified y x (hv.slotted kind y hy) hx hid
  -- While it is in its slot its tale goes on. After that nothing is added any more.
  by_cases hslot : v.slots.get x.kind = some x
  · rw [Tells, if_pos hslot] at htale
    exact h.tale_self hv.sound hslot hothers hsink heard htale
  · rw [Tells, if_neg hslot] at htale
    rw [Tells, if_neg (h.stays_away (hv.older x hx) hslot), h.tale_other hv.sound hslot]
    · exact htale
    · intro kind y hy hid
      obtain rfl := hothers kind y hy hid
      exact hslot (hv.sound.sorted kind y hy ▸ hy)
    · exact fun hid => absurd (hv.older x hx) (by rw [hid]; exact Nat.lt_irrefl _)

end View

theorem Episode.chronicled (h : Episode v v') (hv : v.Chronicled) : v'.Chronicled where
  sound := h.sound hv.sound
  slotted kind x hx := hv.slotted_of_episode h hx
  older x hx := by
    rcases hv.slotted_cases h hx with hx | ⟨hid, hset, -⟩
    · exact Nat.lt_of_lt_of_le (hv.older x hx) h.nextSession_le
    · refine (h.sound hv.sound).numbered x.kind x ?_
      rw [hset, Slots.get_set_self]
  identified x y hx hy := hv.identified_of_episode h hx hy
  unborn x hid := by
    have hid' := Nat.le_trans h.nextSession_le hid
    rw [h.tale_other hv.sound (hv.not_slotted hid' _), hv.unborn x hid']
    · intro kind y hy hsame
      exact absurd (hv.sound.numbered kind y hy) (Nat.not_lt.2 (hsame ▸ hid'))
    · exact fun hsame => Nat.le_antisymm (hsame ▸ hid) h.nextSession_le
  addressed entry hentry name hname := hv.addressed_of_episode h hentry hname
  tales x hx hsink heard := by
    -- A session that has just got its slot has no tale yet.
    rcases hv.slotted_cases h hx with hx | ⟨hid, hset, htales⟩
    · exact hv.tale_of_episode h hx hsink heard
    · refine View.tells_of_slotted (by rw [hset, Slots.get_set_self]) ?_
      rw [htales x, hv.unborn x (Nat.le_of_eq hid.symm)]
      exact fun word hword => absurd hword List.not_mem_nil

namespace Record

variable {ω : Type} {host : Host ω κ} {record : Record host} {s : System ω κ}

theorem Reachable.chronicled (h : record.Reachable s) : (s.view record.history).Chronicled :=
  h.invariant .fresh fun _ _ => Episode.chronicled

/-- What somebody else cancels is not told of a session. -/
theorem Reachable.tale_cancel (h : record.Reachable s) {x : Session}
    (hx : x.Slotted (record.history s.world)) (kind : SessionKind) {caller : CallerToken}
    (hcaller : caller ≠ x.caller) :
    x.tale (record.history ((host.cancel kind caller).run s).2.world) =
      x.tale (record.history s.world) := by
  obtain ⟨_, -, hcancel⟩ := record.yields_cancel _ h.sound kind caller s rfl
  rcases hcancel with hkept | ⟨y, v₁, hy, hyc, hparting, -, hleave⟩
  · exact hkept.quiet.tale x
  · have hne : x ≠ y := by
      rintro rfl
      exact hcaller hyc.symm
    have hid : y.id ≠ x.id :=
      fun hid => hne (h.chronicled.identified y x (h.chronicled.slotted kind y hy) hx hid).symm
    have hy' := (h.sound.sorted kind y hy).symm ▸ hy
    change x.tale (((host.cancel kind caller).run s).2.view record.history).history = _
    rw [hleave, View.tale_leave, hparting.tale_other hy' hne hid]
    rfl

/-- A session whose sink takes its callbacks is not told the last while it is active. Once it
    has ended, its sink was told so exactly once, and besides of the lockout if it has entered it,
    or it was not told since its caller has died. All sinks are called on behalf of sessions, and on
    its behalf none is but its own.
    Nothing is told before it has its slot or after it has left it, nor since somebody else has
    cancelled. -/
theorem Reachable.told_last_once (h : record.Reachable s) {x : Session}
    (hx : x.Slotted (record.history s.world)) (hsink : x.sink.isSome)
    (heard : x.Heard (record.history s.world)) :
    (if s.slots.get x.kind = some x then Word.Ongoing (x.tale (record.history s.world))
      else Word.Ended (x.tale (record.history s.world))) ∧
    (∀ entry ∈ record.history s.world, ∀ name ∈ entry.sink?,
      ∃ id, entry.addressee? = some id ∧ (id = x.id → x.sink = some name)) ∧
    ∀ kind caller, caller ≠ x.caller →
      x.tale (record.history ((host.cancel kind caller).run s).2.world) =
        x.tale (record.history s.world) := by
  refine ⟨h.chronicled.tales x hx hsink heard, fun entry hentry name hname => ?_,
    fun kind _ hcaller => h.tale_cancel hx kind hcaller⟩
  obtain ⟨id, -, hid, hown⟩ := h.chronicled.addressed entry hentry name hname
  exact ⟨id, hid, fun hsame => hown x hx hsame.symm⟩

/-- An enrollment that its caller cancels is told so, at its own sink, and then nothing more. -/
theorem Reachable.told_last_once_of_cancel :
    let x : Session := ⟨0, .enroll, 1, some "a", 0, ⟨some 1, 1⟩⟩
    let tasks := [.startEnrollment 1 (some "a") {}, .cancel .enroll 1]
    let s := Ledger.perform {} Ledger.obliging tasks
    x.tale s.world = [.told (.error 1 SensorError.canceled.code)] ∧
      Word.Ended (x.tale s.world) ∧
        ∀ entry ∈ s.world, ∀ name ∈ entry.sink?,
          ∃ id, entry.addressee? = some id ∧ (id = x.id → x.sink = some name) := by
  intro x tasks s
  have hx : x.Slotted s.world := by
    unfold Session.Slotted
    decide
  have heard : x.Heard s.world := by
    unfold Session.Heard
    decide
  have htold := (Ledger.reachable_perform {} Ledger.obliging tasks).told_last_once hx rfl heard
  exact ⟨by decide, htold.1, htold.2.1⟩

end Record

end Fingerprint
