import Fingerprint.Proofs.Episode

/-!
# The slots

What holds of the slots in every view that episodes lead to from a sound one:
each session is in the slot of its kind, an enrollment and an authentication
are never active at the same time, and whoever waits for the death of a
session's caller waits for the right one.

* `View.Sound`;
* `Episode.sound`: an episode keeps a view sound;
* `Episode.snapshot`: what entries say of the slots.
-/

namespace Fingerprint

namespace View

variable {κ : Type} {v v' : View κ} {x : Session}

/-- The slots are in order. -/
structure Sound (v : View κ) : Prop where
  sorted : ∀ kind x, v.slots.get kind = some x → x.kind = kind
  exclusive : v.slots.enroll = none ∨ v.slots.authenticate = none
  numbered : ∀ kind x, v.slots.get kind = some x → x.id < v.nextSession
  watched : ∀ watch ∈ v.liveness.entries, ∀ kind id, watch.onDeath = some (.endSession kind id) →
    id < v.nextSession ∧ ∀ x, v.slots.get kind = some x → x.id = id → x.caller = watch.caller
  distinct : ∀ watch ∈ v.liveness.entries, watch.id < v.liveness.nextId ∧
    ∀ other ∈ v.liveness.entries, other.id = watch.id → other = watch

/-- What holds of a slot once a session has got it, or none. -/
theorem get_set_cases {slots : Slots} {kind other : SessionKind} {y : Option Session} {x : Session}
    (h : (slots.set kind y).get other = some x) :
    other = kind ∧ y = some x ∨ other ≠ kind ∧ slots.get other = some x := by
  by_cases hkind : other = kind
  · rw [hkind, Slots.get_set_self] at h
    exact .inl ⟨hkind, h⟩
  · rw [Slots.get_set_of_ne _ _ hkind] at h
    exact .inr ⟨hkind, h⟩

theorem mem_of_mem_release {x : Session} {table : Liveness (DeathAction κ)}
    {watch : Watch (DeathAction κ)}
    (h : watch ∈ (Host.releaseSession (some x) table).entries) : watch ∈ table.entries := by
  change watch ∈ (x.registration.release table).2.entries at h
  rw [Registration.release] at h
  cases hid : x.registration.id with
  | none => simpa [hid] using h
  | some id => exact (Liveness.mem_unregister.1 (by simpa [hid] using h)).1

namespace Sound

theorem framed (h : v.Sound) (hframed : v.Framed v') : v'.Sound := by
  obtain ⟨hslots, hliveness, hnext, -⟩ := hframed
  refine ⟨?_, ?_, ?_, ?_, ?_⟩
  · rw [hslots]
    exact h.sorted
  · rw [hslots]
    exact h.exclusive
  · rw [hslots, hnext]
    exact h.numbered
  · rw [hslots, hliveness, hnext]
    exact h.watched
  · rw [hliveness]
    exact h.distinct

theorem number (h : v.Sound) : { v with nextSession := v.nextSession + 1 }.Sound where
  sorted := h.sorted
  exclusive := h.exclusive
  numbered kind x hx := Nat.lt_succ_of_lt (h.numbered kind x hx)
  watched watch hwatch kind id hdeath := by
    obtain ⟨hid, hcaller⟩ := h.watched watch hwatch kind id hdeath
    exact ⟨Nat.lt_succ_of_lt hid, hcaller⟩
  distinct := h.distinct

theorem enter (h : v.Sound) (hid : x.id = v.nextSession)
    (alone : x.kind ≠ .remove → v.slots.enroll = none ∧ v.slots.authenticate = none)
    (message : Bytes) : (v.enter x message).Sound where
  sorted kind y hy := by
    rcases get_set_cases hy with ⟨hkind, hx⟩ | ⟨-, hy⟩
    · rw [← Option.some.inj hx, hkind]
    · exact h.sorted kind y hy
  exclusive := by
    change (v.slots.set x.kind (some x)).enroll = none ∨
      (v.slots.set x.kind (some x)).authenticate = none
    cases hkind : x.kind with
    | enroll => exact .inr (alone (by simp [hkind])).2
    | authenticate => exact .inl (alone (by simp [hkind])).1
    | remove => exact h.exclusive
  numbered kind y hy := by
    change y.id < v.nextSession + 1
    rcases get_set_cases hy with ⟨-, hx⟩ | ⟨-, hy⟩
    · rw [← Option.some.inj hx, hid]
      exact Nat.lt_succ_self _
    · exact Nat.lt_succ_of_lt (h.numbered kind y hy)
  watched watch hwatch kind id hdeath := by
    change id < v.nextSession + 1 ∧ _
    -- An old registration is not for the newcomer, whose identity comes next.
    rcases List.mem_append.1 hwatch with hold | hnew
    · obtain ⟨hlt, hcaller⟩ := h.watched watch hold kind id hdeath
      refine ⟨Nat.lt_succ_of_lt hlt, fun y hy hyid => ?_⟩
      rcases get_set_cases hy with ⟨-, hx⟩ | ⟨-, hy⟩
      · rw [← hyid, ← Option.some.inj hx, hid] at hlt
        exact absurd hlt (Nat.lt_irrefl _)
      · exact hcaller y hy hyid
    · obtain rfl := List.mem_singleton.1 hnew
      cases hdeath
      refine ⟨by rw [hid]; exact Nat.lt_succ_self _, fun y hy hyid => ?_⟩
      rcases get_set_cases hy with ⟨-, hx⟩ | ⟨hne, -⟩
      · rw [← Option.some.inj hx]
      · exact absurd rfl hne
  distinct watch hwatch := by
    change watch.id < v.liveness.nextId + 1 ∧ _
    have hlt {other : Watch (DeathAction κ)} (hother : other ∈ v.liveness.entries) :
        other.id < v.liveness.nextId :=
      (h.distinct other hother).1
    -- The number of the new registration is above all others.
    rcases List.mem_append.1 hwatch with hold | hnew
    · refine ⟨Nat.lt_succ_of_lt (hlt hold), fun other hother hid => ?_⟩
      rcases List.mem_append.1 hother with hold' | hnew'
      · exact (h.distinct watch hold).2 other hold' hid
      · obtain rfl := List.mem_singleton.1 hnew'
        exact absurd hid (Nat.ne_of_gt (hlt hold))
    · obtain rfl := List.mem_singleton.1 hnew
      refine ⟨Nat.lt_succ_self _, fun other hother hid => ?_⟩
      rcases List.mem_append.1 hother with hold' | hnew'
      · exact absurd hid (Nat.ne_of_lt (hlt hold'))
      · exact List.mem_singleton.1 hnew'

theorem leave (h : v.Sound) (x : Session) : (v.leave x).Sound := by
  have hslots {kind y} (hy : (v.slots.set x.kind none).get kind = some y) :
      v.slots.get kind = some y := by
    rcases get_set_cases hy with ⟨-, hnone⟩ | ⟨-, hy⟩
    · cases hnone
    · exact hy
  have hold {watch} (hwatch : watch ∈ (v.leave x).liveness.entries) : watch ∈ v.liveness.entries :=
    mem_of_mem_release hwatch
  refine ⟨fun kind y hy => h.sorted kind y (hslots hy), ?_,
    fun kind y hy => h.numbered kind y (hslots hy), ?_, ?_⟩
  · change (v.slots.set x.kind none).enroll = none ∨ (v.slots.set x.kind none).authenticate = none
    cases x.kind with
    | enroll => exact .inl rfl
    | authenticate => exact .inr rfl
    | remove => exact h.exclusive
  · intro watch hwatch kind id hdeath
    obtain ⟨hlt, hcaller⟩ := h.watched watch (hold hwatch) kind id hdeath
    exact ⟨hlt, fun y hy => hcaller y (hslots hy)⟩
  · intro watch hwatch
    obtain ⟨hlt, hdistinct⟩ := h.distinct watch (hold hwatch)
    refine ⟨?_, fun other hother => hdistinct other (hold hother)⟩
    change watch.id < (x.registration.release v.liveness).2.nextId
    rw [Registration.release]
    cases x.registration.id <;> exact hlt

/-- The slots of a fresh view are empty. -/
theorem fresh : ({} : View κ).Sound where
  sorted kind x hx := by cases kind <;> cases hx
  exclusive := .inl rfl
  numbered kind x hx := by cases kind <;> cases hx
  watched watch hwatch := by cases hwatch
  distinct watch hwatch := by cases hwatch

end Sound

end View

variable {κ : Type} {v v' : View κ}

/-- What an episode does to the slots: nothing, or a session gets its slot or leaves it. -/
theorem Episode.sound (h : Episode v v') (hv : v.Sound) : v'.Sound := by
  cases h with
  | noted h => exact hv.framed h.framed
  | lockout lockout => exact hv.framed (.lockout v lockout)
  | numbered => exact hv.number
  | refused _ kept told => exact hv.number.framed (kept.framed.trans told.framed)
  | mourned => exact hv.framed (.log rfl (by simp [Entry.slots?]))
  | launched hid _ _ alone _ asked => exact (hv.enter hid alone _).framed asked.framed
  | progressed _ _ told => exact hv.framed told.framed
  | parted _ parting => exact (hv.framed parting.framed).leave _

theorem Episodes.sound (h : Episodes v v') (hv : v.Sound) : v'.Sound := by
  induction h with
  | refl => exact hv
  | tail _ step ih => exact step.sound ih

/-- Nothing is forgotten. -/
theorem Episode.mem_history (h : Episode v v') {entry : Entry} (hentry : entry ∈ v.history) :
    entry ∈ v'.history := by
  cases h with
  | noted h => exact h.framed.mem_history hentry
  | lockout => exact hentry
  | numbered => exact hentry
  | refused _ kept told => exact (kept.framed.trans told.framed).mem_history hentry
  | mourned => exact List.mem_append_left _ hentry
  | launched _ _ _ _ _ asked => exact asked.framed.mem_history (List.mem_append_left _ hentry)
  | progressed _ _ told => exact told.framed.mem_history hentry
  | parted _ parting => exact List.mem_append_left _ (parting.framed.mem_history hentry)

/-- What an entry says of the slots was so before or after the episode in which it was taken. -/
theorem Episode.snapshot (h : Episode v v') {entry : Entry} (hentry : entry ∈ v'.history) :
    entry ∈ v.history ∨ ∀ held ∈ entry.slots?, held = v.slots ∨ held = v'.slots := by
  have hframed {v₁ v₂ : View κ} (h : v₁.Framed v₂) (hentry : entry ∈ v₂.history) :
      entry ∈ v₁.history ∨ ∀ held ∈ entry.slots?, held = v₁.slots := by
    obtain ⟨entries, hentries, hall⟩ := h.history
    rw [hentries] at hentry
    exact (List.mem_append.1 hentry).imp_right fun hnew => (hall entry hnew).2
  cases h with
  | noted h => exact (hframed h.framed hentry).imp_right fun h held hheld => .inl (h held hheld)
  | lockout => exact .inl hentry
  | numbered => exact .inl hentry
  | refused _ kept told =>
    have hboth := hframed (kept.framed.trans told.framed) hentry
    exact hboth.imp_right fun h held hheld => .inl (h held hheld)
  | mourned =>
    refine (hframed ?_ hentry).imp_right fun h held hheld => .inl (h held hheld)
    exact .log rfl (by simp [Entry.slots?])
  | launched _ _ _ _ _ asked =>
    -- What the start itself says was so only after it.
    rcases hframed asked.framed hentry with hentered | hnew
    · rcases List.mem_append.1 hentered with hold | hstart
      · exact .inl hold
      · obtain rfl := List.mem_singleton.1 hstart
        refine .inr fun held hheld => .inr ?_
        rw [asked.framed.slots, ← Option.some.inj hheld]
        rfl
    · exact .inr fun held hheld => .inr ((hnew held hheld).trans asked.framed.slots.symm)
  | progressed _ _ told =>
    exact (hframed told.framed hentry).imp_right fun h held hheld => .inl (h held hheld)
  | parted _ parting =>
    rcases List.mem_append.1 hentry with hbefore | hremoved
    · exact (hframed parting.framed hbefore).imp_right fun h held hheld => .inl (h held hheld)
    · obtain rfl := List.mem_singleton.1 hremoved
      refine .inr fun held hheld => .inr ?_
      rw [← Option.some.inj hheld]
      rfl

end Fingerprint
