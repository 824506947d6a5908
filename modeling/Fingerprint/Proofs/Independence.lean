import Mathlib.Data.Set.Basic
import Fingerprint.Proofs.Conduct
import Fingerprint.Proofs.Registration

/-!
# Removals go their own way

Enrollments and authentications share the sensor, and the one makes room for
the other. Removals do not take part in this. Whatever becomes of enrollments
and authentications, and of callers other than the one who removes, the removal
stays where it is, is waited for as before, and nothing is said on its behalf:
the sinks that are called are those of the others. And whatever becomes of
removals, the same holds of enrollments and authentications, and the lockout is
left alone as well.

* `View.Orderly`: what is in order in every state that runs lead to;
* `Slots.sinks`: the sinks of the active sessions of certain kinds;
* `Record.Undisturbed`: what it is to leave the session of a kind alone;
* `EpisodesOf.undisturbed`: episodes of other kinds do so;
* `Host.BesideRemoval`, `Host.OfRemovals`: the two sorts of operations;
* `Record.Elapses`: a run of such operations;
* `Record.Reachable.independent`.
-/

namespace Fingerprint

variable {ω κ : Type}

/-- Whether an entry is for a session of a kind: at the death of the caller, that session ends. -/
def Watch.isOf (watch : Watch (DeathAction κ)) (kind : SessionKind) : Bool :=
  match watch.onDeath with
  | some (.endSession k _) => k = kind
  | _ => false

theorem Session.isOf_watch {x : Session} {kind : SessionKind} (n : Nat) :
    (x.watch n : Watch (DeathAction κ)).isOf kind ↔ x.kind = kind :=
  decide_eq_true_iff

theorem Session.isFor_watch {x : Session} {kind : SessionKind} {id : Nat} (n : Nat) :
    (x.watch n : Watch (DeathAction κ)).isFor kind id ↔ x.kind = kind ∧ x.id = id := by
  simp [Watch.isFor, Session.watch]

namespace View

variable {v v' : View κ}

/-- What is in order in every state that runs lead to. -/
structure Orderly (v : View κ) : Prop where
  sound : v.Sound
  distinct : v.Distinct
  registered : v.Registered

theorem Orderly.fresh : ({} : View κ).Orderly := ⟨.fresh, .fresh, .fresh⟩

theorem Orderly.episode (h : v.Orderly) (hepisode : Episode v v') : v'.Orderly :=
  ⟨hepisode.sound h.sound, hepisode.distinct h.sound h.distinct, hepisode.registered h.sound h.registered⟩

theorem Orderly.episodes (h : v.Orderly) (hepisodes : Episodes v v') : v'.Orderly := by
  induction hepisodes with
  | refl => exact h
  | tail _ hlast ih => exact ih.episode hlast

/-- The entry for a kind of session is the one that the session in its slot holds the handle to. -/
theorem Orderly.filter_isOf (h : v.Orderly) (kind : SessionKind) :
    v.liveness.entries.filter (·.isOf kind) =
      (v.slots.get kind).toList.map fun x => x.watch (x.registration.id.getD 0) := by
  cases hslot : v.slots.get kind with
  | none =>
    refine List.filter_eq_nil_iff.2 fun watch hwatch hof => ?_
    obtain ⟨k, y, hy, -, hown⟩ := h.registered.owned watch hwatch
    rw [hown, Session.isOf_watch, h.sound.sorted k y hy] at hof
    rw [hof, hslot] at hy
    cases hy
  | some x =>
    obtain ⟨n, hn, hmem⟩ := h.registered.held kind x hslot
    have hkind := h.sound.sorted kind x hslot
    -- An entry for the kind is for this very session.
    have hsame : v.liveness.entries.filter (·.isOf kind) =
        v.liveness.entries.filter (·.isFor kind x.id) := by
      refine List.filter_congr fun watch hwatch => Bool.eq_iff_iff.2 ?_
      obtain ⟨k, y, hy, -, hown⟩ := h.registered.owned watch hwatch
      rw [hown, Session.isOf_watch, Session.isFor_watch]
      refine ⟨fun hof => ⟨hof, ?_⟩, And.left⟩
      rw [← h.sound.sorted k y hy, hof, hslot] at hy
      rw [Option.some.inj hy]
    rw [hsame, h.registered.filter_isFor h.sound hslot hn hmem, Option.toList_some, List.map_singleton, hn,
      Option.getD_some]

end View

namespace Record

variable {host : Host ω κ} {record : Record host} {kind : SessionKind} {s s' s'' : System ω κ}

theorem Reachable.orderly (h : record.Reachable s) : (s.view record.history).Orderly :=
  h.invariant .fresh fun _ _ hepisode hv => hv.episode hepisode

/-! ## Left alone -/

/-- From `s` to `s'` the session of a kind is left alone, or there is none in either: its slot is as
    it was, and so is the entry that waits for the death of its caller; nothing was said on its behalf,
    no sinks were called but `others`, so its own was not unless it is one of these; and the driver was
    not asked to give up its operation. -/
structure Undisturbed (record : Record host) (kind : SessionKind) (others : Set SinkName)
    (s s' : System ω κ) : Prop where
  slot : s'.slots.get kind = s.slots.get kind
  registration : s'.liveness.entries.filter (·.isOf kind) = s.liveness.entries.filter (·.isOf kind)
  history : ∃ entries, record.history s'.world = record.history s.world ++ entries ∧
    ∀ entry ∈ entries, entry.givenUp? ≠ some kind ∧
      (∀ x ∈ s.slots.get kind, entry.addressee? ≠ some x.id) ∧ ∀ name ∈ entry.sink?, name ∈ others

variable {others : Set SinkName}

theorem Undisturbed.refl (record : Record host) (kind : SessionKind) (others : Set SinkName)
    (s : System ω κ) : record.Undisturbed kind others s s :=
  ⟨rfl, rfl, [], (List.append_nil _).symm, by simp⟩

theorem Undisturbed.trans (h : record.Undisturbed kind others s s')
    (h' : record.Undisturbed kind others s' s'') : record.Undisturbed kind others s s'' := by
  refine ⟨h'.slot.trans h.slot, h'.registration.trans h.registration, ?_⟩
  obtain ⟨entries, hentries, hall⟩ := h.history
  obtain ⟨more, hmore, hall'⟩ := h'.history
  rw [h.slot] at hall'
  exact ⟨entries ++ more, by rw [hmore, hentries, List.append_assoc],
    List.forall_mem_append.2 ⟨hall, hall'⟩⟩

end Record

/-- The sinks of the active sessions of certain kinds. -/
def Slots.sinks (slots : Slots) (kinds : Set SessionKind) : Set SinkName :=
  {name | ∃ kind ∈ kinds, ∃ x, slots.get kind = some x ∧ x.sink = some name}

/-- A session of certain kinds, with no other sink than some. -/
structure Session.Among (x : Session) (kinds : Set SessionKind) (sinks : Set SinkName) : Prop where
  kind : x.kind ∈ kinds
  sink : ∀ name ∈ x.sink, name ∈ sinks

/-- Episodes that concern sessions of other kinds only, and those of certain sinks, leave the session of
    a kind alone. -/
theorem EpisodesOf.undisturbed {host : Host ω κ} {record : Record host} {kind : SessionKind}
    {kinds : Set SessionKind} {others : Set SinkName} {dropped : Prop} {s s' : System ω κ}
    (h : EpisodesOf (·.Among kinds others) dropped (s.view record.history) (s'.view record.history))
    (hkind : kind ∉ kinds) (hs : (s.view record.history).Orderly) : record.Undisturbed kind others s s' := by
  have hs' := hs.episodes h.episodes
  obtain ⟨hslots, entries, hentries, hspares⟩ := h.spares hs.sound hs.distinct
  -- Nobody in the slot of the kind is concerned.
  have hbeside {v : View κ} (hv : v.Sound) {x : Session} (hx : v.slots.get kind = some x) :
      ¬x.Among kinds others := fun hamong => hkind (hv.sorted kind x hx ▸ hamong.kind)
  have hslot : s'.slots.get kind = s.slots.get kind := by
    refine Option.ext fun x => ⟨fun hx => ?_, fun hx => ?_⟩
    · exact (hslots kind x (hbeside hs'.sound hx)).1 hx
    · exact (hslots kind x (hbeside hs.sound hx)).2 hx
  refine ⟨hslot, ?_, entries, hentries, fun entry hentry => ⟨fun hgivenUp => ?_, fun x hx => ?_, fun name hname => ?_⟩⟩
  · have hbefore := hs.filter_isOf kind
    have hafter := hs'.filter_isOf kind
    change s.liveness.entries.filter _ = (s.slots.get kind).toList.map _ at hbefore
    change s'.liveness.entries.filter _ = (s'.slots.get kind).toList.map _ at hafter
    rw [hafter, hslot, ← hbefore]
  · obtain ⟨x, hamong, hxkind⟩ := (hspares entry hentry).givenUp kind hgivenUp
    exact hkind (hxkind ▸ hamong.kind)
  · exact (hspares entry hentry).addressee kind x hx (hbeside hs.sound hx)
  · obtain ⟨x, hamong, hsink⟩ := (hspares entry hentry).sink name hname
    exact hamong.sink name hsink

/-- Whoever is active after such episodes, and of the kinds that they concern, has one of the sinks if
    all had one of them before. -/
theorem EpisodesOf.sinks_subset {kinds : Set SessionKind} {others : Set SinkName} {dropped : Prop}
    {v v' : View κ} (h : EpisodesOf (·.Among kinds others) dropped v v') (hv : v.Orderly)
    (hbefore : v.slots.sinks kinds ⊆ others) : v'.slots.sinks kinds ⊆ others := by
  rintro name ⟨kind, hkind, x, hx, hname⟩
  by_cases hspared : x.Among kinds others
  · exact hspared.sink name hname
  · have hold := ((h.spares hv.sound hv.distinct).slots kind x hspared).1 hx
    exact hbefore ⟨kind, hkind, x, hold, hname⟩

/-! ## Two sorts of operations -/

/-- What goes on beside a removal, if there is one: enrollments and authentications are started, for
    callers with certain sinks, cancelled and stopped, the driver tells of them, and callers die other
    than the one who removes. The driver may die as well. -/
inductive Host.BesideRemoval (host : Host ω κ) (removal : Option Session) (sinks : Set SinkName) :
    Op ω κ Unit → Prop
  | startEnrollment (caller : CallerToken) {sink : Option SinkName} (request : EnrollRequest)
      (hsink : ∀ name ∈ sink, name ∈ sinks) :
      BesideRemoval host removal sinks (host.startEnrollment caller sink request)
  | startAuthentication (caller : CallerToken) {sink : Option SinkName} (request : AuthenticateRequest)
      (hsink : ∀ name ∈ sink, name ∈ sinks) :
      BesideRemoval host removal sinks (host.startAuthentication caller sink request)
  | cancelEnrollment (caller : CallerToken) : BesideRemoval host removal sinks (host.cancel .enroll caller)
  | cancelAuthentication (caller : CallerToken) :
      BesideRemoval host removal sinks (host.cancel .authenticate caller)
  | stopPendingOperations : BesideRemoval host removal sinks host.stopPendingOperations
  | enrollResult (device : UInt64) (id : UInt32) (subject remaining : Int32) :
      BesideRemoval host removal sinks (host.dispatch (.enrollResult device id subject remaining))
  | acquired (device : UInt64) (info : Int32) :
      BesideRemoval host removal sinks (host.dispatch (.acquired device info))
  | authenticated (device : UInt64) (id : UInt32) (subject : Int32) :
      BesideRemoval host removal sinks (host.dispatch (.authenticated device id subject))
  | callerDied {caller : CallerToken} (h : ∀ x ∈ removal, x.caller ≠ caller) :
      BesideRemoval host removal sinks (host.callerDied caller)
  | driverDied (generation : Nat) : BesideRemoval host removal sinks (host.driverDied generation)

/-- What is done about removals: they are started, for callers with certain sinks, and cancelled, and
    the driver tells of them. -/
inductive Host.OfRemovals (host : Host ω κ) (sinks : Set SinkName) : Op ω κ Unit → Prop
  | startRemove (caller : CallerToken) {sink : Option SinkName} (request : RemoveRequest)
      (hsink : ∀ name ∈ sink, name ∈ sinks) : OfRemovals host sinks (host.startRemove caller sink request)
  | cancel (caller : CallerToken) : OfRemovals host sinks (host.cancel .remove caller)
  | removed (device : UInt64) (id : UInt32) (subject : Int32) :
      OfRemovals host sinks (host.dispatch (.removed device id subject))

namespace Record

variable {host : Host ω κ} (record : Record host) {s s' : System ω κ} {op : Op ω κ Unit}
  {ops : Op ω κ Unit → Prop} {sinks others : Set SinkName}

/-- Beside a removal, all concerns enrollments and authentications. -/
theorem along_besideRemoval {v : View κ} (hv : v.Sound) (hsinks : sinks ⊆ others)
    (hactive : v.slots.sinks {.remove}ᶜ ⊆ others) (h : host.BesideRemoval v.slots.remove sinks op) :
    record.Along (EpisodesOf (·.Among {.remove}ᶜ others) True) v op := by
  have hold (x : Session) (hkind : x.kind ≠ .remove) (hslot : v.slots.get x.kind = some x) :
      x.Among {.remove}ᶜ others :=
    ⟨hkind, fun name hname => hactive ⟨x.kind, hkind, x, hslot, hname⟩⟩
  have hnew {kind : SessionKind} {caller : CallerToken} {sink : Option SinkName} (hkind : kind ≠ .remove)
      (hsink : ∀ name ∈ sink, name ∈ sinks) (x : Session) (hx : x.IsNew kind caller sink) :
      x.Among {.remove}ᶜ others :=
    ⟨hx.kind_eq.symm ▸ hkind, fun name hname => hsinks (hsink name (hx.sink_eq ▸ hname))⟩
  have hperform (task : Task κ)
      (hspares : ∀ x : Session, task.Concerns v.slots x → x.kind ≠ .remove ∧ v.slots.get x.kind = some x) :
      record.Along (EpisodesOf (·.Among {.remove}ᶜ others) True) v (host.perform task) :=
    Ensures.mono (record.along_perform v hv task) fun _ _ h =>
      h.mono (fun x hx => hold x (hspares x hx).1 (hspares x hx).2) fun _ => trivial
  have hthorough {op : Op ω κ Unit} (h : record.Along (EpisodesOf (·.Among {.remove}ᶜ others) False) v op) :
      record.Along (EpisodesOf (·.Among {.remove}ᶜ others) True) v op :=
    Ensures.mono h fun _ _ h => h.mono (fun _ => id) fun _ => trivial
  have hcancel {kind : SessionKind} (caller : CallerToken) (hne : kind ≠ .remove) :=
    hperform (.cancel kind caller) fun _ hx => ⟨hx.1 ▸ hne, hx.2.1⟩
  have hevent (event : DriverEvent) (hne : .remove ∉ event.kinds) :=
    hperform (.driverEvent event) fun _ hx => ⟨fun hremove => hne (hremove ▸ hx.1), hx.2⟩
  cases h with
  | startEnrollment caller request hsink =>
    exact hthorough (record.along_startEnrollment v hv caller _ request hold (hnew nofun hsink))
  | startAuthentication caller request hsink =>
    exact hthorough (record.along_startAuthentication v hv caller _ request hold (hnew nofun hsink))
  | cancelEnrollment caller => exact hcancel caller nofun
  | cancelAuthentication caller => exact hcancel caller nofun
  | stopPendingOperations =>
    exact hthorough ((record.yields_stopPendingOperations v hv hold).along fun _ _ h => h.1)
  | enrollResult device id subject remaining =>
    exact hevent (.enrollResult device id subject remaining) (by simp [DriverEvent.kinds])
  | acquired device info => exact hevent (.acquired device info) (by simp [DriverEvent.kinds])
  | authenticated device id subject =>
    exact hevent (.authenticated device id subject) (by simp [DriverEvent.kinds])
  | @callerDied caller hother =>
    refine hperform (.callerDied caller) fun x hx => ⟨fun hkind => ?_, hx.1⟩
    obtain ⟨hslot, hcaller⟩ := hx
    rw [hkind] at hslot
    exact hother x hslot hcaller
  | driverDied generation => exact hperform (.driverDied generation) fun x hx => hx.elim

/-- What is done about removals concerns nobody else. -/
theorem along_ofRemovals {v : View κ} (hv : v.Sound) (hsinks : sinks ⊆ others)
    (hactive : v.slots.sinks {.remove} ⊆ others) (h : host.OfRemovals sinks op) :
    record.Along (EpisodesOf (·.Among {.remove} others) True) v op := by
  have hold (x : Session) (hkind : x.kind = .remove) (hslot : v.slots.get x.kind = some x) :
      x.Among {.remove} others :=
    ⟨hkind, fun name hname => hactive ⟨x.kind, hkind, x, hslot, hname⟩⟩
  cases h with
  | startRemove caller request hsink =>
    refine Ensures.mono (record.along_startRemove v hv caller _ request hold fun x hx => ?_) fun _ _ h =>
      h.mono (fun _ => id) fun _ => trivial
    exact ⟨hx.kind_eq, fun name hname => hsinks (hsink name (hx.sink_eq ▸ hname))⟩
  | cancel caller =>
    exact Ensures.mono (record.along_perform v hv (.cancel .remove caller)) fun _ _ h =>
      h.mono (fun x hx => hold x hx.1 hx.2.1) fun _ => trivial
  | removed device id subject =>
    exact Ensures.mono (record.along_perform v hv (.driverEvent (.removed device id subject))) fun _ _ h =>
      h.mono (fun x hx => hold x (List.mem_singleton.1 hx.1) hx.2) fun _ => trivial

/-- Removals have nothing to do with the lockout. -/
theorem lockout_eq_of_ofRemovals (record : Record host) (h : host.OfRemovals sinks op) (s : System ω κ) :
    (op.run s).2.lockout = s.lockout := by
  have hperform (task : Task κ) (hconcerns : task.concernsAuthentication = false) :
      ((host.perform task).run s).2.lockout = s.lockout := by
    have hacts : Acts host False s ((host.perform task).run s).2 := Host.conducts_perform hconcerns s
    exact hacts.lockout_eq record
  cases h with
  | @startRemove caller sink request => exact hperform (.startRemove caller sink request) rfl
  | cancel caller => exact hperform (.cancel .remove caller) rfl
  | removed device id subject => exact hperform (.driverEvent (.removed device id subject)) rfl

/-! ## Runs of such operations -/

/-- One of some operations is run, whatever it ends with, or something goes on that concerns no
    session, on the queue, in the service or around it. -/
inductive Passes (record : Record host) (ops : Op ω κ Unit → Prop) : System ω κ → System ω κ → Prop
  | ran {op : Op ω κ Unit} (h : ops op) (s : System ω κ) : Passes record ops s (op.run s).2
  | elsewhere {s s' : System ω κ} (h : (s.view record.history).Noted (s'.view record.history)) :
      Passes record ops s s'

/-- A run of certain operations. -/
abbrev Elapses (record : Record host) (ops : Op ω κ Unit → Prop) : System ω κ → System ω κ → Prop :=
  Relation.ReflTransGen (record.Passes ops)

variable {record}

/-- Where the operations concern sessions of other kinds only, and of certain sinks, as long as the slot
    of a kind is as it was and all others have such sinks, the session of that kind is left alone. -/
theorem Elapses.undisturbed {kind : SessionKind} {kinds : Set SessionKind} (hkind : kind ∉ kinds)
    (h : record.Elapses ops s s') (hs : (s.view record.history).Orderly) (hactive : s.slots.sinks kinds ⊆ others)
    (hops : ∀ v : View κ, v.Sound → v.slots.get kind = s.slots.get kind → v.slots.sinks kinds ⊆ others →
      ∀ op, ops op → record.Along (EpisodesOf (·.Among kinds others) True) v op) :
    record.Undisturbed kind others s s' := by
  -- What the next operation may concern depends on the slots, and these on what went before.
  have hall : record.Undisturbed kind others s s' ∧ (s'.view record.history).Orderly ∧
      s'.slots.sinks kinds ⊆ others := by
    induction h with
    | refl => exact ⟨.refl record kind others s, hs, hactive⟩
    | @tail s₁ s₂ _ hlast ih =>
      obtain ⟨hundisturbed, hs₁, hactive₁⟩ := ih
      have hepisodes :
          EpisodesOf (·.Among kinds others) True (s₁.view record.history) (s₂.view record.history) := by
        cases hlast with
        | ran hop => exact hops _ hs₁.sound hundisturbed.slot hactive₁ _ hop s₁ rfl
        | elsewhere hnoted => exact .single (.noted hnoted)
      exact ⟨hundisturbed.trans (hepisodes.undisturbed hkind hs₁), hs₁.episodes hepisodes.episodes,
        hepisodes.sinks_subset hs₁ hactive₁⟩
  exact hall.1

/-- Removals leave the lockout alone. -/
theorem Elapses.lockout_eq (h : record.Elapses (host.OfRemovals sinks) s s') : s'.lockout = s.lockout := by
  induction h with
  | refl => rfl
  | tail _ hlast ih =>
    rw [← ih]
    cases hlast with
    | ran hop => exact record.lockout_eq_of_ofRemovals hop _
    | elsewhere hnoted => exact hnoted.lockout_eq

/-- In every state that runs lead to, whatever goes on beside a removal leaves it alone, and no sinks
    are called but those of enrollments and authentications that are active or started meanwhile.
    Whatever is done about removals leaves enrollments, authentications and the lockout alone, and no
    sinks are called but those of removals. -/
theorem Reachable.independent (hs : record.Reachable s) (sinks : Set SinkName) :
    (∀ s', record.Elapses (host.BesideRemoval s.slots.remove sinks) s s' →
      record.Undisturbed .remove (sinks ∪ s.slots.sinks {.remove}ᶜ) s s') ∧
    ∀ s', record.Elapses (host.OfRemovals sinks) s s' →
      record.Undisturbed .enroll (sinks ∪ s.slots.sinks {.remove}) s s' ∧
        record.Undisturbed .authenticate (sinks ∪ s.slots.sinks {.remove}) s s' ∧ s'.lockout = s.lockout := by
  constructor
  · intro s' h
    have hbeside : SessionKind.remove ∉ ({.remove}ᶜ : Set SessionKind) := not_not_intro rfl
    refine h.undisturbed hbeside hs.orderly Set.subset_union_right fun v hv hslot hactive op hop => ?_
    -- The removal has kept its slot so far, so what comes next is beside it, too.
    have hremoval : v.slots.remove = s.slots.remove := hslot
    exact record.along_besideRemoval hv Set.subset_union_left hactive (hremoval ▸ hop)
  · intro s' h
    have hother {kind : SessionKind} (hkind : kind ≠ .remove) :
        record.Undisturbed kind (sinks ∪ s.slots.sinks {.remove}) s s' :=
      h.undisturbed hkind hs.orderly Set.subset_union_right fun v hv _ hactive op hop =>
        record.along_ofRemovals hv Set.subset_union_left hactive hop
    exact ⟨hother nofun, hother nofun, h.lockout_eq⟩

end Record

/-- Operations that are tasks, performed one after the other, are a run of such operations. -/
theorem Ledger.elapses_foldl {setup : Setup} {rule : (call : Call) → Except Fault call.Reply}
    {ops : Op (List Entry) Empty Unit → Prop} {tasks : List (Task Empty)}
    (h : ∀ task ∈ tasks, ops ((host setup rule).perform task)) (s : System (List Entry) Empty) :
    (record setup rule).Elapses ops s
      (tasks.foldl (fun s task => (((host setup rule).perform task).run s).2) s) := by
  induction tasks generalizing s with
  | nil => exact .refl
  | cons task tasks ih =>
    obtain ⟨hfirst, hrest⟩ := List.forall_mem_cons.1 h
    exact .head (.ran hfirst s) (ih hrest _)

/-- While one caller removes, the enrollment of another ends with a callback that is not taken, and
    after the death of the driver a third one starts an authentication and dies. No sinks are called
    but theirs. While the other enrolls, the removal is preempted by one of a fourth caller, which is
    cancelled. -/
theorem Record.Reachable.independent_of_losses :
    let s := Ledger.perform {} Ledger.deaf [.startRemove 2 (some "b") {}, .startEnrollment 1 (some "a") {}]
    let run := fun tasks => tasks.foldl (fun s task => (((Ledger.host {} Ledger.deaf).perform task).run s).2) s
    let s₁ := run [.driverEvent (.acquired 1 0), .driverDied 1, .startAuthentication 3 (some "c") {}, .callerDied 3]
    let s₂ := run [.startRemove 4 (some "d") {}, .driverEvent (.removed 1 7 0), .cancel .remove 4]
    s.slots.sessions.map (·.caller) = [1, 2] ∧ s₁.slots.sessions.map (·.caller) = [2] ∧
      s₂.slots.sessions.map (·.caller) = [1] ∧ "b" ∉ {"c"} ∪ s.slots.sinks {.remove}ᶜ ∧
      (Ledger.record {} Ledger.deaf).Undisturbed .remove ({"c"} ∪ s.slots.sinks {.remove}ᶜ) s s₁ ∧
      (Ledger.record {} Ledger.deaf).Undisturbed .enroll ({"d"} ∪ s.slots.sinks {.remove}) s s₂ := by
  intro s run s₁ s₂
  have hindependent := Record.Reachable.independent (Ledger.reachable_perform {} Ledger.deaf
    [.startRemove 2 (some "b") {}, .startEnrollment 1 (some "a") {}])
  have howner : ∀ kind, kind ≠ .remove → ∀ x ∈ s.slots.get kind, x.sink ≠ some "b" := by
    intro kind
    cases kind <;> decide
  refine ⟨by decide, by decide, by decide, ?_, (hindependent {"c"}).1 s₁ (Ledger.elapses_foldl ?_ s),
    ((hindependent {"d"}).2 s₂ (Ledger.elapses_foldl ?_ s)).1⟩
  · rintro (hname | ⟨kind, hkind, x, hx, hname⟩)
    · have hsame : ("b" : SinkName) = "c" := hname
      exact absurd hsame (by decide)
    · exact howner kind hkind x hx hname
  · have hcallers : ∀ x ∈ s.slots.remove, x.caller ≠ 3 := by decide
    have hsink : ∀ name ∈ some ("c" : SinkName), name ∈ ({"c"} : Set SinkName) := fun _ h => (Option.some.inj h).symm
    simp only [List.forall_mem_cons, List.not_mem_nil, false_implies, implies_true, and_true]
    exact ⟨.acquired 1 0, .driverDied 1, .startAuthentication 3 {} hsink, .callerDied hcallers⟩
  · have hsink : ∀ name ∈ some ("d" : SinkName), name ∈ ({"d"} : Set SinkName) := fun _ h => (Option.some.inj h).symm
    simp only [List.forall_mem_cons, List.not_mem_nil, false_implies, implies_true, and_true]
    exact ⟨.startRemove 4 {} hsink, .removed 1 7 0, .cancel 4⟩

end Fingerprint
