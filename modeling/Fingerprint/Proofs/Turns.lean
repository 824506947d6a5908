import Fingerprint.Coordinator
import Fingerprint.Proofs.Custody
import Mathlib.Data.Sum.Basic

/-!
# Whose turn it is when a caller dies

When a caller dies, the numbers of its entries are collected, and each gets its turn. What is
done then may take out others of them, and make new ones. Numbers are not given twice, so what
is found under a number is the entry that had it at the beginning, or nothing.

What clients do with their handles is up to them, but it is deeds that they do: a `Keeper` knows
where they keep them and which deeds a task comes down to. The sessions in their slots are
holders, too.

* `Custody.Succeeds`: numbers are not given twice;
* `Custody.Shows`: the registrations as they are in a state, those of the sessions and those of clients;
* `Keeper.Turns`: the entries that are there when their turn comes, in order;
* `Keeper.exists_turns`: the loop, by induction on the entries that are left;
* `Keeper.Reached.ownership`;
* `Cabinet`: clients whose tasks are lists of deeds.
-/

namespace Fingerprint

open Custody (Deed)

/-! ## Numbers -/

namespace Liveness

variable {δ : Type}

/-- The entries of a caller, oldest first. -/
def watchesOf (table : Liveness δ) (caller : CallerToken) : List (Watch δ) :=
  table.entries.filter (·.caller == caller)

end Liveness

namespace Custody

variable {β δ : Type} [DecidableEq β] {c c' c'' : Custody β δ}

/-- What is there later was there before, or has got a later number. -/
structure Succeeds (c c' : Custody β δ) : Prop where
  next_le : c.table.nextId ≤ c'.table.nextId
  mem_or_le : ∀ watch ∈ c'.table.entries, watch ∈ c.table.entries ∨ c.table.nextId ≤ watch.id

namespace Succeeds

omit [DecidableEq β] in
theorem refl (c : Custody β δ) : c.Succeeds c := ⟨Nat.le_refl _, fun _ => .inl⟩

omit [DecidableEq β] in
theorem trans (h : c.Succeeds c') (h' : c'.Succeeds c'') : c.Succeeds c'' where
  next_le := Nat.le_trans h.next_le h'.next_le
  mem_or_le watch hwatch := by
    rcases h'.mem_or_le watch hwatch with hmem | hle
    · exact h.mem_or_le watch hmem
    · exact .inr (Nat.le_trans h.next_le hle)

theorem replace (c : Custody β δ) (holder : β) (next : Option Registration) :
    c.Succeeds (c.replace holder next) where
  next_le := Nat.le_of_eq (congrArg Liveness.nextId (table_replace c holder next)).symm
  mem_or_le _ hwatch := .inl (mem_replace.1 hwatch).1

theorem put (c : Custody β δ) (holder : β) (registration : Registration) :
    c.Succeeds (c.put holder registration) :=
  replace c holder (some registration)

theorem act (c : Custody β δ) (deed : Deed β δ) : c.Succeeds (c.act deed) := by
  cases deed with
  | register holder caller onDeath =>
    rw [Custody.act, Liveness.register]
    split
    · exact .refl c
    · next hregister =>
      split at hregister
      · cases hregister
      · cases hregister
        have made : c.Succeeds { c with table :=
            { entries := c.table.entries ++ [⟨c.table.nextId, caller, onDeath⟩], nextId := c.table.nextId + 1 } } := by
          refine ⟨Nat.le_succ _, fun watch hwatch => ?_⟩
          rcases List.mem_append.1 hwatch with hold | hnew
          · exact .inl hold
          · rw [List.mem_singleton.1 hnew]
            exact .inr (Nat.le_refl _)
        exact made.trans (put _ holder _)
  | move source target =>
    rw [Custody.act]
    split
    · exact .refl c
    · split
      · exact .refl c
      · have taken : c.Succeeds { c with handles := Function.update c.handles source (some {}) } :=
          ⟨Nat.le_refl _, fun _ => .inl⟩
        exact taken.trans (put _ target _)
  | release holder =>
    rw [Custody.act]
    split
    · exact .refl c
    · exact .replace c holder _
  | destroy holder => exact .replace c holder none

theorem after (c : Custody β δ) (deeds : List (Deed β δ)) : c.Succeeds (c.after deeds) := by
  induction deeds generalizing c with
  | nil => exact .refl c
  | cons deed deeds ih => exact (act c deed).trans (ih (c.act deed))

end Succeeds

end Custody

/-! ## Holders -/

variable {ω κ β : Type} [DecidableEq β] {host : Host ω κ} {handles : ω → β → Option Registration}
  {s s' : System ω κ} {c : Custody (SessionKind ⊕ β) (DeathAction κ)}

namespace Custody

/-- The registrations are those of a state: the table, and the handles of the sessions in their slots
    and of the clients. -/
structure Shows (c : Custody (SessionKind ⊕ β) (DeathAction κ)) (handles : ω → β → Option Registration)
    (s : System ω κ) : Prop where
  table : c.table = s.liveness
  handles : c.handles = Sum.elim (fun kind => (s.slots.get kind).map (·.registration)) (handles s.world)

/-- A session, or none, takes the place of the one in a slot. -/
theorem Shows.replace (h : c.Shows handles s) (kind : SessionKind) (next : Option Session) :
    (c.replace (.inl kind) (next.map (·.registration))).Shows handles { s with
      slots := s.slots.set kind next
      liveness := Host.releaseSession (s.slots.get kind) s.liveness } := by
  refine ⟨?_, ?_⟩
  · simp only [Custody.replace, held, h.handles, h.table, Sum.elim_inl]
    cases s.slots.get kind <;> rfl
  · simp only [Custody.replace, h.handles, Sum.update_elim_inl]
    refine congrArg (Sum.elim · _) (funext fun other => ?_)
    rw [Function.update_apply]
    split
    · next hsame => rw [hsame, Slots.get_set_self]
    · next hne => rw [Slots.get_set_of_ne _ _ hne]

omit [DecidableEq β] in
/-- Whatever else changes, the registrations are what the table, the slots and the handles show. -/
theorem Shows.of_same (h : c.Shows handles s) (hliveness : s'.liveness = s.liveness) (hslots : s'.slots = s.slots)
    (hhandles : handles s'.world = handles s.world) : c.Shows handles s' := by
  refine ⟨?_, ?_⟩
  · rw [hliveness, h.table]
  · rw [hslots, hhandles, h.handles]

/-- A new session in its slot is registered for the death of its caller. -/
theorem Shows.slotNew (h : c.Shows handles s) (kind : SessionKind) (caller : CallerToken) (sink : Option SinkName)
    (subject : Int32) :
    (c.act (.register (.inl kind) caller (some (.endSession kind s.nextSession)))).Shows handles
      ((Host.slotNew kind caller sink subject : Op ω κ Unit).run s).2 := by
  let numbered : System ω κ := { s with nextSession := s.nextSession + 1 }
  have hrun : (Host.slotNew kind caller sink subject : Op ω κ Unit).run s =
      (Host.register caller (some (.endSession kind s.nextSession)) >>= fun registration => modify fun s' =>
        { s' with
          slots := s'.slots.set kind (some ⟨s.nextSession, kind, caller, sink, subject, registration⟩)
          liveness := Host.releaseSession (s'.slots.get kind) s'.liveness } : Op ω κ Unit).run numbered := rfl
  rw [hrun, Op.run_bind, Host.register, Op.run_get_bind, act, h.table]
  cases s.liveness.register caller (some (.endSession kind s.nextSession)) with
  | error error => exact h.of_same rfl rfl rfl
  | ok made =>
    obtain ⟨registration, table⟩ := made
    have hmade : ({ c with table } : Custody _ _).Shows handles { numbered with liveness := table } := ⟨rfl, h.handles⟩
    exact hmade.replace kind (some ⟨s.nextSession, kind, caller, sink, subject, registration⟩)

end Custody

/-! ## Keepers -/

/-- Clients who keep handles. All that their tasks do with them is deeds, also if they fail. Those who
    are told of events do nothing with them. -/
structure Keeper (host : Host ω κ) (β : Type) [DecidableEq β] where
  /-- What each holder of the clients has. -/
  handles : ω → β → Option Registration
  /-- The deeds of a task. -/
  deeds : κ → System ω κ → List (Deed (SessionKind ⊕ β) (DeathAction κ))
  observe : ∀ event s, handles (host.observe event s) = handles s.world
  shows_client : ∀ task s c, Custody.Shows c handles s →
    (c.after (deeds task s)).Shows handles ((host.client task).run s).2

/-- Does what an entry waits for. -/
def Host.runWatch (host : Host ω κ) (watch : Watch (DeathAction κ)) : Op ω κ Unit := do
  if let some action := watch.onDeath then host.runDeathAction action

/-- The state in which the death of a caller has been published, if it had registrations. -/
def System.mourning (host : Host ω κ) (s : System ω κ) (caller : CallerToken) : System ω κ :=
  if (s.liveness.entriesOf caller).isEmpty then s
  else
    { s with world := host.observe (Host.callerDiedEvent caller (s.liveness.entriesOf caller).length) s }

namespace Keeper

variable (keeper : Keeper host β)

/-- The deeds of what is done at a death: a session that ends is done away with. -/
def deedsOf (s : System ω κ) : DeathAction κ → List (Deed (SessionKind ⊕ β) (DeathAction κ))
  | .endSession kind id =>
    if (s.slots.get kind).any (·.id = id) then [.destroy (.inl kind)] else []
  | .client task => keeper.deeds task s

/-- The deeds of what an entry waits for. -/
def deedsAt (s : System ω κ) (watch : Watch (DeathAction κ)) : List (Deed (SessionKind ⊕ β) (DeathAction κ)) :=
  watch.onDeath.elim [] (keeper.deedsOf s)

/-- Entries get their turn, one after the other. What one waits for is done if it is there
    when its turn comes; those are called, and their deeds follow each other. If one fails, those
    that are left get no turn. -/
inductive Turns : List (Watch (DeathAction κ)) → System ω κ → List (Watch (DeathAction κ)) →
    List (Deed (SessionKind ⊕ β) (DeathAction κ)) → Except Fault Unit × System ω κ → Prop
  | nil (s : System ω κ) : Turns [] s [] [] (.ok (), s)
  | called {watch rest called deeds result} {s s₁ : System ω κ} (hthere : watch ∈ s.liveness.entries)
      (hrun : (host.runWatch watch).run s = (.ok (), s₁)) (hrest : Turns rest s₁ called deeds result) :
      Turns (watch :: rest) s (watch :: called) (keeper.deedsAt s watch ++ deeds) result
  | failed {watch rest fault} {s s' : System ω κ} (hthere : watch ∈ s.liveness.entries)
      (hrun : (host.runWatch watch).run s = (.error fault, s')) :
      Turns (watch :: rest) s [watch] (keeper.deedsAt s watch) (.error fault, s')
  | missed {watch rest called deeds result} {s : System ω κ} (hgone : watch ∉ s.liveness.entries)
      (hrest : Turns rest s called deeds result) : Turns (watch :: rest) s called deeds result

/-- What is done with registrations from the beginning, one deed at a time or in the course of a death, and
    the states that this leads to. -/
inductive Reached : List (Deed (SessionKind ⊕ β) (DeathAction κ)) → System ω κ → Prop
  | fresh {s : System ω κ} (h : ({} : Custody (SessionKind ⊕ β) (DeathAction κ)).Shows keeper.handles s) :
      Reached [] s
  | acted {past} {s s' : System ω κ} (h : Reached past s) (deed : Deed (SessionKind ⊕ β) (DeathAction κ))
      (hs' : ((Custody.after {} past).act deed).Shows keeper.handles s') : Reached (past ++ [deed]) s'
  | died {past called deeds} {s : System ω κ} (h : Reached past s) (caller : CallerToken)
      (hturns : keeper.Turns (s.liveness.watchesOf caller) (s.mourning host caller) called deeds
        ((host.callerDied caller).run s)) : Reached (past ++ deeds) ((host.callerDied caller).run s).2

/-! ## Turns -/

variable {keeper : Keeper host β} {past : List (Deed (SessionKind ⊕ β) (DeathAction κ))}

/-- To tell of an event changes nothing about the registrations. -/
theorem shows_publish (keeper : Keeper host β) (h : c.Shows keeper.handles s) (event : Event) :
    c.Shows keeper.handles { s with world := host.observe event s } :=
  h.of_same rfl rfl (keeper.observe event s)

/-- A session that has left its slot is done away with, and so is its handle. -/
theorem exists_run_removeSession (keeper : Keeper host β) (h : c.Shows keeper.handles s) {kind : SessionKind}
    {x : Session} (hslot : s.slots.get kind = some x) :
    ∃ s', (host.removeSession kind x.id).run s = (.ok (), s') ∧
      (c.act (.destroy (.inl kind))).Shows keeper.handles s' := by
  have hleft := h.replace kind none
  rw [hslot] at hleft
  refine ⟨_, ?_, shows_publish keeper hleft
    (Host.sessionEvent .debug "session_removed" "Session torn down" x.kind x.caller none)⟩
  rw [Host.removeSession, Op.run_get_bind, hslot]
  simp only [↓reduceIte]
  rfl

/-- To end a session comes down to its deeds. -/
theorem exists_run_endSession (keeper : Keeper host β) (h : c.Shows keeper.handles s) (kind : SessionKind) (id : Nat) :
    ∃ s', (host.runDeathAction (.endSession kind id)).run s = (.ok (), s') ∧
      (c.after (keeper.deedsOf s (.endSession kind id))).Shows keeper.handles s' := by
  rw [Host.runDeathAction, Host.endSession, Op.run_bind, Host.active, Op.run_get_bind, deedsOf]
  cases hslot : s.slots.get kind with
  | none => exact ⟨s, rfl, h⟩
  | some x =>
    change ∃ s', (if x.id = id then _ else _ : Op ω κ Unit).run s = _ ∧
      (c.after (if decide (x.id = id) then _ else _)).Shows keeper.handles s'
    by_cases hid : x.id = id
    · rw [if_pos hid, if_pos (decide_eq_true hid), ← hid]
      exact exists_run_removeSession keeper (shows_publish keeper h _) hslot
    · rw [if_neg hid, if_neg (by simpa using hid)]
      exact ⟨s, rfl, h⟩

/-- What an entry waits for comes down to its deeds. -/
theorem shows_runWatch (keeper : Keeper host β) (h : c.Shows keeper.handles s) (watch : Watch (DeathAction κ)) :
    (c.after (keeper.deedsAt s watch)).Shows keeper.handles ((host.runWatch watch).run s).2 := by
  rw [Host.runWatch, deedsAt]
  match watch.onDeath with
  | none => exact h
  | some (.client task) => exact keeper.shows_client task s c h
  | some (.endSession kind id) =>
    obtain ⟨s', hrun, hs'⟩ := exists_run_endSession keeper h kind id
    change (c.after (keeper.deedsOf s (.endSession kind id))).Shows keeper.handles
      ((host.runDeathAction (.endSession kind id)).run s).2
    rwa [hrun]

/-- It is done to the end if that is so of the tasks of clients. -/
theorem run_runWatch_fst (keeper : Keeper host β) (h : c.Shows keeper.handles s)
    (hreturns : ∀ task s, ((host.client task).run s).1 = .ok ()) (watch : Watch (DeathAction κ)) :
    ((host.runWatch watch).run s).1 = .ok () := by
  rw [Host.runWatch]
  match watch.onDeath with
  | none => rfl
  | some (.client task) => exact hreturns task s
  | some (.endSession kind id) =>
    obtain ⟨s', hrun, -⟩ := exists_run_endSession keeper h kind id
    exact congrArg Prod.fst hrun

/-- What is found under a number that was given before is the entry that had it then, if it is
    still there. -/
def Knows (c : Custody (SessionKind ⊕ β) (DeathAction κ)) (watch : Watch (DeathAction κ)) : Prop :=
  watch.id < c.table.nextId ∧ ∀ other ∈ c.table.entries, other.id = watch.id → other = watch

omit [DecidableEq β] in
theorem Knows.of_succeeds {c' : Custody (SessionKind ⊕ β) (DeathAction κ)} {watch : Watch (DeathAction κ)}
    (h : Knows c watch) (hc : c.Succeeds c') : Knows c' watch := by
  refine ⟨Nat.lt_of_lt_of_le h.1 hc.next_le, fun other hother hid => ?_⟩
  rcases hc.mem_or_le other hother with hold | hnew
  · exact h.2 other hold hid
  · exact absurd h.1 (by omega)

theorem run_runWatches_of_some {id : Nat} {rest : List Nat} {watch : Watch (DeathAction κ)}
    (h : s.liveness.find? id = some watch) :
    (host.runWatches (id :: rest)).run s = (host.runWatch watch >>= fun _ => host.runWatches rest).run s := by
  rw [Host.runWatches, Op.run_get_bind, h, Host.runWatch]
  cases hdeath : watch.onDeath with
  | none =>
    simp only [hdeath]
    rfl
  | some action => simp only [hdeath]

theorem run_runWatches_of_none {id : Nat} {rest : List Nat} (h : s.liveness.find? id = none) :
    (host.runWatches (id :: rest)).run s = (host.runWatches rest).run s := by
  rw [Host.runWatches, Op.run_get_bind, h]

/-- The loop gives each entry its turn. -/
theorem exists_turns (keeper : Keeper host β) {watches : List (Watch (DeathAction κ))} (h : c.Shows keeper.handles s)
    (hknows : ∀ watch ∈ watches, Knows c watch) :
    ∃ called deeds, keeper.Turns watches s called deeds ((host.runWatches (watches.map (·.id))).run s) := by
  -- On the entries that are left. They stay known, whatever the ones before them do.
  induction watches generalizing s c with
  | nil => exact ⟨[], [], .nil s⟩
  | cons watch rest ih =>
    have hfirst := hknows watch List.mem_cons_self
    have hrest : ∀ other ∈ rest, Knows c other := fun other hother => hknows other (List.mem_cons_of_mem _ hother)
    rw [List.map_cons]
    cases hfind : s.liveness.find? watch.id with
    | none =>
      have hgone : watch ∉ s.liveness.entries := fun hmem => by
        simpa using List.find?_eq_none.1 hfind watch hmem
      obtain ⟨called, deeds, hturns⟩ := ih h hrest
      rw [run_runWatches_of_none hfind]
      exact ⟨called, deeds, .missed hgone hturns⟩
    | some other =>
      have hthere : other ∈ s.liveness.entries := List.mem_of_find?_eq_some hfind
      have hid : other.id = watch.id := by simpa using List.find?_some hfind
      -- No entry made since has that number, so this is the one that was collected.
      obtain rfl := hfirst.2 other (h.table ▸ hthere) hid
      rw [run_runWatches_of_some hfind, Op.run_bind]
      have hs₁ := shows_runWatch keeper h other
      rcases hrun : (host.runWatch other).run s with ⟨_ | _, s₁⟩ <;> rw [hrun] at hs₁
      case error fault => exact ⟨_, _, .failed hthere hrun⟩
      case ok =>
        obtain ⟨called, deeds, hturns⟩ := ih hs₁ fun watch hwatch => (hrest watch hwatch).of_succeeds (.after c _)
        exact ⟨_, _, .called hthere hrun hturns⟩

omit [DecidableEq β] in
/-- The entries of a caller are known as long as they are there. -/
theorem knows_watchesOf (hc : c.Owned) (h : c.Shows handles s) {caller : CallerToken} {watch : Watch (DeathAction κ)}
    (hwatch : watch ∈ s.liveness.watchesOf caller) : Knows c watch := by
  have hmem : watch ∈ c.table.entries := h.table ▸ List.mem_of_mem_filter hwatch
  exact ⟨hc.id_lt hmem, fun other hother hid => hc.eq_of_id hother hmem hid⟩

theorem shows_mourning (keeper : Keeper host β) (h : c.Shows keeper.handles s) (caller : CallerToken) :
    c.Shows keeper.handles (s.mourning host caller) := by
  rw [System.mourning]
  split
  · exact h
  · exact shows_publish keeper h _

theorem exists_turns_callerDied (keeper : Keeper host β) (hc : c.Owned) (h : c.Shows keeper.handles s)
    (caller : CallerToken) :
    ∃ called deeds, keeper.Turns (s.liveness.watchesOf caller) (s.mourning host caller) called deeds
      ((host.callerDied caller).run s) := by
  have hrun : (host.callerDied caller).run s =
      (host.runWatches ((s.liveness.watchesOf caller).map (·.id))).run (s.mourning host caller) := by
    rw [Host.callerDied, Op.run_get_bind, System.mourning]
    change _ = (host.runWatches (s.liveness.entriesOf caller)).run _
    cases s.liveness.entriesOf caller <;> rfl
  rw [hrun]
  exact exists_turns keeper (shows_mourning keeper h caller) fun watch hwatch => knows_watchesOf hc h hwatch

section Turns

variable {watches called : List (Watch (DeathAction κ))} {deeds : List (Deed (SessionKind ⊕ β) (DeathAction κ))}
  {result : Except Fault Unit × System ω κ} (h : keeper.Turns watches s called deeds result)

include h

/-- Those that are called are among those that get their turn, in order and once each. -/
theorem Turns.sublist : called.Sublist watches := by
  induction h with
  | nil => exact .slnil
  | called _ _ _ ih => exact ih.cons_cons _
  | failed => exact (List.nil_sublist _).cons_cons _
  | missed _ _ ih => exact ih.cons _

/-- The registrations after the turns are those after their deeds. -/
theorem Turns.shows (hc : c.Shows keeper.handles s) : (c.after deeds).Shows keeper.handles result.2 := by
  induction h generalizing c with
  | nil => exact hc
  | @called watch _ _ _ _ _ _ _ hrun _ ih =>
    have hs₁ := shows_runWatch keeper hc watch
    rw [hrun] at hs₁
    rw [Custody.after_append]
    exact ih hs₁
  | @failed watch _ _ _ _ _ hrun =>
    have hs' := shows_runWatch keeper hc watch
    rwa [hrun] at hs'
  | missed _ _ ih => exact ih hc

/-- All get their turn if the tasks of clients do not fail. -/
theorem Turns.returns (hc : c.Shows keeper.handles s) (hreturns : ∀ task s, ((host.client task).run s).1 = .ok ()) :
    result.1 = .ok () := by
  induction h generalizing c with
  | nil => rfl
  | @called watch _ _ _ _ _ _ _ hrun _ ih =>
    have hs₁ := shows_runWatch keeper hc watch
    rw [hrun] at hs₁
    exact ih hs₁
  | @failed watch _ _ _ _ _ hrun =>
    have hreturned := run_runWatch_fst keeper hc hreturns watch
    rwa [hrun] at hreturned
  | missed _ _ ih => exact ih hc

end Turns

theorem Reached.shows (h : keeper.Reached past s) : (Custody.after {} past).Shows keeper.handles s := by
  induction h with
  | fresh h => exact h
  | acted _ deed hs' =>
    rw [Custody.after_append]
    exact hs'
  | died _ caller hturns ih =>
    rw [Custody.after_append]
    exact hturns.shows (shows_mourning keeper ih caller)

/-- Whatever has been done with holders, in the course of deaths or apart from them, at every moment each
    entry has exactly one owner, each handle is one to exactly one entry, and each entry that was made is
    there or was taken out once. The death of a caller gives each of the entries that the caller has then
    its turn, oldest first, and what an entry waits for is done, once, if it is there when its turn comes. All
    get their turn, unless a task of a client fails. -/
theorem Reached.ownership (h : keeper.Reached past s) :
    (∀ moment, (Custody.after {} (past.take moment)).Owned) ∧ (Custody.after {} past).Shows keeper.handles s ∧
      ∀ caller, ∃ called deeds,
        keeper.Turns (s.liveness.watchesOf caller) (s.mourning host caller) called deeds
          ((host.callerDied caller).run s) ∧
        called.Sublist (s.liveness.watchesOf caller) ∧ called.Pairwise (fun a b => a.id < b.id) ∧
        keeper.Reached (past ++ deeds) ((host.callerDied caller).run s).2 ∧
        ((∀ task s, ((host.client task).run s).1 = .ok ()) → ((host.callerDied caller).run s).1 = .ok ()) := by
  refine ⟨fun moment => Custody.owned_after _, h.shows, fun caller => ?_⟩
  have howned := Custody.owned_after past
  obtain ⟨called, deeds, hturns⟩ := exists_turns_callerDied keeper howned h.shows caller
  have hsublist : called.Sublist s.liveness.entries := hturns.sublist.trans List.filter_sublist
  rw [← h.shows.table] at hsublist
  exact ⟨called, deeds, hturns, hturns.sublist, howned.inOrder.sublist hsublist, h.died caller hturns,
    hturns.returns (shows_mourning keeper h.shows caller)⟩

end Keeper

/-! ## Clients who do deeds -/

/-- A deed of clients, among those of all holders. -/
def Custody.Deed.ofClient {β δ : Type} : Deed β δ → Deed (SessionKind ⊕ β) δ
  | register holder caller onDeath => register (.inr holder) caller onDeath
  | move source target => move (.inr source) (.inr target)
  | release holder => release (.inr holder)
  | destroy holder => destroy (.inr holder)

namespace Custody

/-- The same table, with the handles of sessions besides those of clients. -/
structure Extends {β δ : Type} (c : Custody (SessionKind ⊕ β) δ) (slotted : SessionKind → Option Registration)
    (part : Custody β δ) : Prop where
  table : c.table = part.table
  handles : c.handles = Sum.elim slotted part.handles

namespace Extends

variable {β δ : Type} [DecidableEq β] {c : Custody (SessionKind ⊕ β) δ}
  {slotted : SessionKind → Option Registration} {part : Custody β δ}

theorem replace (h : c.Extends slotted part) (holder : β) (next : Option Registration) :
    (c.replace (.inr holder) next).Extends slotted (part.replace holder next) := by
  refine ⟨?_, ?_⟩
  · simp only [Custody.replace, held, h.table, h.handles, Sum.elim_inr]
  · simp only [Custody.replace, h.handles, Sum.update_elim_inr]

/-- What clients do with their handles does not concern those of sessions. -/
theorem act (h : c.Extends slotted part) (deed : Deed β δ) :
    (c.act deed.ofClient).Extends slotted (part.act deed) := by
  have hhandles (holder : β) : c.handles (.inr holder) = part.handles holder := by rw [h.handles, Sum.elim_inr]
  cases deed with
  | register holder caller onDeath =>
    rw [Deed.ofClient, Custody.act, Custody.act, h.table]
    cases part.table.register caller onDeath with
    | error error => exact h
    | ok made =>
      have hmade : ({ c with table := made.2 } : Custody _ δ).Extends slotted { part with table := made.2 } :=
        ⟨rfl, h.handles⟩
      exact hmade.replace holder (some made.1)
  | move source target =>
    rw [Deed.ofClient, Custody.act, Custody.act, hhandles]
    by_cases hsame : source = target
    · rwa [if_pos hsame, if_pos (congrArg _ hsame)]
    · rw [if_neg hsame, if_neg fun h => hsame (Sum.inr.inj h)]
      cases part.handles source with
      | none => exact h
      | some registration =>
        have htaken : ({ c with handles := Function.update c.handles (.inr source) (some {}) } : Custody _ δ).Extends
            slotted { part with handles := Function.update part.handles source (some {}) } :=
          ⟨h.table, by rw [h.handles, Sum.update_elim_inr]⟩
        exact htaken.replace target (some registration)
  | release holder =>
    rw [Deed.ofClient, Custody.act, Custody.act, hhandles]
    cases part.handles holder with
    | none => exact h
    | some registration =>
      rw [h.table]
      exact h.replace holder _
  | destroy holder => exact h.replace holder none

end Extends

end Custody

namespace Cabinet

/-- What clients have: handles by numbers, and the tasks that were run, in order. -/
structure World where
  handles : Nat → Option Registration := fun _ => none
  ran : List Nat := []

/-- Does a deed. -/
def carryOut (s : System World Nat) (deed : Deed Nat (DeathAction Nat)) : System World Nat :=
  let left := ({ table := s.liveness, handles := s.world.handles } : Custody Nat (DeathAction Nat)).act deed
  { s with liveness := left.table, world := { s.world with handles := left.handles } }

/-- A host whose clients have lists of deeds for tasks. -/
def clients (script : Nat → List (Deed Nat (DeathAction Nat))) : Host World Nat where
  setup := {}
  answer _ := throw (.plain "gone")
  observe _ s := s.world
  client task := modify fun s =>
    (script task).foldl carryOut { s with world := { s.world with ran := s.world.ran ++ [task] } }
  patience := 9

variable {c : Custody (SessionKind ⊕ Nat) (DeathAction Nat)} {s : System World Nat}

theorem shows_carryOut (h : c.Shows World.handles s) (deed : Deed Nat (DeathAction Nat)) :
    (c.act deed.ofClient).Shows World.handles (carryOut s deed) := by
  have hextends : c.Extends (fun kind => (s.slots.get kind).map (·.registration))
      { table := s.liveness, handles := s.world.handles } := ⟨h.table, h.handles⟩
  exact ⟨(hextends.act deed).table, (hextends.act deed).handles⟩

theorem shows_foldl_carryOut (h : c.Shows World.handles s) (deeds : List (Deed Nat (DeathAction Nat))) :
    (c.after (deeds.map Deed.ofClient)).Shows World.handles (deeds.foldl carryOut s) := by
  induction deeds generalizing c s with
  | nil => exact h
  | cons deed deeds ih => exact ih (shows_carryOut h deed)

/-- The clients keep their handles by numbers. -/
def keeper (script : Nat → List (Deed Nat (DeathAction Nat))) : Keeper (clients script) Nat where
  handles := World.handles
  deeds task _ := (script task).map Deed.ofClient
  observe _ _ := rfl
  shows_client task s c h := by
    have hran : c.Shows World.handles { s with world := { s.world with ran := s.world.ran ++ [task] } } :=
      h.of_same rfl rfl rfl
    exact shows_foldl_carryOut hran (script task)

theorem reached_foldl {script : Nat → List (Deed Nat (DeathAction Nat))}
    {past : List (Deed (SessionKind ⊕ Nat) (DeathAction Nat))} (h : (keeper script).Reached past s)
    (deeds : List (Deed Nat (DeathAction Nat))) :
    (keeper script).Reached (past ++ deeds.map Deed.ofClient) (deeds.foldl carryOut s) := by
  induction deeds generalizing past s with
  | nil => simpa using h
  | cons deed deeds ih =>
    have hnext := ih (h.acted deed.ofClient (shows_carryOut h.shows deed))
    simpa using hnext

/-- One releases a handle, moves another one, and registers seven. -/
def script : Nat → List (Deed Nat (DeathAction Nat))
  | 1 => [.release 1, .move 2 5, .register 4 7 (some (.client 0))]
  | _ => []

/-- What clients do with their handles: one is moved over that of an entry of eight, and then to itself. -/
def prelude : List (Deed Nat (DeathAction Nat)) :=
  [.register 0 7 (some (.client 1)), .register 1 7 (some (.client 2)), .register 2 8 (some (.client 0)),
    .register 3 7 (some (.client 3)), .move 3 2, .move 2 2]

/-- Seven has a session, and three entries of clients. -/
def begun : System World Nat :=
  prelude.foldl carryOut ((Host.slotNew .enroll 7 none 0 : Op World Nat Unit).run { world := {} }).2

theorem reached_begun :
    (keeper script).Reached (.register (.inl .enroll) 7 (some (.endSession .enroll 0)) :: prelude.map Deed.ofClient)
      begun := by
  have hfresh : ({} : Custody (SessionKind ⊕ Nat) (DeathAction Nat)).Shows World.handles { world := {} } := by
    refine ⟨rfl, funext fun holder => ?_⟩
    rcases holder with (_ | _ | _) | _ <;> rfl
  have hnobody : (keeper script).Reached [] { world := {} } := .fresh hfresh
  exact reached_foldl (hnobody.acted _ (hfresh.slotNew .enroll 7 none 0)) prelude

/-- Seven dies. Its session ends. What is done next takes out the entry that would be called then, and makes
    a new one; the one whose handle it moves is called. -/
theorem ownership_of_release_and_move :
    let s' := (((clients script).callerDied 7).run begun).2
    (∃ called deeds, (keeper script).Turns (begun.liveness.watchesOf 7) begun called deeds (.ok (), s')) ∧
      (begun.liveness.watchesOf 7).map (·.id) = [1, 2, 3, 5] ∧ s'.world.ran = [1, 3] ∧
      s'.slots.enroll = none ∧ s'.liveness.entries.map (·.id) = [2, 5, 6] := by
  intro s'
  obtain ⟨-, -, hdies⟩ := reached_begun.ownership
  obtain ⟨called, deeds, hturns, -, -, -, hreturns⟩ := hdies 7
  have hrun : ((clients script).callerDied 7).run begun = (.ok (), s') := Prod.ext (hreturns fun _ _ => rfl) rfl
  rw [hrun] at hturns
  exact ⟨⟨called, deeds, hturns⟩, by decide, by decide, by decide, by decide⟩

end Cabinet

end Fingerprint
