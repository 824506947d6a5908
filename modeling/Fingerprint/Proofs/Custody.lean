import Mathlib.Data.List.Nodup
import Mathlib.Logic.Function.Basic
import Fingerprint.Liveness

/-!
# Who owns the registrations

The handles to the entries of a table are kept by holders, which come and go: a holder is
made by a registration or by a move, it is assigned what another one has, it is released, or
it is done away with. However that goes, every entry is owned by exactly one holder, and it
is taken out when that gives it up, once and for all.

All that holders do comes down to three things, of which two are done to a holder that owns
nothing.

* `Custody`: the table, what each holder has, and the entries that were taken out;
* `Custody.Deed`, `Custody.act`: what is done with a holder;
* `Custody.replace`, `enter`, `transfer`: the three things;
* `Custody.Owned`: every entry has one owner, and each that was made is there or was taken out once;
* `Custody.Owned.act`, `owned_after`: one deed, and any number of them.
-/

namespace Fingerprint

/-- To release a handle leaves the entries that it is not one to. -/
theorem Registration.table_release {δ : Type} (r : Registration) (table : Liveness δ) :
    (r.release table).2 = { table with entries := table.entries.filter fun watch => some watch.id != r.id } := by
  rw [release]
  cases r.id with
  | none =>
    have hall : table.entries.filter (fun watch => some watch.id != none) = table.entries :=
      List.filter_eq_self.2 fun _ _ => rfl
    rw [hall]
  | some id => rfl

/-- A table of registrations and the handles to its entries. -/
structure Custody (β δ : Type) where
  table : Liveness δ := {}
  /-- What each holder has, if there is such a holder. -/
  handles : β → Option Registration := fun _ => none
  /-- The numbers of the entries that were taken out, in order. -/
  removed : List Nat := []

/-- What is done with holders. -/
inductive Custody.Deed (β δ : Type) where
  /-- A caller is registered, and a holder gets the handle. -/
  | register (holder : β) (caller : CallerToken) (onDeath : Option δ)
  /-- A holder is constructed from another one, or assigned it if it is there already. -/
  | move (source target : β)
  | release (holder : β)
  | destroy (holder : β)
  deriving DecidableEq, Repr

namespace Custody

open scoped List

variable {β δ : Type} {c : Custody β δ} {holder source target : β} {caller : CallerToken} {onDeath : Option δ}
  {next : Option Registration} {id : Nat}

/-- The handle of a holder, which is one to nothing if there is no such holder. -/
def held (c : Custody β δ) (holder : β) : Registration := (c.handles holder).getD {}

/-- Every entry has one owner. -/
structure Owned (c : Custody β δ) : Prop where
  /-- The entries are in the order in which they were made. -/
  inOrder : c.table.entries.Pairwise fun a b => a.id < b.id
  /-- Each entry has exactly one holder. -/
  one_owner : ∀ watch ∈ c.table.entries, ∃! holder, (c.held holder).id = some watch.id
  /-- Each handle is one to exactly one entry. -/
  one_entry : ∀ holder id, (c.held holder).id = some id → ∃! watch, watch ∈ c.table.entries ∧ watch.id = id
  /-- It tells whose entry that is. -/
  caller_eq : ∀ holder, ∀ watch ∈ c.table.entries, (c.held holder).id = some watch.id →
    (c.held holder).caller = watch.caller
  next_pos : 0 < c.table.nextId
  /-- Each entry that was ever made is there, or was taken out once. -/
  accounted : (c.table.entries.map (·.id) ++ c.removed).Perm (List.range' 1 (c.table.nextId - 1))

theorem owned_fresh : ({} : Custody β δ).Owned where
  inOrder := .nil
  one_owner _ hwatch := absurd hwatch List.not_mem_nil
  one_entry _ _ hid := by cases hid
  caller_eq _ _ hwatch := absurd hwatch List.not_mem_nil
  next_pos := Nat.one_pos
  accounted := .nil

namespace Owned

theorem id_lt (h : c.Owned) {watch : Watch δ} (hwatch : watch ∈ c.table.entries) : watch.id < c.table.nextId := by
  have hmem := h.accounted.mem_iff.1 (List.mem_append_left _ (List.mem_map_of_mem hwatch))
  have := List.mem_range'_1.1 hmem
  omega

theorem nodup_ids (h : c.Owned) : (c.table.entries.map (·.id)).Nodup :=
  List.pairwise_map.2 (h.inOrder.imp Nat.ne_of_lt)

/-- Entries are told apart by their numbers. -/
theorem eq_of_id (h : c.Owned) {watch other : Watch δ} (hwatch : watch ∈ c.table.entries)
    (hother : other ∈ c.table.entries) (hid : watch.id = other.id) : watch = other :=
  List.inj_on_of_nodup_map h.nodup_ids hwatch hother hid

/-- What a holder has is one to an entry that is there. -/
theorem exists_entry (h : c.Owned) (hid : (c.held holder).id = some id) :
    ∃ watch ∈ c.table.entries, watch.id = id ∧ watch.caller = (c.held holder).caller := by
  obtain ⟨watch, ⟨hwatch, rfl⟩, -⟩ := h.one_entry holder id hid
  exact ⟨watch, hwatch, rfl, (h.caller_eq holder watch hwatch hid).symm⟩

/-- No two holders have the same. -/
theorem holder_eq (h : c.Owned) {other : β} (hid : (c.held holder).id = some id)
    (hother : (c.held other).id = some id) : holder = other := by
  obtain ⟨watch, hwatch, rfl, -⟩ := h.exists_entry hid
  exact (h.one_owner watch hwatch).unique hid hother

/-- Where entries are in order and handles are to entries, it is enough that each entry has a holder,
    and that no two holders have the same. -/
theorem of_exists (inOrder : c.table.entries.Pairwise fun a b => a.id < b.id)
    (owner : ∀ watch ∈ c.table.entries, ∃ holder, (c.held holder).id = some watch.id)
    (apart : ∀ holder other id, (c.held holder).id = some id → (c.held other).id = some id → holder = other)
    (entry : ∀ holder id, (c.held holder).id = some id →
      ∃ watch ∈ c.table.entries, watch.id = id ∧ watch.caller = (c.held holder).caller)
    (next_pos : 0 < c.table.nextId)
    (accounted : (c.table.entries.map (·.id) ++ c.removed).Perm (List.range' 1 (c.table.nextId - 1))) :
    c.Owned := by
  have hnodup : (c.table.entries.map (·.id)).Nodup := List.pairwise_map.2 (inOrder.imp Nat.ne_of_lt)
  refine ⟨inOrder, fun watch hwatch => ?_, fun holder id hid => ?_, fun holder watch hwatch hid => ?_, next_pos,
    accounted⟩
  · obtain ⟨holder, hid⟩ := owner watch hwatch
    exact ⟨holder, hid, fun other hother => apart other holder _ hother hid⟩
  · obtain ⟨watch, hwatch, rfl, -⟩ := entry holder id hid
    exact ⟨watch, ⟨hwatch, rfl⟩, fun other ⟨hother, hsame⟩ => List.inj_on_of_nodup_map hnodup hother hwatch hsame⟩
  · obtain ⟨other, hother, hsame, hcaller⟩ := entry holder _ hid
    rw [← hcaller, List.inj_on_of_nodup_map hnodup hother hwatch hsame]

end Owned

/-! ## Deeds -/

variable [DecidableEq β]

/-- Something else, or nothing, takes the place of what a holder has, which is released. -/
def replace (c : Custody β δ) (holder : β) (next : Option Registration) : Custody β δ where
  table := ((c.held holder).release c.table).2
  handles := Function.update c.handles holder next
  removed := c.removed ++ (c.held holder).id.toList

/-- Moves a handle to a holder. -/
def put (c : Custody β δ) (holder : β) (registration : Registration) : Custody β δ :=
  let (kept, table) := registration.moveTo (c.held holder) c.table
  { table
    handles := Function.update c.handles holder (some kept)
    removed := c.removed ++ (c.held holder).id.toList }

/-- What a deed makes of the registrations. Nobody cannot be registered, and a holder that is moved
    to itself stays as it is. -/
def act (c : Custody β δ) : Deed β δ → Custody β δ
  | .register holder caller onDeath =>
    match c.table.register caller onDeath with
    | .error _ => c
    | .ok (registration, table) => { c with table }.put holder registration
  | .move source target =>
    if source = target then c
    else
      match c.handles source with
      | none => c
      | some registration =>
        { c with handles := Function.update c.handles source (some {}) }.put target registration
  | .release holder =>
    match c.handles holder with
    | none => c
    | some registration => c.replace holder (some (registration.release c.table).1)
  | .destroy holder => c.replace holder none

/-- What deeds make of the registrations, one after the other. -/
def after (c : Custody β δ) (deeds : List (Deed β δ)) : Custody β δ := deeds.foldl act c

theorem after_append (c : Custody β δ) (deeds more : List (Deed β δ)) :
    c.after (deeds ++ more) = (c.after deeds).after more :=
  List.foldl_append

/-! ## A holder gives up what it has -/

theorem held_replace (c : Custody β δ) (holder : β) (next : Option Registration) (other : β) :
    (c.replace holder next).held other = if other = holder then next.getD {} else c.held other := by
  simp only [held, replace, Function.update_apply]
  split <;> rfl

/-- The entry is taken out, and no other. -/
theorem table_replace (c : Custody β δ) (holder : β) (next : Option Registration) :
    (c.replace holder next).table =
      { c.table with entries := c.table.entries.filter fun watch => some watch.id != (c.held holder).id } :=
  Registration.table_release _ _

theorem mem_replace {watch : Watch δ} :
    watch ∈ (c.replace holder next).table.entries ↔
      watch ∈ c.table.entries ∧ some watch.id ≠ (c.held holder).id := by
  rw [table_replace, List.mem_filter, bne_iff_ne]

/-- Its number goes from those that are there to those that were taken out. -/
theorem Owned.perm_replace (h : c.Owned) (holder : β) (next : Option Registration) :
    ((c.replace holder next).table.entries.map (·.id) ++ (c.replace holder next).removed).Perm
      (c.table.entries.map (·.id) ++ c.removed) := by
  rw [table_replace]
  change (_ ++ (c.removed ++ (c.held holder).id.toList)).Perm _
  cases hid : (c.held holder).id with
  | none =>
    have hall : c.table.entries.filter (fun other => some other.id != none) = c.table.entries :=
      List.filter_eq_self.2 fun _ _ => rfl
    rw [hall, Option.toList_none, List.append_nil]
  | some id =>
    obtain ⟨watch, hwatch, rfl, -⟩ := h.exists_entry hid
    have hmem : watch.id ∈ c.table.entries.map (·.id) := List.mem_map_of_mem hwatch
    have hleft : (c.table.entries.filter fun other => some other.id != some watch.id).map (·.id) =
        (c.table.entries.map (·.id)).erase watch.id := by
      rw [h.nodup_ids.erase_eq_filter, List.filter_map]
      rfl
    rw [hleft]
    calc (c.table.entries.map (·.id)).erase watch.id ++ (c.removed ++ [watch.id])
      _ ~ (c.table.entries.map (·.id)).erase watch.id ++ (watch.id :: c.removed) :=
        (List.perm_append_singleton _ _).append_left _
      _ ~ watch.id :: ((c.table.entries.map (·.id)).erase watch.id ++ c.removed) := List.perm_middle
      _ ~ c.table.entries.map (·.id) ++ c.removed := (List.perm_cons_erase hmem).symm.append_right _

/-- A holder that has given up what it had owns nothing, and the others own what they did. -/
theorem Owned.replace (h : c.Owned) (hnext : (next.getD {}).id = none) : (c.replace holder next).Owned := by
  have hheld {other : β} {id : Nat} (hid : ((c.replace holder next).held other).id = some id) :
      other ≠ holder ∧ (c.replace holder next).held other = c.held other := by
    rw [held_replace] at hid ⊢
    split at hid
    · rw [hnext] at hid
      cases hid
    · next hne => exact ⟨hne, if_neg hne⟩
  refine .of_exists ?_ (fun watch hwatch => ?_) (fun other another id hother hanother => ?_)
    (fun other id hid => ?_) ?_ ?_
  · rw [table_replace]
    exact h.inOrder.sublist List.filter_sublist
  · obtain ⟨hwatch, hgone⟩ := mem_replace.1 hwatch
    obtain ⟨owner, howner, -⟩ := h.one_owner watch hwatch
    refine ⟨owner, ?_⟩
    rw [held_replace, if_neg, howner]
    rintro rfl
    exact hgone howner.symm
  · rw [(hheld hother).2] at hother
    rw [(hheld hanother).2] at hanother
    exact h.holder_eq hother hanother
  · obtain ⟨hne, hsame⟩ := hheld hid
    rw [hsame] at hid ⊢
    obtain ⟨watch, hwatch, rfl, hcaller⟩ := h.exists_entry hid
    exact ⟨watch, mem_replace.2 ⟨hwatch, fun hgone => hne (h.holder_eq hid hgone.symm)⟩, rfl, hcaller⟩
  · rw [table_replace]
    exact h.next_pos
  · have hperm := h.perm_replace holder next
    rw [table_replace] at hperm ⊢
    exact hperm.trans h.accounted

/-! ## A holder that owns nothing -/

/-- A holder gets the handle to a new entry. -/
def enter (c : Custody β δ) (holder : β) (caller : CallerToken) (onDeath : Option δ) : Custody β δ where
  table :=
    { entries := c.table.entries ++ [⟨c.table.nextId, caller, onDeath⟩], nextId := c.table.nextId + 1 }
  handles := Function.update c.handles holder (some ⟨some c.table.nextId, caller⟩)
  removed := c.removed

/-- A holder gets what another one has. -/
def transfer (c : Custody β δ) (source target : β) : Custody β δ :=
  { c with
    handles := Function.update (Function.update c.handles source (some {})) target (some (c.held source)) }

theorem held_enter (c : Custody β δ) (holder : β) (caller : CallerToken) (onDeath : Option δ) (other : β) :
    (c.enter holder caller onDeath).held other =
      if other = holder then ⟨some c.table.nextId, caller⟩ else c.held other := by
  simp only [held, enter, Function.update_apply]
  split <;> rfl

theorem held_transfer (c : Custody β δ) (source target other : β) :
    (c.transfer source target).held other =
      if other = target then c.held source else if other = source then {} else c.held other := by
  simp only [held, transfer, Function.update_apply]
  split
  · rfl
  · split <;> rfl

theorem Owned.enter (h : c.Owned) (hvacant : (c.held holder).id = none) : (c.enter holder caller onDeath).Owned := by
  have hnew {other : β} (hid : (c.held other).id = some c.table.nextId) : False := by
    obtain ⟨watch, hwatch, hid, -⟩ := h.exists_entry hid
    exact Nat.ne_of_lt (h.id_lt hwatch) hid
  refine .of_exists ?_ (fun watch hwatch => ?_) (fun other another id hother hanother => ?_)
    (fun other id hid => ?_) (Nat.succ_pos _) ?_
  · refine List.pairwise_append.2 ⟨h.inOrder, List.pairwise_singleton _ _, fun watch hwatch other hother => ?_⟩
    rw [List.mem_singleton.1 hother]
    exact h.id_lt hwatch
  · rcases List.mem_append.1 hwatch with hold | hnew
    · obtain ⟨owner, howner, -⟩ := h.one_owner watch hold
      refine ⟨owner, ?_⟩
      rw [held_enter, if_neg, howner]
      rintro rfl
      rw [hvacant] at howner
      cases howner
    · obtain rfl := List.mem_singleton.1 hnew
      exact ⟨holder, by rw [held_enter, if_pos rfl]⟩
  · rw [held_enter] at hother hanother
    split at hother <;> split at hanother
    · next hone htwo => rw [hone, htwo]
    · cases hother
      exact (hnew hanother).elim
    · cases hanother
      exact (hnew hother).elim
    · exact h.holder_eq hother hanother
  · rw [held_enter] at hid ⊢
    split at hid
    · next hsame =>
      cases hid
      rw [if_pos hsame]
      exact ⟨_, List.mem_append_right _ (List.mem_singleton_self _), rfl, rfl⟩
    · next hne =>
      rw [if_neg hne]
      obtain ⟨watch, hwatch, hwatch'⟩ := h.exists_entry hid
      exact ⟨watch, List.mem_append_left _ hwatch, hwatch'⟩
  · have hlast : List.range' 1 c.table.nextId = List.range' 1 (c.table.nextId - 1) ++ [c.table.nextId] := by
      obtain ⟨made, hmade⟩ := Nat.exists_eq_succ_of_ne_zero (Nat.ne_of_gt h.next_pos)
      rw [hmade, List.range'_concat, Nat.succ_sub_one]
      simp [Nat.add_comm]
    calc (c.enter holder caller onDeath).table.entries.map (·.id) ++ c.removed
      _ = c.table.entries.map (·.id) ++ (c.table.nextId :: c.removed) := by simp [Custody.enter]
      _ ~ c.table.entries.map (·.id) ++ (c.removed ++ [c.table.nextId]) :=
        (List.perm_append_singleton _ _).symm.append_left _
      _ = c.table.entries.map (·.id) ++ c.removed ++ [c.table.nextId] := by rw [List.append_assoc]
      _ ~ List.range' 1 (c.table.nextId - 1) ++ [c.table.nextId] := h.accounted.append_right _
      _ = List.range' 1 c.table.nextId := hlast.symm

theorem Owned.transfer (h : c.Owned) (hvacant : (c.held target).id = none) :
    (c.transfer source target).Owned := by
  -- Whoever has something now had it, or it was the source that had it.
  have hheld {other : β} {id : Nat} (hid : ((c.transfer source target).held other).id = some id) :
      other = target ∧ (c.transfer source target).held other = c.held source ∨
        other ≠ source ∧ (c.transfer source target).held other = c.held other := by
    rw [held_transfer] at hid ⊢
    split at hid
    · next hsame => exact .inl ⟨hsame, if_pos hsame⟩
    · next hne =>
      split at hid
      · cases hid
      · next hne' => exact .inr ⟨hne', by rw [if_neg hne, if_neg hne']⟩
  refine .of_exists h.inOrder (fun watch hwatch => ?_) (fun other another id hother hanother => ?_)
    (fun other id hid => ?_) h.next_pos h.accounted
  · obtain ⟨owner, howner, -⟩ := h.one_owner watch hwatch
    by_cases hsource : owner = source
    · exact ⟨target, by rw [held_transfer, if_pos rfl, ← hsource, howner]⟩
    · refine ⟨owner, ?_⟩
      rw [held_transfer, if_neg, if_neg hsource, howner]
      rintro rfl
      rw [hvacant] at howner
      cases howner
  · rcases hheld hother with ⟨hone, hsame⟩ | ⟨hne, hsame⟩ <;> rw [hsame] at hother
    · rcases hheld hanother with ⟨htwo, -⟩ | ⟨hne, hsame⟩
      · rw [hone, htwo]
      · rw [hsame] at hanother
        exact absurd (h.holder_eq hanother hother) hne
    · rcases hheld hanother with ⟨-, hsame⟩ | ⟨-, hsame⟩ <;> rw [hsame] at hanother
      · exact absurd (h.holder_eq hother hanother) hne
      · exact h.holder_eq hother hanother
  · rcases hheld hid with ⟨-, hsame⟩ | ⟨-, hsame⟩ <;> rw [hsame] at hid ⊢ <;> exact h.exists_entry hid

/-! ## One deed after another -/

/-- To register a caller for a holder is to take from it what it has, and to enter the new one. -/
theorem act_register (h : c.Owned) (holder : β) (hcaller : caller ≠ 0) (onDeath : Option δ) :
    c.act (.register holder caller onDeath) = (c.replace holder none).enter holder caller onDeath := by
  -- What the holder has is older than the new entry, so that stays.
  have hnew : some c.table.nextId ≠ (c.held holder).id := by
    intro hid
    obtain ⟨watch, hwatch, hold, -⟩ := h.exists_entry hid.symm
    exact Nat.ne_of_lt (h.id_lt hwatch) hold
  have hstays : [(⟨c.table.nextId, caller, onDeath⟩ : Watch δ)].filter
      (fun watch => some watch.id != (c.held holder).id) = [⟨c.table.nextId, caller, onDeath⟩] :=
    List.filter_eq_self.2 (by simpa using hnew)
  have hheld (table : Liveness δ) : ({ c with table } : Custody β δ).held holder = c.held holder := rfl
  simp only [act, Liveness.register, if_neg hcaller, put, Registration.moveTo, enter, replace,
    Registration.table_release, Function.update_idem, hheld, List.filter_append, hstays]

/-- To move a handle to another holder is to take from that what it has, and to hand the handle on. -/
theorem act_move {registration : Registration} (hne : source ≠ target) (hsource : c.handles source = some registration) :
    c.act (.move source target) = (c.replace target none).transfer source target := by
  have htarget : ({ c with handles := Function.update c.handles source (some {}) } : Custody β δ).held target =
      c.held target := by
    simp only [held, Function.update_of_ne hne.symm]
  have hheld : (c.replace target none).held source = registration := by
    rw [held_replace, if_neg hne, held, hsource, Option.getD_some]
  rw [act, if_neg hne, hsource, transfer, hheld]
  simp only [put, Registration.moveTo, htarget, replace, Function.update_comm hne]
  rw [Function.update_idem]

/-- Whatever is done with a holder, every entry keeps exactly one owner. -/
theorem Owned.act (h : c.Owned) (deed : Deed β δ) : (c.act deed).Owned := by
  have hvacated (holder : β) : ((c.replace holder none).held holder).id = none := by
    rw [held_replace, if_pos rfl]
    rfl
  cases deed with
  | register holder caller onDeath =>
    by_cases hcaller : caller = 0
    · rwa [Custody.act, Liveness.register, if_pos hcaller]
    · rw [act_register h holder hcaller]
      exact (h.replace rfl).enter (hvacated holder)
  | move source target =>
    by_cases hne : source = target
    · rwa [Custody.act, if_pos hne]
    · cases hsource : c.handles source with
      | none => rwa [Custody.act, if_neg hne, hsource]
      | some registration =>
        rw [act_move hne hsource]
        exact (h.replace rfl).transfer (hvacated target)
  | release holder =>
    cases hholder : c.handles holder with
    | none => rwa [Custody.act, hholder]
    | some registration =>
      rw [Custody.act, hholder]
      refine h.replace ?_
      rw [Option.getD_some, Registration.release]
      split
      · assumption
      · rfl
  | destroy holder => exact h.replace rfl

theorem Owned.after (h : c.Owned) (deeds : List (Deed β δ)) : (c.after deeds).Owned := by
  induction deeds generalizing c with
  | nil => exact h
  | cons deed deeds ih => exact ih (h.act deed)

/-- Whatever was done with holders since there were none, every entry has exactly one owner. -/
theorem owned_after (deeds : List (Deed β δ)) : (({} : Custody β δ).after deeds).Owned :=
  owned_fresh.after deeds

end Custody

end Fingerprint
