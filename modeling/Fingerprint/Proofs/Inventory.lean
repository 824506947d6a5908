import Mathlib.Data.List.Basic
import Mathlib.Data.List.Induction
import Mathlib.Order.Bounds.Basic
import Fingerprint.TemplateStore

/-!
# What the store lists

Templates are added, removed and renamed, in any order and as often as one
likes. What the store lists for a subject can be read off these changes: the
templates that were added and not removed since, one after the other in the
order in which they entered, each with the last label that it was given since.
A template enters with the last change that adds it while it is absent; to add
it once more makes no difference.

Changes for one subject leave all others alone, so what is listed for a subject
depends on the changes for that subject only.

* `TemplateStore.Present`: a template was added and not removed since;
* `TemplateStore.Enters`, `TemplateStore.EntersLast`: the changes with which it enters;
* `TemplateStore.Account`: a list of templates agrees with the changes, which each
  change keeps;
* `TemplateStore.list_after_filter`: only the changes for a subject matter to it;
* `TemplateStore.accounts_for_changes`.
-/

namespace Fingerprint

namespace TemplateStore

/-- What is done to a store. -/
inductive Change where
  | add (subject : Int32) (id : UInt32)
  | remove (subject : Int32) (id : UInt32)
  | rename (subject : Int32) (id : UInt32) (label : Bytes)
  deriving DecidableEq, Repr

namespace Change

/-- Whose templates are changed. -/
def subject : Change → Int32
  | add subject _ | remove subject _ | rename subject _ _ => subject

/-- What becomes of a store. -/
def apply (store : TemplateStore) : Change → TemplateStore
  | add subject id => store.add subject id
  | remove subject id => store.remove subject id
  | rename subject id label => store.rename subject id label

/-- The label that is given to a template of a subject, if any. -/
def label? (subject : Int32) (id : UInt32) : Change → Option Bytes
  | rename other number label => if other = subject ∧ number = id then some label else none
  | _ => none

end Change

/-- A store after changes, oldest first. -/
def after (changes : List Change) (store : TemplateStore) : TemplateStore := changes.foldl Change.apply store

/-! ## The history of a template -/

/-- The template was added for the subject, and not removed since. -/
def Present (changes : List Change) (subject : Int32) (id : UInt32) : Prop :=
  id ≠ 0 ∧ ∃ before since, changes = before ++ .add subject id :: since ∧ .remove subject id ∉ since

/-- The change at a position adds the template while it is absent. -/
structure Enters (changes : List Change) (subject : Int32) (id : UInt32) (position : Nat) : Prop where
  added : changes[position]? = some (.add subject id)
  nonzero : id ≠ 0
  absent : ¬Present (changes.take position) subject id

/-- The change at a position is the last that does so. -/
def EntersLast (changes : List Change) (subject : Int32) (id : UInt32) (position : Nat) : Prop :=
  IsGreatest {n | Enters changes subject id n} position

/-- The last label that the template was given behind a position, or else the one it has from the start. -/
def labelSince (changes : List Change) (position : Nat) (subject : Int32) (id : UInt32) : Bytes :=
  ((changes.drop (position + 1)).filterMap (·.label? subject id)).getLast?.getD (defaultLabel id)

variable {changes : List Change} {change : Change} {subject other : Int32} {id : UInt32} {position : Nat}

theorem not_present_nil : ¬Present [] subject id := by
  rintro ⟨-, before, since, hchanges, -⟩
  exact absurd hchanges (by simp)

/-- One more change brings the template in or takes it out, or makes no difference to that. -/
theorem present_concat :
    Present (changes ++ [change]) subject id ↔
      id ≠ 0 ∧ change = .add subject id ∨ Present changes subject id ∧ change ≠ .remove subject id := by
  constructor
  · rintro ⟨hid, before, since, hchanges, hsince⟩
    rcases List.eq_nil_or_concat' since with rfl | ⟨since, last, rfl⟩
    · exact .inl ⟨hid, (List.append_inj' hchanges rfl).2 |> List.singleton_inj.1⟩
    · rw [← List.cons_append, ← List.append_assoc] at hchanges
      obtain ⟨hbefore, hlast⟩ := List.append_inj' hchanges rfl
      rw [List.mem_append, List.mem_singleton, not_or, ← List.singleton_inj.1 hlast] at hsince
      exact .inr ⟨⟨hid, before, since, hbefore, hsince.1⟩, Ne.symm hsince.2⟩
  · rintro (⟨hid, rfl⟩ | ⟨⟨hid, before, since, rfl, hsince⟩, hchange⟩)
    · exact ⟨hid, changes, [], rfl, List.not_mem_nil⟩
    · refine ⟨hid, before, since ++ [change], by simp, ?_⟩
      rw [List.mem_append, List.mem_singleton, not_or]
      exact ⟨hsince, Ne.symm hchange⟩

theorem Enters.lt (h : Enters changes subject id position) : position < changes.length :=
  (List.getElem?_eq_some_iff.1 h.added).1

theorem enters_concat :
    Enters (changes ++ [change]) subject id position ↔
      Enters changes subject id position ∨
        position = changes.length ∧ change = .add subject id ∧ id ≠ 0 ∧ ¬Present changes subject id := by
  rcases Nat.lt_trichotomy position changes.length with hlt | rfl | hgt
  · have htake : (changes ++ [change]).take position = changes.take position :=
      List.take_append_of_le_length hlt.le
    refine ⟨fun ⟨hadded, hid, habsent⟩ => .inl ⟨?_, hid, htake ▸ habsent⟩, ?_⟩
    · rwa [List.getElem?_append_left hlt] at hadded
    · rintro (⟨hadded, hid, habsent⟩ | ⟨heq, -⟩)
      · exact ⟨by rwa [List.getElem?_append_left hlt], hid, by rwa [htake]⟩
      · exact absurd heq hlt.ne
  · refine ⟨fun ⟨hadded, hid, habsent⟩ => .inr ⟨rfl, ?_, hid, ?_⟩, ?_⟩
    · simpa using hadded
    · rwa [List.take_left] at habsent
    · rintro (h | ⟨-, rfl, hid, habsent⟩)
      · exact absurd h.lt (Nat.lt_irrefl _)
      · exact ⟨by simp, hid, by rwa [List.take_left]⟩
  · refine ⟨fun h => ?_, ?_⟩
    · have := h.lt
      rw [List.length_append, List.length_singleton] at this
      omega
    · rintro (h | ⟨heq, -⟩)
      · exact absurd h.lt (Nat.not_lt.2 hgt.le)
      · exact absurd heq hgt.ne'

/-- A change that does not bring the template in leaves alone when it has entered. -/
theorem entersLast_concat (h : ¬(change = .add subject id ∧ id ≠ 0 ∧ ¬Present changes subject id)) :
    EntersLast (changes ++ [change]) subject id position ↔ EntersLast changes subject id position := by
  have hsame (n : Nat) : Enters (changes ++ [change]) subject id n ↔ Enters changes subject id n := by
    rw [enters_concat, or_iff_left fun hnew => h hnew.2]
  simp only [EntersLast, hsame]

theorem entersLast_concat_self (hid : id ≠ 0) (habsent : ¬Present changes subject id) :
    EntersLast (changes ++ [.add subject id]) subject id changes.length := by
  refine ⟨enters_concat.2 (.inr ⟨rfl, rfl, hid, habsent⟩), fun n hn => ?_⟩
  rcases enters_concat.1 hn with hn | ⟨rfl, -⟩
  · exact hn.lt.le
  · exact Nat.le_refl _

theorem labelSince_concat (h : position < changes.length) :
    labelSince (changes ++ [change]) position subject id =
      (change.label? subject id).getD (labelSince changes position subject id) := by
  rw [labelSince, labelSince, List.drop_append_of_le_length h, List.filterMap_append]
  cases hlabel : change.label? subject id with
  | none => simp [hlabel]
  | some label => simp [hlabel]

/-- Nobody can have renamed a template that has just entered. -/
theorem labelSince_length : labelSince (changes ++ [change]) changes.length subject id = defaultLabel id := by
  simp [labelSince]

/-! ## What is listed -/

/-- The template looks as the changes have it. -/
def Described (device : UInt64) (changes : List Change) (subject : Int32) (t : Template) : Prop :=
  ∃ position, EntersLast changes subject t.id position ∧
    t = ⟨t.id, subject, labelSince changes position subject t.id, device⟩

/-- One template has entered before another. -/
def Precedes (changes : List Change) (subject : Int32) (id id' : UInt32) : Prop :=
  ∃ position position', EntersLast changes subject id position ∧ EntersLast changes subject id' position' ∧
    position < position'

/-- Templates are listed for a subject as the changes of the store have it. -/
structure Account (device : UInt64) (changes : List Change) (subject : Int32) (templates : List Template) : Prop where
  /-- Those are listed that were added and not removed since. -/
  present : ∀ id, (∃ t ∈ templates, t.id = id) ↔ Present changes subject id
  /-- Each is listed once. -/
  distinct : (templates.map (·.id)).Nodup
  /-- They stand in the order in which they have entered. -/
  ordered : templates.Pairwise fun t t' => Precedes changes subject t.id t'.id
  described : ∀ t ∈ templates, Described device changes subject t

variable {device : UInt64} {templates : List Template} {t : Template}

namespace Account

theorem fresh (device : UInt64) (subject : Int32) : Account device [] subject [] where
  present id := by simp [not_present_nil]
  distinct := .nil
  ordered := .nil
  described _ ht := absurd ht List.not_mem_nil

/-- Whoever is listed is not brought in by a change. -/
theorem entersLast_iff (h : Account device changes subject templates) (ht : t ∈ templates) (change : Change) :
    EntersLast (changes ++ [change]) subject t.id position ↔ EntersLast changes subject t.id position :=
  entersLast_concat fun hnew => hnew.2.2 ((h.present t.id).1 ⟨t, ht, rfl⟩)

/-- Those that are listed stay in the order in which they have entered. -/
theorem ordered_concat (h : Account device changes subject templates) (change : Change) :
    templates.Pairwise fun t t' => Precedes (changes ++ [change]) subject t.id t'.id := by
  refine h.ordered.imp_of_mem fun {t t'} ht ht' hprecedes => ?_
  obtain ⟨position, position', hposition, hposition', hlt⟩ := hprecedes
  exact ⟨position, position', (h.entersLast_iff ht change).2 hposition, (h.entersLast_iff ht' change).2 hposition', hlt⟩

theorem described_concat (h : Account device changes subject templates) (ht : t ∈ templates) (change : Change) :
    Described device (changes ++ [change]) subject
      { t with label := (change.label? subject t.id).getD t.label } := by
  obtain ⟨position, hposition, heq⟩ := h.described t ht
  refine ⟨position, (h.entersLast_iff ht change).2 hposition, ?_⟩
  have hlt : position < changes.length := hposition.1.lt
  rw [labelSince_concat hlt, heq]

/-- A change that neither brings in nor takes out a template of the subject gives labels at most. -/
theorem relabel (h : Account device changes subject templates) (change : Change)
    (hadd : ∀ id, change = .add subject id → id ≠ 0 → Present changes subject id)
    (hremove : ∀ id, change = .remove subject id → ¬Present changes subject id) :
    Account device (changes ++ [change]) subject
      (templates.map fun t => { t with label := (change.label? subject t.id).getD t.label }) where
  present id := by
    rw [present_concat, or_iff_right_of_imp, and_iff_left_of_imp, ← h.present id]
    · simp
    · exact fun hpresent hchange => hremove id hchange hpresent
    · rintro ⟨hid, rfl⟩
      exact ⟨hadd id rfl hid, nofun⟩
  distinct := by
    rw [List.map_map]
    exact h.distinct
  ordered := List.pairwise_map.2 (h.ordered_concat change)
  described _ hmem := by
    obtain ⟨t, ht, rfl⟩ := List.mem_map.1 hmem
    exact h.described_concat ht change

/-- So a change without labels makes no difference then. -/
theorem keep (h : Account device changes subject templates)
    (hadd : ∀ id, change = .add subject id → id ≠ 0 → Present changes subject id)
    (hremove : ∀ id, change = .remove subject id → ¬Present changes subject id)
    (hlabel : ∀ id, change.label? subject id = none) :
    Account device (changes ++ [change]) subject templates := by
  have hkept := h.relabel change hadd hremove
  simp only [hlabel, Option.getD_none] at hkept
  rwa [List.map_id'] at hkept

theorem add (h : Account device changes subject templates) (hid : id ≠ 0) (habsent : ¬Present changes subject id) :
    Account device (changes ++ [.add subject id]) subject
      (templates ++ [⟨id, subject, defaultLabel id, device⟩]) where
  present id' := by
    rw [present_concat, ← h.present id']
    simp only [List.mem_append, List.mem_singleton, or_and_right, exists_or, exists_eq_left, Change.add.injEq,
      true_and, ne_eq, reduceCtorEq, not_false_eq_true, and_true]
    rw [or_comm]
    refine or_congr_left ⟨?_, And.right⟩
    rintro rfl
    exact ⟨hid, rfl⟩
  distinct := by
    rw [List.map_append, List.nodup_append]
    refine ⟨h.distinct, List.pairwise_singleton _ _, fun a ha b hb hab => habsent ?_⟩
    obtain ⟨t, ht, rfl⟩ := List.mem_map.1 ha
    obtain rfl := List.mem_singleton.1 hb
    exact (h.present _).1 ⟨t, ht, hab⟩
  ordered := by
    refine List.pairwise_append.2 ⟨h.ordered_concat _, List.pairwise_singleton _ _, fun t ht t' ht' => ?_⟩
    -- It has entered behind all that are listed.
    obtain rfl := List.mem_singleton.1 ht'
    obtain ⟨position, hposition, -⟩ := h.described t ht
    have hlast := entersLast_concat_self hid habsent
    exact ⟨position, changes.length, (h.entersLast_iff ht _).2 hposition, hlast, hposition.1.lt⟩
  described t ht := by
    rcases List.mem_append.1 ht with ht | ht
    · exact h.described_concat ht (.add subject id)
    · obtain rfl := List.mem_singleton.1 ht
      exact ⟨changes.length, entersLast_concat_self hid habsent, by rw [labelSince_length]⟩

theorem remove (h : Account device changes subject templates) (id : UInt32) :
    Account device (changes ++ [.remove subject id]) subject (templates.filter (·.id != id)) where
  present id' := by
    rw [present_concat, ← h.present id']
    simp only [List.mem_filter, bne_iff_ne, reduceCtorEq, and_false, false_or, ne_eq, Change.remove.injEq, true_and]
    constructor
    · rintro ⟨t, ⟨ht, hne⟩, rfl⟩
      exact ⟨⟨t, ht, rfl⟩, Ne.symm hne⟩
    · rintro ⟨⟨t, ht, rfl⟩, hne⟩
      exact ⟨t, ⟨ht, Ne.symm hne⟩, rfl⟩
  distinct := h.distinct.sublist (List.filter_sublist.map _)
  ordered := (h.ordered_concat _).sublist List.filter_sublist
  described t ht := h.described_concat (List.mem_filter.1 ht).1 (.remove subject id)

/-- What is listed agrees with the changes after one more of them. -/
theorem apply {store : TemplateStore} (hdevice : store.device = device)
    (h : Account device changes subject (store.list subject)) (change : Change) :
    Account device (changes ++ [change]) subject ((change.apply store).list subject) := by
  cases change with
  | add owner id =>
    by_cases hsubject : subject = owner
    · subst hsubject
      rw [Change.apply, list_add]
      split
      · next hno =>
        rw [h.present id] at hno
        refine h.keep (fun id' heq hid' => ?_) nofun fun _ => rfl
        obtain ⟨-, rfl⟩ := Change.add.inj heq
        exact hno.resolve_left hid'
      · next hyes =>
        rw [not_or, h.present id] at hyes
        rw [hdevice]
        exact h.add hyes.1 hyes.2
    · rw [Change.apply, list_add_of_ne store id hsubject]
      exact h.keep (fun _ heq => absurd (Change.add.inj heq).1.symm hsubject) nofun fun _ => rfl
  | remove owner id =>
    by_cases hsubject : subject = owner
    · subst hsubject
      rw [Change.apply, list_remove]
      exact h.remove id
    · rw [Change.apply, list_remove_of_ne store id hsubject]
      exact h.keep nofun (fun _ heq => absurd (Change.remove.inj heq).1.symm hsubject) fun _ => rfl
  | rename owner id label =>
    have hrelabeled := h.relabel (.rename owner id label) nofun nofun
    by_cases hsubject : subject = owner
    · subst hsubject
      rw [Change.apply, list_rename]
      convert hrelabeled using 2
      funext t
      by_cases hid : t.id = id
      · simp [Change.label?, hid]
      · simp [Change.label?, hid, Ne.symm hid]
    · rw [Change.apply, list_rename_of_ne store id label hsubject]
      exact h.keep nofun nofun fun _ => if_neg fun heq => hsubject heq.1.symm

end Account

/-! ## Changes of a store -/

theorem device_apply (store : TemplateStore) (change : Change) : (change.apply store).device = store.device := by
  cases change with
  | add subject id =>
    rw [Change.apply, TemplateStore.add]
    split <;> rfl
  | remove | rename => rfl

theorem after_append (changes more : List Change) (store : TemplateStore) :
    after (changes ++ more) store = after more (after changes store) := List.foldl_append

theorem device_after (changes : List Change) (store : TemplateStore) : (after changes store).device = store.device := by
  induction changes generalizing store with
  | nil => rfl
  | cons change changes ih => exact (ih _).trans (device_apply store change)

theorem account (device : UInt64) (changes : List Change) (subject : Int32) :
    Account device changes subject ((after changes { device }).list subject) := by
  induction changes using List.reverseRecOn with
  | nil => exact .fresh device subject
  | append_singleton changes change ih =>
    rw [after_append]
    exact Account.apply (device_after changes { device }) ih change

/-- A change for one subject leaves the others alone. -/
theorem list_apply_of_ne (store : TemplateStore) (h : other ≠ change.subject) :
    (change.apply store).list other = store.list other := by
  cases change with
  | add subject id => exact list_add_of_ne store id h
  | remove subject id => exact list_remove_of_ne store id h
  | rename subject id label => exact list_rename_of_ne store id label h

/-- What becomes of the templates of a subject depends on these alone. -/
theorem list_apply_congr {store store' : TemplateStore} (hdevice : store.device = store'.device)
    (h : store.list subject = store'.list subject) (change : Change) :
    (change.apply store).list subject = (change.apply store').list subject := by
  by_cases hsubject : subject = change.subject
  · cases change with
    | add owner id =>
      obtain rfl := hsubject
      simp only [Change.apply, list_add, h, hdevice] at h ⊢
    | remove owner id =>
      obtain rfl := hsubject
      simp only [Change.apply, list_remove, h] at h ⊢
    | rename owner id label =>
      obtain rfl := hsubject
      simp only [Change.apply, list_rename, h] at h ⊢
  · rw [list_apply_of_ne store hsubject, list_apply_of_ne store' hsubject, h]

theorem list_after_congr {store store' : TemplateStore} (hdevice : store.device = store'.device)
    (h : store.list subject = store'.list subject) (changes : List Change) :
    (after changes store).list subject = (after changes store').list subject := by
  induction changes generalizing store store' with
  | nil => exact h
  | cons change changes ih =>
    refine ih ?_ (list_apply_congr hdevice h change)
    rw [device_apply, device_apply, hdevice]

/-- Only the changes for a subject matter to what is listed for it. -/
theorem list_after_filter (changes : List Change) (store : TemplateStore) (subject : Int32) :
    (after changes store).list subject = (after (changes.filter (·.subject = subject)) store).list subject := by
  induction changes generalizing store with
  | nil => rfl
  | cons change changes ih =>
    by_cases hsubject : change.subject = subject
    · rw [List.filter_cons_of_pos (by simpa using hsubject)]
      exact ih (change.apply store)
    · rw [List.filter_cons_of_neg (by simpa using hsubject), ← ih store]
      exact list_after_congr (device_apply store change) (list_apply_of_ne store (Ne.symm hsubject)) changes

/-- Changes for different subjects may be made in either order. -/
theorem list_after_swap {change change' : Change} (h : change.subject ≠ change'.subject) (before later : List Change)
    (store : TemplateStore) (subject : Int32) :
    (after (before ++ change :: change' :: later) store).list subject =
      (after (before ++ change' :: change :: later) store).list subject := by
  rw [list_after_filter, list_after_filter (before ++ change' :: change :: later)]
  congr 2
  rw [List.filter_append, List.filter_append]
  congr 1
  by_cases hchange : change.subject = subject
  · have hother : change'.subject ≠ subject := fun heq => h (hchange.trans heq.symm)
    simp [hchange, hother]
  · simp [List.filter_cons, hchange]

/-- The change is to add a template that is there or has the number zero, or is about one that is not
    there. -/
def Change.Idle (changes : List Change) : Change → Prop
  | add subject id => id = 0 ∨ Present changes subject id
  | remove subject id | rename subject id _ => ¬Present changes subject id

/-- Such a change leaves every list as it is. -/
theorem list_apply_of_idle (h : change.Idle changes) (other : Int32) :
    (change.apply (after changes { device })).list other = (after changes { device }).list other := by
  by_cases hother : other = change.subject
  · subst hother
    have haccount := account device changes change.subject
    have habsent {id : UInt32} (hno : ¬Present changes change.subject id) :
        ∀ t ∈ (after changes { device }).list change.subject, t.id ≠ id :=
      fun t ht hid => hno ((haccount.present id).1 ⟨t, ht, hid⟩)
    cases change with
    | add subject id =>
      exact (list_add ..).trans (if_pos (h.imp_right (haccount.present id).2))
    | remove subject id =>
      refine (list_remove ..).trans (List.filter_eq_self.2 fun t ht => ?_)
      exact bne_iff_ne.2 (habsent h t ht)
    | rename subject id label =>
      refine (list_rename ..).trans ((List.map_congr_left fun t ht => ?_).trans (List.map_id _))
      exact if_neg (habsent h t ht)
  · exact list_apply_of_ne _ hother

/-- Such a change might as well not be made. -/
theorem list_after_of_idle (h : change.Idle changes) (later : List Change) (subject : Int32) :
    (after (changes ++ change :: later) { device }).list subject = (after (changes ++ later) { device }).list subject := by
  rw [after_append, after_append]
  exact list_after_congr (device_apply _ change) (list_apply_of_idle h subject) later

/-- Whatever is done to a new store, it lists for each subject what the changes say. A change for one subject
    leaves the lists of others alone, changes for different subjects may be made in either order, and an
    idle change might as well not be made. -/
theorem accounts_for_changes (device : UInt64) (changes : List Change) :
    (∀ subject, Account device changes subject ((after changes { device }).list subject)) ∧
      (∀ (change : Change) (other : Int32), other ≠ change.subject →
        (change.apply (after changes { device })).list other = (after changes { device }).list other) ∧
      (∀ (change change' : Change) (later : List Change) (subject : Int32), change.subject ≠ change'.subject →
        (after (changes ++ change :: change' :: later) { device }).list subject =
          (after (changes ++ change' :: change :: later) { device }).list subject) ∧
      ∀ (change : Change) (later : List Change) (subject : Int32), change.Idle changes →
        (after (changes ++ change :: later) { device }).list subject =
          (after (changes ++ later) { device }).list subject :=
  ⟨account device changes, fun _ _ h => list_apply_of_ne _ h, fun _ _ later subject h =>
    list_after_swap h changes later _ subject, fun _ later subject h => list_after_of_idle h later subject⟩

/-- One is removed and added again, and stands behind two by then, without the label that it had. The list of
    another subject has become empty. -/
theorem accounts_for_changes_of_return :
    let changes : List Change :=
      [.add 7 1, .add 7 2, .add 8 1, .rename 7 1 "thumb", .remove 8 1, .rename 7 2 "index", .remove 7 1, .add 7 1]
    (after changes { device := 209 }).list 7 =
        [⟨2, 7, "index", 209⟩, ⟨1, 7, "Fingerprint 1", 209⟩] ∧
      (after changes { device := 209 }).list 8 = [] ∧
      EntersLast changes 7 1 7 ∧
      (Change.remove 8 1).Idle changes ∧
      (∀ later subject, (after (changes ++ .remove 8 1 :: later) { device := 209 }).list subject =
        (after (changes ++ later) { device := 209 }).list subject) ∧
      ∀ later subject, (after (changes ++ .remove 7 2 :: .add 8 2 :: later) { device := 209 }).list subject =
        (after (changes ++ .add 8 2 :: .remove 7 2 :: later) { device := 209 }).list subject := by
  intro changes
  obtain ⟨haccount, -, hswap, hidle⟩ := accounts_for_changes 209 changes
  have habsent : ¬Present changes 8 1 := fun hpresent =>
    absurd ((haccount 8).present 1 |>.2 hpresent) (by decide)
  have hlast : EntersLast changes 7 1 7 := by
    have hbefore : ¬Present (changes.take 7) 7 1 := fun hpresent =>
      absurd ((account 209 (changes.take 7) 7).present 1 |>.2 hpresent) (by decide)
    exact entersLast_concat_self (by decide) hbefore
  exact ⟨by decide, by decide, hlast, habsent, fun later subject => hidle _ later subject habsent,
    fun later subject => hswap _ _ later subject (by decide)⟩

end TemplateStore

end Fingerprint
