import Fingerprint.Bytes

/-!
# The template store

Which templates are enrolled for which subject, kept in memory. The templates
of a subject are listed in the order in which they were added. A template has
a number other than zero, unique for its subject, and a label that can be
changed.

* `TemplateStore.list`: the view of a store, one list per subject;
* `TemplateStore.add`, `remove`, `rename`.
-/

namespace Fingerprint

/-- An enrolled template. -/
structure Template where
  id : UInt32
  subject : Int32
  label : Bytes
  device : UInt64
  deriving DecidableEq, Repr

/-- The templates of all subjects. -/
structure TemplateStore where
  /-- The device that templates are enrolled on. -/
  device : UInt64 := 0
  /-- The templates by subject; a subject without templates has no entry. -/
  subjects : List (Int32 × List Template) := []
  deriving DecidableEq, Repr

namespace TemplateStore

/-- The templates of a subject, in the order in which they were added. -/
def list (store : TemplateStore) (subject : Int32) : List Template :=
  (store.subjects.lookup subject).getD []

/-- Gives a subject the templates listed, taking out the entry if there are none. -/
def setList (store : TemplateStore) (subject : Int32) (templates : List Template) : TemplateStore :=
  let others := store.subjects.filter fun entry => entry.1 != subject
  { store with subjects := if templates.isEmpty then others else (subject, templates) :: others }

/-- Taking out the entry of one subject leaves those of others. -/
theorem lookup_others (subject other : Int32) (h : other ≠ subject) (entries : List (Int32 × List Template)) :
    (entries.filter fun entry => entry.1 != subject).lookup other = entries.lookup other := by
  induction entries with
  | nil => rfl
  | cons entry rest ih =>
    obtain ⟨key, templates⟩ := entry
    by_cases hkey : key = subject
    · have hother : (other == key) = false := by simpa [hkey] using h
      rw [List.filter_cons_of_neg (by simp [hkey]), List.lookup_cons, hother, ih]
    · rw [List.filter_cons_of_pos (by simpa using hkey), List.lookup_cons, List.lookup_cons, ih]

/-- There is no entry left of a subject whose entry was taken out. -/
theorem lookup_taken_out (subject : Int32) (entries : List (Int32 × List Template)) :
    (entries.filter fun entry => entry.1 != subject).lookup subject = none := by
  rw [List.lookup_eq_none_iff]
  intro entry hentry
  have hne := (List.mem_filter.1 hentry).2
  grind

@[simp] theorem list_setList_self (store : TemplateStore) (subject : Int32) (templates : List Template) :
    (store.setList subject templates).list subject = templates := by
  cases templates <;> simp [setList, list, lookup_taken_out]

theorem list_setList_of_ne (store : TemplateStore) {subject other : Int32} (templates : List Template)
    (h : other ≠ subject) : (store.setList subject templates).list other = store.list other := by
  have hother : (other == subject) = false := by simpa using h
  cases templates <;> simp [setList, list, List.lookup_cons, hother, lookup_others subject other h]

/-- The label of a template that was not renamed. -/
def defaultLabel (id : UInt32) : Bytes := ("Fingerprint " : Bytes) ++ Bytes.ofNat id.toNat

/-- Adds a template, unless its number is zero or taken. -/
def add (store : TemplateStore) (subject : Int32) (id : UInt32) : TemplateStore :=
  if id = 0 || (store.list subject).any (·.id == id) then store
  else store.setList subject (store.list subject ++ [⟨id, subject, defaultLabel id, store.device⟩])

/-- Takes out a template, if it is there. -/
def remove (store : TemplateStore) (subject : Int32) (id : UInt32) : TemplateStore :=
  store.setList subject ((store.list subject).filter (·.id != id))

/-- Changes the label of a template, if it is there. -/
def rename (store : TemplateStore) (subject : Int32) (id : UInt32) (label : Bytes) : TemplateStore :=
  store.setList subject ((store.list subject).map fun t => if t.id = id then { t with label := label } else t)

/-! ## The operations through the view -/

theorem list_add (store : TemplateStore) (subject : Int32) (id : UInt32) :
    (store.add subject id).list subject =
      if id = 0 ∨ ∃ t ∈ store.list subject, t.id = id then store.list subject
      else store.list subject ++ [⟨id, subject, defaultLabel id, store.device⟩] := by
  have hiff : (id = 0 || (store.list subject).any (·.id == id)) = true ↔
      (id = 0 ∨ ∃ t ∈ store.list subject, t.id = id) := by
    simp
  rw [add]
  split
  case isTrue h => rw [if_pos (hiff.1 h)]
  case isFalse h => rw [if_neg (h ∘ hiff.2), list_setList_self]

@[simp] theorem list_remove (store : TemplateStore) (subject : Int32) (id : UInt32) :
    (store.remove subject id).list subject = (store.list subject).filter (·.id != id) :=
  list_setList_self ..

@[simp] theorem list_rename (store : TemplateStore) (subject : Int32) (id : UInt32) (label : Bytes) :
    (store.rename subject id label).list subject =
      (store.list subject).map fun t => if t.id = id then { t with label := label } else t :=
  list_setList_self ..

theorem list_add_of_ne (store : TemplateStore) {subject other : Int32} (id : UInt32) (h : other ≠ subject) :
    (store.add subject id).list other = store.list other := by
  rw [add]
  split
  · rfl
  · exact list_setList_of_ne store _ h

theorem list_remove_of_ne (store : TemplateStore) {subject other : Int32} (id : UInt32)
    (h : other ≠ subject) : (store.remove subject id).list other = store.list other :=
  list_setList_of_ne store _ h

theorem list_rename_of_ne (store : TemplateStore) {subject other : Int32} (id : UInt32) (label : Bytes)
    (h : other ≠ subject) : (store.rename subject id label).list other = store.list other :=
  list_setList_of_ne store _ h

end TemplateStore

end Fingerprint
