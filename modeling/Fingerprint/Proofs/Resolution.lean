import Mathlib.Data.List.Basic
import Fingerprint.Proofs.FileSystem

/-!
# Paths that lead anywhere

A path may lead through any directories, and the file system be of any form.
What is located by its last name also resolves, in the same file system and in
any that has more in it. So whoever opens a file at a path gets a stream to
the file that the path leads to from then on.

The bytes of files are kept apart from their names, and no operation on names
touches them.

* `FileSystem.fileAt?`: the file that a path leads to;
* `FileSystem.Extends`: a file system with more in it;
* `FileSystem.fileAt?_of_openFile`: the file that is opened at a path;
* `FileSystem.contents_rename`, `contents_createDirectories`, `contents_openFile`.
-/

namespace Fingerprint

namespace FileSystem

variable {fs fs' : FileSystem} {path source target : Bytes}

/-! ## Files at paths -/

/-- The number of the file that a path leads to. -/
def fileAt? (fs : FileSystem) (path : Bytes) : Option Nat :=
  match fs.resolve path with
  | .error _ => none
  | .ok place =>
    match fs.node? place with
    | some (.file number) => some number
    | _ => none

theorem ne_nil_of_node?_eq_none {place : Place} (h : fs.node? place = none) : place ≠ [] := by
  rintro rfl
  cases h

/-- What is somewhere in one file system is there in the other as well. -/
structure Extends (fs fs' : FileSystem) : Prop where
  workingDirectory : fs'.workingDirectory = fs.workingDirectory
  node {place : Place} {node : Node} : fs.node? place = some node → fs'.node? place = some node

theorem Extends.refl (fs : FileSystem) : Extends fs fs := ⟨rfl, id⟩

/-- An open file that was not there before. -/
theorem Extends.created {place : Place} (h : fs.node? place = none) (node : Node) (nextNumber : Nat) :
    Extends fs { (fs.setNode place node) with nextNumber } where
  workingDirectory := rfl
  node {other} {found} hfound := by
    have hne : other ≠ place := fun heq => by
      rw [heq, h] at hfound
      cases hfound
    exact (node?_setNode (ne_nil_of_node?_eq_none h) other).trans ((if_neg hne).trans hfound)

theorem Extends.step_eq_ok (h : Extends fs fs') {place next : Place} {name : Bytes}
    (hstep : fs.step place name = .ok next) : fs'.step place name = .ok next := by
  by_cases hdirectory : fs.node? place = some .directory
  · rw [step, hdirectory] at hstep
    rwa [step, h.node hdirectory]
  · rw [step, if_pos (by simpa using hdirectory)] at hstep
    cases hstep

theorem Extends.walk_eq_ok (h : Extends fs fs') {names : List Bytes} {place last : Place}
    (hwalk : fs.walk place names = .ok last) : fs'.walk place names = .ok last := by
  induction names generalizing place with
  | nil => exact hwalk
  | cons name rest ih =>
    unfold walk at hwalk ⊢
    cases hstep : fs.step place name with
    | error errno =>
      rw [hstep] at hwalk
      cases hwalk
    | ok next =>
      rw [hstep] at hwalk
      rw [h.step_eq_ok hstep]
      dsimp only at hwalk ⊢
      cases hnode : fs.node? next with
      | none =>
        rw [hnode, if_pos Option.isNone_none] at hwalk
        cases hwalk
      | some node =>
        rw [hnode, if_neg (by simp)] at hwalk
        rw [h.node hnode, if_neg (by simp)]
        exact ih hwalk

/-- To walk to a name is to walk to the one before, and to make one step more. -/
theorem walk_concat {names : List Bytes} {name : Bytes} {place directory next : Place}
    (hwalk : fs.walk place names = .ok directory) (hstep : fs.step directory name = .ok next)
    (hnext : (fs.node? next).isSome) : fs.walk place (names ++ [name]) = .ok next := by
  induction names generalizing place with
  | nil =>
    cases hwalk
    rw [List.nil_append, walk, hstep]
    dsimp only
    rw [if_neg (by simpa [Option.isSome_iff_ne_none] using hnext)]
    rfl
  | cons first rest ih =>
    rw [List.cons_append]
    unfold walk at hwalk ⊢
    cases hfirst : fs.step place first with
    | error errno =>
      rw [hfirst] at hwalk
      cases hwalk
    | ok second =>
      rw [hfirst] at hwalk
      dsimp only at hwalk ⊢
      split at hwalk
      · cases hwalk
      · next hsecond =>
        rw [if_neg hsecond]
        exact ih hwalk

theorem readPath_eq_ok {read : Bytes} (h : readPath path = .ok read) : read = path.untilZero := by
  unfold readPath at h
  dsimp only at h
  split at h
  · cases h
  · split at h
    · cases h
    · cases h
      rfl

/-- What is located in one file system resolves in every extension, if something is there. -/
theorem resolve_of_locate {directory place : Place} {name : Bytes} (h : Extends fs fs')
    (hlocate : fs.locate path = .ok (directory, name)) (hstep : fs.step directory name = .ok place)
    (hfile : endsAsDirectory path = false) (hplace : (fs'.node? place).isSome) :
    fs'.resolve path = .ok place := by
  unfold locate at hlocate
  unfold resolve
  cases hread : readPath path with
  | error errno =>
    rw [hread] at hlocate
    cases hlocate
  | ok read =>
    have hends : endsAsDirectory read = false := by
      rw [readPath_eq_ok hread, endsAsDirectory, Bytes.untilZero_eq_self (Bytes.zero_not_mem_untilZero path)]
      exact hfile
    rw [hread] at hlocate
    simp only [bind, Except.bind] at hlocate ⊢
    rw [hends, if_neg Bool.false_ne_true]
    have hstart : fs'.start read = fs.start read := by
      rw [start, start, h.workingDirectory]
    cases hlast : (Path.names read).getLast? with
    | none =>
      rw [hlast] at hlocate
      cases hlocate
    | some last =>
      rw [hlast] at hlocate
      cases hwalk : fs.walk (fs.start read) (Path.names read).dropLast with
      | error errno =>
        rw [hwalk] at hlocate
        cases hlocate
      | ok found =>
        rw [hwalk] at hlocate
        dsimp only at hlocate
        split at hlocate
        · cases hlocate
        · cases hlocate
          rw [hstart, ← List.dropLast_append_getLast? name hlast]
          exact walk_concat (h.walk_eq_ok hwalk) (h.step_eq_ok hstep) hplace

theorem fileAt?_of_locate {directory place : Place} {name : Bytes} {number : Nat} (h : Extends fs fs')
    (hlocate : fs.locate path = .ok (directory, name)) (hstep : fs.step directory name = .ok place)
    (hfile : endsAsDirectory path = false) (hplace : fs'.node? place = some (.file number)) :
    fs'.fileAt? path = some number := by
  rw [fileAt?, resolve_of_locate h hlocate hstep hfile (hplace ▸ rfl)]
  dsimp only
  rw [hplace]

/-- A stream that was opened at a path writes to the file that the path leads to. -/
theorem fileAt?_of_openFile {number : Nat} (h : fs.openFile path = (fs', some (.file number))) :
    fs'.fileAt? path = some number := by
  unfold openFile at h
  split at h
  · cases h
  · next directory name hlocate =>
    split at h
    · cases h
    · next place hstep =>
      cases hends : endsAsDirectory path with
      | true =>
        rw [hends] at h
        split at h <;> cases h
      | false =>
        rw [hends] at h
        split at h
        · cases h
        · next hnode =>
          cases h
          exact fileAt?_of_locate (.refl _) hlocate hstep hends hnode
        · cases h
        · next hnode =>
          cases h
          refine fileAt?_of_locate (.created hnode _ _) hlocate hstep hends ?_
          exact (node?_setNode (ne_nil_of_node?_eq_none hnode) place).trans (if_pos rfl)

/-- To look for the last name of a path and not to open it changes nothing. -/
theorem openFile_of_none_opened (h : (fs.openFile path).2 = none) : (fs.openFile path).1 = fs := by
  unfold openFile at h ⊢
  repeat' (first | rfl | split at h)
  all_goals simp_all

theorem walk_setBytes {number : Nat} {bytes : Bytes} (names : List Bytes) (place : Place) :
    (fs.setBytes number bytes).walk place names = fs.walk place names := by
  induction names generalizing place with
  | nil => rfl
  | cons name rest ih =>
    unfold walk
    simp only [ih]
    rfl

/-- Whatever the bytes of a file, paths lead where they led. -/
theorem fileAt?_setBytes (number : Nat) (bytes : Bytes) :
    (fs.setBytes number bytes).fileAt? path = fs.fileAt? path := by
  have hresolve : (fs.setBytes number bytes).resolve path = fs.resolve path := by
    unfold resolve
    simp only [walk_setBytes]
    rfl
  unfold fileAt?
  rw [hresolve]
  rfl

/-! ## What a path operation leaves alone -/

theorem contents_openFile : (fs.openFile path).1.contents = fs.contents := by
  unfold openFile
  repeat' split
  all_goals rfl

theorem contents_rename : (fs.rename source target).1.contents = fs.contents := by
  unfold rename
  dsimp only
  split
  · next hmoved =>
    simp only [bind, Except.bind, pure, Except.pure] at hmoved
    repeat' split at hmoved
    all_goals cases hmoved
    all_goals rfl
  · rfl

theorem contents_createDirectory : (fs.createDirectory path).1.contents = fs.contents := by
  unfold createDirectory
  repeat' split
  all_goals rfl

theorem contents_createEach {paths : List Bytes} : (fs.createEach paths).1.contents = fs.contents := by
  induction paths generalizing fs with
  | nil => rfl
  | cons path rest ih =>
    have hfirst : (fs.createDirectory path).1.contents = fs.contents := contents_createDirectory
    unfold createEach
    split
    · next hcreate =>
      rw [ih, ← hfirst, hcreate]
    · next hcreate =>
      rw [← hfirst, hcreate]

theorem contents_createDirectories : (fs.createDirectories path).1.contents = fs.contents := by
  unfold createDirectories
  dsimp only
  repeat' split
  all_goals first | rfl | exact contents_createEach

end FileSystem

end Fingerprint
