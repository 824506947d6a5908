import Mathlib.Logic.Function.Basic
import Fingerprint.Proofs.Volume

/-!
# Rotations of the audit log

What a log has in its directory is told file by file. A rotation gives each of
its files the next number, the last but one first: the oldest backup is
overwritten, and the path of the log itself is free. So the files hold what was
written in the order of their numbers, and what a rotation drops is the oldest
of it.

A file that is not there is no exception. The files have no gaps: behind one
that is not there come none that are, and to move none is to move nothing.

* `AuditLog.rotated`: the files after a rotation, and `rotated_backup`;
* `AuditLog.Entered`: what a call of the log may make of the files;
* `AuditLog.Retained`: the lines that files hold, and that a call keeps it so.
-/

namespace Fingerprint

/-- What the files of a directory hold, by their paths. -/
abbrev Directory := Bytes → Option Bytes

namespace Directory

/-- Puts a text at the end of the file at a path, which is made if it is not there. -/
def extend (directory : Directory) (path text : Bytes) : Directory :=
  Function.update directory path (some ((directory path).getD [] ++ text))

/-- The file at one path gets another, in the stead of what had that. -/
def move (directory : Directory) (source target : Bytes) : Directory :=
  Function.update (Function.update directory target (directory source)) source none

variable {directory : Directory} {path p text text' : Bytes}

@[simp] theorem extend_self :
    directory.extend path text path = some ((directory path).getD [] ++ text) :=
  Function.update_self ..

theorem extend_of_ne (h : p ≠ path) : directory.extend path text p = directory p :=
  Function.update_of_ne h ..

@[simp] theorem extend_extend :
    (directory.extend path text).extend path text' = directory.extend path (text ++ text') := by
  funext p
  by_cases hp : p = path
  · subst hp
    rw [extend_self, extend_self, extend_self, Option.getD_some, List.append_assoc]
  · rw [extend_of_ne hp, extend_of_ne hp, extend_of_ne hp]

end Directory

namespace AuditLog

/-! ## Moving files -/

/-- The file with a number gets the next one, if it is there. -/
def shift (path : Bytes) (n : Nat) (directory : Directory) : Directory :=
  if (directory (slot path n)).isSome then directory.move (slot path n) (slot path (n + 1)) else directory

/-- The backups with numbers up to `n` get the next one, the last first. -/
def shifted (path : Bytes) : (n : Nat) → Directory → Directory
  | 0, directory => directory
  | n + 1, directory => shifted path n (shift path (n + 1) directory)

/-- What a rotation makes of the files: the log itself is moved when all backups are. -/
def rotated (path : Bytes) (directory : Directory) : Directory :=
  shift path 0 (shifted path (backups - 1) directory)

variable {path p : Bytes} {n : Nat} {directory directory' : Directory}

theorem slot_succ_ne : slot path (n + 1) ≠ path := fun h =>
  Nat.succ_ne_zero n (slot_injective (show slot path (n + 1) = slot path 0 from h))

theorem shift_of_ne (hsource : p ≠ slot path n) (htarget : p ≠ slot path (n + 1)) :
    shift path n directory p = directory p := by
  unfold shift
  split
  · rw [Directory.move, Function.update_of_ne hsource, Function.update_of_ne htarget]
  · rfl

theorem shift_source : shift path n directory (slot path n) = none := by
  unfold shift
  split
  · exact Function.update_self ..
  · next habsent => exact Option.not_isSome_iff_eq_none.1 habsent

/-- Where there is no gap, the next path holds what the file held, even if that is nothing. -/
theorem shift_target (hgap : directory (slot path n) = none → directory (slot path (n + 1)) = none) :
    shift path n directory (slot path (n + 1)) = directory (slot path n) := by
  have hne : slot path (n + 1) ≠ slot path n := fun h => Nat.succ_ne_self n (slot_injective h)
  unfold shift
  split
  · rw [Directory.move, Function.update_of_ne hne, Function.update_self]
  · next habsent =>
    have hnone := Option.not_isSome_iff_eq_none.1 habsent
    rw [hgap hnone, hnone]

/-- Moving the files with numbers up to `n`, the last first, leaves each what the one before held.
    By induction on `n`: the last file is out of the way of the others, and they leave it alone. -/
theorem shift_shifted_backup
    (hgap : ∀ k ≤ n, directory (slot path k) = none → directory (slot path (k + 1)) = none) (k : Nat) :
    shift path 0 (shifted path n directory) (slot path (k + 1)) =
      if k ≤ n then directory (slot path k) else directory (slot path (k + 1)) := by
  have hslot {i j : Nat} (h : i ≠ j) : slot path i ≠ slot path j := fun heq => h (slot_injective heq)
  induction n generalizing directory k with
  | zero =>
    rw [shifted]
    by_cases hk : k = 0
    · subst hk
      rw [if_pos (Nat.le_refl 0), shift_target (hgap 0 (Nat.le_refl 0))]
    · rw [if_neg (by omega), shift_of_ne (hslot (by omega)) (hslot (by omega))]
  | succ n ih =>
    have hlow : ∀ i ≤ n, shift path (n + 1) directory (slot path i) = directory (slot path i) :=
      fun i hi => shift_of_ne (hslot (by omega)) (hslot (by omega))
    rw [shifted, ih]
    · by_cases hk : k ≤ n
      · rw [if_pos hk, if_pos (by omega), hlow k hk]
      · rw [if_neg hk]
        by_cases hlast : k = n + 1
        · subst hlast
          rw [if_pos (Nat.le_refl _), shift_target (hgap _ (Nat.le_refl _))]
        · rw [if_neg (by omega), shift_of_ne (hslot (by omega)) (hslot (by omega))]
    · intro i hi hnone
      rw [hlow i hi] at hnone
      by_cases hlast : i = n
      · rw [hlast, shift_source]
      · rw [hlow (i + 1) (by omega)]
        exact hgap i (by omega) hnone

theorem shifted_of_ne (h : ∀ k ≤ n + 1, p ≠ slot path k) : shifted path n directory p = directory p := by
  induction n generalizing directory with
  | zero => rfl
  | succ n ih =>
    rw [shifted, ih fun k hk => h k (by omega), shift_of_ne (h _ (by omega)) (h _ (by omega))]

@[simp] theorem rotated_log : rotated path directory path = none := shift_source (n := 0)

theorem rotated_backup
    (hgap : ∀ k < backups, directory (slot path k) = none → directory (slot path (k + 1)) = none)
    (hn : n < backups) : rotated path directory (slot path (n + 1)) = directory (slot path n) := by
  have hlast : n ≤ backups - 1 := Nat.le_sub_one_of_lt hn
  have hmoved := shift_shifted_backup (n := backups - 1) (fun k hk => hgap k (Nat.lt_succ_of_le hk)) n
  rwa [if_pos hlast] at hmoved

theorem rotated_of_ne (h : ∀ k ≤ backups, p ≠ slot path k) : rotated path directory p = directory p :=
  (shift_of_ne (h 0 (by decide)) (h 1 (by decide))).trans (shifted_of_ne h)

/-! ## Calls -/

/-- What a call makes of the files, with the lines that it writes: there is a rotation only if the
    line does not fit. -/
inductive Entered (path : Bytes) (maxBytes : Nat) (directory : Directory) : List Bytes → Directory → Prop
  | silent : Entered path maxBytes directory [] directory
  | fitted {line : Bytes} (hfits : ((directory path).getD []).length + (line.length + 1) ≤ maxBytes) :
      Entered path maxBytes directory [line] (directory.extend path (line ++ [0x0a]))
  | rotated {line : Bytes} (hfull : maxBytes < ((directory path).getD []).length + (line.length + 1)) :
      Entered path maxBytes directory [line] ((rotated path directory).extend path (line ++ [0x0a]))

/-! ## Lines that are retained -/

/-- The lines of the files with numbers up to `n`, oldest first. -/
def stored (segment : Nat → List Bytes) : (n : Nat) → List Bytes
  | 0 => segment 0
  | n + 1 => segment (n + 1) ++ stored segment n

/-- What is read in the files with numbers up to `n`, one after the other, the last first. -/
def reading (path : Bytes) (directory : Directory) : (n : Nat) → Bytes
  | 0 => (directory path).getD []
  | n + 1 => (directory (slot path (n + 1))).getD [] ++ reading path directory n

/-- A log and three backups hold the last of the lines that were written: those in `dropped` are
    gone, and the file with number `n` holds those in `segment n`. -/
structure Retained (path : Bytes) (maxBytes : Nat) (lines : List Bytes) (directory : Directory)
    (dropped : List Bytes) (segment : Nat → List Bytes) : Prop where
  /-- No line is lost but the oldest, and none is there twice. -/
  lines_eq : lines = dropped ++ stored segment 3
  /-- A file that is there holds whole lines and nothing else. -/
  file {n : Nat} : n ≤ 3 →
    directory (slot path n) = if segment n = [] then none else some (text (segment n))
  /-- There is no other file. -/
  only {p bytes : Bytes} : directory p = some bytes → ∃ n ≤ 3, p = slot path n
  bounded {n : Nat} : n ≤ 3 → (text (segment n)).length ≤ maxBytes ∨ (segment n).length = 1
  /-- The last line is in the log itself. -/
  newest : (segment 0).getLast? = lines.getLast?
  gapless {n : Nat} : segment n = [] → segment (n + 1) = []

example : (List.range 4).map (slot "log") = ["log", "log.1", "log.2", "log.3"].map Bytes.ofString := by
  decide +kernel

namespace Retained

variable {maxBytes : Nat} {lines more dropped : List Bytes} {segment : Nat → List Bytes}

theorem empty (h : ∀ p, directory p = none) : Retained path maxBytes [] directory [] fun _ => [] where
  lines_eq := rfl
  file _ := h _
  only hp := by
    rw [h] at hp
    cases hp
  bounded _ := .inl (Nat.zero_le _)
  newest := rfl
  gapless _ := rfl

theorem getD_file (h : Retained path maxBytes lines directory dropped segment) (hn : n ≤ 3) :
    (directory (slot path n)).getD [] = text (segment n) := by
  rw [h.file hn]
  split
  · next hnil =>
    rw [hnil]
    rfl
  · rfl

theorem reading_eq (h : Retained path maxBytes lines directory dropped segment) (hn : n ≤ 3) :
    reading path directory n = text (stored segment n) := by
  induction n with
  | zero => exact h.getD_file hn
  | succ n ih => rw [reading, stored, text_append, h.getD_file hn, ih (Nat.le_of_succ_le hn)]

theorem no_gap (h : Retained path maxBytes lines directory dropped segment) {k : Nat} (hk : k < backups)
    (hnone : directory (slot path k) = none) : directory (slot path (k + 1)) = none := by
  have hnil : segment k = [] := by
    rw [h.file (Nat.le_of_lt hk)] at hnone
    by_contra hsome
    rw [if_neg hsome] at hnone
    cases hnone
  rw [h.file hk, if_pos (h.gapless hnil)]

/-- The segments with a line more in the log itself. -/
def lengthened (segment : Nat → List Bytes) (line : Bytes) : Nat → List Bytes
  | 0 => segment 0 ++ [line]
  | n + 1 => segment (n + 1)

/-- The segments after a rotation, with a line in the log itself. -/
def renumbered (segment : Nat → List Bytes) (line : Bytes) : Nat → List Bytes
  | 0 => [line]
  | n + 1 => segment n

theorem stored_lengthened (line : Bytes) (n : Nat) :
    stored (lengthened segment line) n = stored segment n ++ [line] := by
  induction n with
  | zero => rfl
  | succ n ih => rw [stored, ih, stored, lengthened, List.append_assoc]

theorem stored_renumbered (line : Bytes) (n : Nat) :
    stored (renumbered segment line) (n + 1) = stored segment n ++ [line] := by
  induction n with
  | zero => rfl
  | succ n ih => rw [stored, ih, renumbered, stored, List.append_assoc]

theorem text_singleton (line : Bytes) : text [line] = line ++ [0x0a] := List.append_nil _

theorem fitted (h : Retained path maxBytes lines directory dropped segment) {line : Bytes}
    (hfits : ((directory path).getD []).length + (line.length + 1) ≤ maxBytes) :
    Retained path maxBytes (lines ++ [line]) (directory.extend path (line ++ [0x0a])) dropped
      (lengthened segment line) where
  lines_eq := by rw [stored_lengthened, h.lines_eq, List.append_assoc]
  file {n} hn := by
    cases n with
    | zero =>
      have hlog : (directory path).getD [] = text (segment 0) := h.getD_file hn
      rw [slot, Directory.extend_self, hlog, lengthened, if_neg (by simp), text_append, text_singleton]
    | succ n =>
      rw [Directory.extend_of_ne slot_succ_ne]
      exact h.file hn
  only {p bytes} hp := by
    by_cases hlog : p = path
    · exact ⟨0, Nat.zero_le _, hlog⟩
    · rw [Directory.extend_of_ne hlog] at hp
      exact h.only hp
  bounded {n} hn := by
    cases n with
    | zero =>
      have hlog : (directory path).getD [] = text (segment 0) := h.getD_file hn
      left
      rw [lengthened, text_append, List.length_append, ← hlog, text_singleton, List.length_append]
      exact hfits
    | succ n => exact h.bounded hn
  newest := by rw [lengthened, List.getLast?_concat, List.getLast?_concat]
  gapless {n} hnil := by
    cases n with
    | zero => exact absurd hnil (by simp [lengthened])
    | succ n => exact h.gapless hnil

theorem rotated (h : Retained path maxBytes lines directory dropped segment) (line : Bytes) :
    Retained path maxBytes (lines ++ [line]) ((rotated path directory).extend path (line ++ [0x0a]))
      (dropped ++ segment 3) (renumbered segment line) where
  lines_eq := by
    rw [stored_renumbered, h.lines_eq, stored, List.append_assoc, List.append_assoc, List.append_assoc]
  file {n} hn := by
    cases n with
    | zero =>
      rw [slot, Directory.extend_self, rotated_log, renumbered, if_neg (by simp), text_singleton]
      rfl
    | succ n =>
      rw [Directory.extend_of_ne slot_succ_ne, rotated_backup (fun k hk => h.no_gap hk) hn]
      exact h.file (Nat.le_of_succ_le hn)
  only {p bytes} hp := by
    by_contra hother
    have hne : ∀ k ≤ 3, p ≠ slot path k := fun k hk heq => hother ⟨k, hk, heq⟩
    have hlog : p ≠ path := hne 0 (Nat.zero_le _)
    rw [Directory.extend_of_ne hlog, rotated_of_ne hne] at hp
    exact hother (h.only hp)
  bounded {n} hn := by
    cases n with
    | zero => exact .inr rfl
    | succ n => exact h.bounded (Nat.le_of_succ_le hn)
  newest := List.getLast?_concat.symm
  gapless {n} hnil := by
    cases n with
    | zero => cases hnil
    | succ n => exact h.gapless hnil

/-- A call keeps it so that the files hold the last of the lines. -/
theorem entered (h : Retained path maxBytes lines directory dropped segment)
    (hentered : Entered path maxBytes directory more directory') :
    ∃ dropped segment, Retained path maxBytes (lines ++ more) directory' dropped segment := by
  cases hentered with
  | silent =>
    rw [List.append_nil]
    exact ⟨_, _, h⟩
  | fitted hfits => exact ⟨_, _, h.fitted hfits⟩
  | rotated => exact ⟨_, _, h.rotated _⟩

end Retained

end AuditLog

end Fingerprint
