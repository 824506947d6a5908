import Fingerprint.Proofs.Chain
import Fingerprint.Proofs.FileSystem
import Fingerprint.Proofs.Shelf

/-!
# A log on a volume

A volume serves a log whose path is a plain name in the working directory. Its
files are told apart by their numbers, which a rename does not change, and the
stream of the log goes by the number of its file.

* `Volume.shelf`: what the files of the log hold;
* `Volume.Sound`: what has to be so for the log to be served, which its
  operations keep;
* `Volume.serves`: the volume serves the log.
-/

namespace Fingerprint

/-! ## The files of a log -/

namespace AuditLog

variable {name : Bytes}

theorem slot_injective : Function.Injective (slot name) := by
  have hbackup (n : Nat) : slot name (n + 1) ≠ name := fun h => by
    have hlength := congrArg List.length h
    have hdot : (Bytes.ofString ".").length = 1 := rfl
    rw [slot, backupPath, List.length_append, List.length_append, hdot] at hlength
    omega
  intro m n h
  cases m with
  | zero =>
    cases n with
    | zero => rfl
    | succ n => exact absurd h.symm (hbackup n)
  | succ m =>
    cases n with
    | zero => exact absurd h (hbackup m)
    | succ n => exact Bytes.ofNat_injective (List.append_cancel_left h)

theorem plainName_slot (hname : FileSystem.PlainName name) (hroom : name.length + 2 ≤ FileSystem.maxName)
    {n : Nat} (hn : n ≤ backups) : FileSystem.PlainName (slot name n) := by
  by_cases hzero : n = 0
  · rw [hzero]
    exact hname
  -- A backup has a dot and one digit more.
  have hslot : ∃ digit, (digit = 49 ∨ digit = 50 ∨ digit = 51) ∧ slot name n = name ++ [46, digit] := by
    have hcases : n = 1 ∨ n = 2 ∨ n = 3 := by
      simp only [backups] at hn
      omega
    rcases hcases with rfl | rfl | rfl
    · exact ⟨49, .inl rfl, List.append_assoc _ _ _⟩
    · exact ⟨50, .inr (.inl rfl), List.append_assoc _ _ _⟩
    · exact ⟨51, .inr (.inr rfl), List.append_assoc _ _ _⟩
  obtain ⟨digit, hdigit, hslot⟩ := hslot
  have hlong : 2 < (name ++ [46, digit]).length := by
    have hpos := List.length_pos_iff.2 hname.nonempty
    rw [List.length_append, List.length_cons, List.length_singleton]
    omega
  rw [hslot]
  refine ⟨by simp, ?_, ?_, ⟨fun h => ?_, fun h => ?_⟩, by simpa using hroom⟩
  · have hslash := hname.slashless
    rcases hdigit with rfl | rfl | rfl <;> simpa [Path.slash] using hslash
  · have hwhole := hname.whole
    rcases hdigit with rfl | rfl | rfl <;> simpa using hwhole
  · rw [h] at hlong
    exact absurd hlong (by decide)
  · rw [h] at hlong
    exact absurd hlong (by decide)

end AuditLog

namespace Volume

open FileSystem AuditLog

/-- What the files of a log hold whose path is a name in the working directory. -/
def shelf (name : Bytes) (volume : Volume) : Shelf := fun n =>
  match volume.files.named? (slot name n) with
  | some (.file number) => some (volume.files.bytes number)
  | _ => none

/-- The names of the log are names of different files or of nothing, and the stream writes to the
    log. -/
structure Sound (name : Bytes) (volume : Volume) (stream : Option FileSystem.Stream) : Prop where
  directory : volume.files.node? volume.files.workingDirectory = some .directory
  file {n : Nat} {node : Node} : volume.files.named? (slot name n) = some node →
    ∃ number < volume.files.nextNumber, node = .file number
  apart {m n number : Nat} : volume.files.named? (slot name m) = some (.file number) →
    volume.files.named? (slot name n) = some (.file number) → m = n
  blank {number : Nat} : volume.files.nextNumber ≤ number → volume.files.bytes number = []
  opened {writer : FileSystem.Stream} : stream = some writer →
    ∃ number, writer = .file number ∧ volume.files.named? name = some (.file number)

variable {name : Bytes} {volume : Volume} {stream : Option FileSystem.Stream}

theorem run_act {α : Type} (operation : FileSystem → FileSystem × α) (volume : Volume) :
    (act operation).run volume =
      ((operation volume.files).2, { volume with files := (operation volume.files).1 }) := rfl

/-- What a log finds in a file system is all that matters to it. -/
theorem Sound.status_eq (h : Sound name volume stream) (hname : PlainName name)
    (hroom : name.length + 2 ≤ maxName) {n : Nat} (hn : n ≤ backups) :
    volume.files.status (slot name n) = .ok (Shelf.status (volume.shelf name n)) := by
  rw [(plainName_slot hname hroom hn).status_eq h.directory, shelf]
  cases hentry : volume.files.named? (slot name n) with
  | none => rfl
  | some node =>
    obtain ⟨number, -, rfl⟩ := h.file hentry
    rfl

/-! ## Renaming -/

theorem named?_slot_renamed {fs' : FileSystem} {n : Nat}
    (h : Renamed volume.files (slot name n) (slot name (n + 1)) fs') (k : Nat) :
    fs'.named? (slot name k) =
      if k = n then none
      else if k = n + 1 then volume.files.named? (slot name n)
      else volume.files.named? (slot name k) := by
  simp only [h.entry, slot_injective.eq_iff]

theorem bytes_renamed {fs fs' : FileSystem} {source target : Bytes} (h : Renamed fs source target fs')
    (number : Nat) : fs'.bytes number = fs.bytes number := by
  rw [FileSystem.bytes, h.contents, FileSystem.bytes]

theorem shelf_renamed {fs' : FileSystem} {n : Nat}
    (h : Renamed volume.files (slot name n) (slot name (n + 1)) fs') :
    shelf name { volume with files := fs' } = (volume.shelf name).move n (n + 1) := by
  funext k
  simp only [shelf, named?_slot_renamed h, bytes_renamed h, Shelf.move]
  by_cases hsource : k = n
  · simp only [if_pos hsource]
  · by_cases htarget : k = n + 1
    · simp only [if_neg hsource, if_pos htarget]
    · simp only [if_neg hsource, if_neg htarget]

theorem Sound.renamed (hs : Sound name volume none) {fs' : FileSystem} {n : Nat}
    (h : Renamed volume.files (slot name n) (slot name (n + 1)) fs') :
    Sound name { volume with files := fs' } none := by
  -- What has a name now had a name before, which tells the two apart.
  have hfrom : ∀ k node, fs'.named? (slot name k) = some node →
      k ≠ n ∧ volume.files.named? (slot name (if k = n + 1 then n else k)) = some node := by
    intro k node hk
    rw [named?_slot_renamed h] at hk
    split at hk
    · cases hk
    · next hne =>
      refine ⟨hne, ?_⟩
      split at hk
      · next heq => rwa [if_pos heq]
      · next heq => rwa [if_neg heq]
  refine ⟨h.directory.trans hs.directory, fun {k node} hk => ?_, fun {j k number} hj hk => ?_,
    fun {number} hnumber => ?_, nofun⟩
  · obtain ⟨number, hlt, hnode⟩ := hs.file (hfrom k node hk).2
    exact ⟨number, h.nextNumber ▸ hlt, hnode⟩
  · obtain ⟨hj, hfromj⟩ := hfrom j _ hj
    obtain ⟨hk, hfromk⟩ := hfrom k _ hk
    have heq := hs.apart hfromj hfromk
    split at heq <;> split at heq <;> omega
  · exact (bytes_renamed h number).trans (hs.blank (h.nextNumber ▸ hnumber))

theorem Sound.after_rename (hs : Sound name volume none) (hname : PlainName name)
    (hroom : name.length + 2 ≤ maxName) {n : Nat} (hn : n < backups) :
    After (Volume.disk.rename (slot name n) (slot name (n + 1))) volume fun refused volume' =>
      Sound name volume' none ∧
        (refused = none → (shelf name volume n).isSome ∧
          shelf name volume' = (volume.shelf name).move n (n + 1)) ∧
        (refused ≠ none → shelf name volume' = shelf name volume) := by
  have hsource := plainName_slot hname hroom (Nat.le_of_lt hn)
  have htarget := plainName_slot hname hroom hn
  have hne : slot name n ≠ slot name (n + 1) := fun h => Nat.succ_ne_self n (slot_injective h).symm
  rw [After, disk, run_act]
  cases hentry : volume.files.named? (slot name n) with
  | none =>
    rw [rename_of_none hs.directory hsource htarget hentry]
    exact ⟨hs, nofun, fun _ => rfl⟩
  | some node =>
    obtain ⟨number, -, rfl⟩ := hs.file hentry
    obtain ⟨fs', hrename, hrenamed⟩ := rename_of_file hs.directory hsource htarget hne hentry
      fun node hnode => (hs.file hnode).imp fun _ h => h.2
    rw [hrename]
    refine ⟨hs.renamed hrenamed, fun _ => ⟨?_, shelf_renamed hrenamed⟩, fun h => absurd rfl h⟩
    simp only [shelf, hentry]
    rfl

/-! ## Opening and writing -/

theorem named?_slot_withFile (fs : FileSystem) (name : Bytes) (k : Nat) :
    (fs.withFile name).named? (slot name k) =
      if k = 0 then some (.file fs.nextNumber) else fs.named? (slot name k) := by
  have hplace : fs.workingDirectory ++ [slot name k] = fs.workingDirectory ++ [name] ↔ k = 0 := by
    have hslot : slot name k = name ↔ k = 0 := slot_injective.eq_iff (b := 0)
    simpa using hslot
  have hentry := fs.node?_withFile name (fs.workingDirectory ++ [slot name k])
  simp only [hplace] at hentry
  exact hentry

theorem Sound.withFile (hs : Sound name volume none) :
    Sound name { volume with files := volume.files.withFile name }
      (some (.file volume.files.nextNumber)) := by
  refine ⟨?_, fun {k node} hk => ?_, fun {j k number} hj hk => ?_,
    fun {number} hnumber => hs.blank (Nat.le_of_succ_le hnumber), fun {writer} hwriter => ?_⟩
  · refine (node?_withFile _ name volume.files.workingDirectory).trans ?_
    rw [if_neg (by simp), hs.directory]
  · rw [named?_slot_withFile] at hk
    split at hk
    · exact ⟨_, Nat.lt_succ_self _, (Option.some.inj hk).symm⟩
    · obtain ⟨number, hlt, hnode⟩ := hs.file hk
      exact ⟨number, Nat.lt_succ_of_lt hlt, hnode⟩
  · -- The number of the new file is no other's.
    have hfresh : ∀ k, volume.files.named? (slot name k) ≠ some (.file volume.files.nextNumber) :=
      fun k hk => by
        obtain ⟨number, hlt, hnode⟩ := hs.file hk
        cases hnode
        exact Nat.lt_irrefl _ hlt
    rw [named?_slot_withFile] at hj hk
    split at hj <;> split at hk
    · omega
    · cases hj
      exact absurd hk (hfresh k)
    · cases hk
      exact absurd hj (hfresh j)
    · exact hs.apart hj hk
  · cases hwriter
    exact ⟨_, rfl, (named?_slot_withFile _ name 0).trans (if_pos rfl)⟩

theorem Sound.shelf_withFile (hs : Sound name volume none) :
    shelf name { volume with files := volume.files.withFile name } = (volume.shelf name).put 0 [] := by
  funext k
  simp only [shelf, named?_slot_withFile, Shelf.put]
  by_cases hk : k = 0
  · simp only [if_pos hk]
    exact congrArg some (hs.blank (Nat.le_refl _))
  · simp only [if_neg hk]
    rfl

theorem Sound.after_openAppend (hs : Sound name volume none) (hname : PlainName name) :
    After (Volume.disk.openAppend name) volume fun stream volume' =>
      Sound name volume' stream ∧ shelf name volume' =
        if stream.isSome then (volume.shelf name).put 0 ((volume.shelf name 0).getD [])
        else volume.shelf name := by
  rw [After, disk, run_act]
  cases hentry : volume.files.named? name with
  | none =>
    rw [openFile_of_none hs.directory hname hentry]
    have hlog : volume.shelf name 0 = none := by simp only [shelf, slot, hentry]
    refine ⟨hs.withFile, ?_⟩
    rw [hlog]
    exact hs.shelf_withFile
  | some node =>
    obtain ⟨number, -, rfl⟩ := hs.file (n := 0) hentry
    rw [openFile_of_file hs.directory hname hentry]
    have hlog : volume.shelf name 0 = some (volume.files.bytes number) := by
      simp only [shelf, slot, hentry]
    refine ⟨⟨hs.directory, hs.file, hs.apart, hs.blank, ?_⟩, ?_⟩
    · rintro _ ⟨⟩
      exact ⟨number, rfl, hentry⟩
    · rw [hlog, Option.getD_some, Shelf.put_eq_self hlog]
      exact (ite_self _).symm

theorem Sound.after_append {opened : FileSystem.Stream} (hs : Sound name volume (some opened)) (line : Bytes) :
    After (Volume.disk.append opened line) volume fun done volume' => done = true →
      Sound name volume' (some opened) ∧
        shelf name volume' = (volume.shelf name).put 0 ((volume.shelf name 0).getD [] ++ line) := by
  obtain ⟨number, rfl, hentry⟩ := hs.opened rfl
  obtain ⟨_, hlt, ⟨⟩⟩ := hs.file (n := 0) hentry
  rw [After, disk, run_act]
  refine fun _ => ⟨⟨hs.directory, hs.file, hs.apart, fun {other} hother => ?_, hs.opened⟩, ?_⟩
  · have hne : other ≠ number := fun heq => Nat.not_lt.2 hother (heq ▸ hlt)
    exact (bytes_setBytes _ _ other).trans ((if_neg hne).trans (hs.blank hother))
  · funext k
    have hentries : (volume.files.setBytes number (volume.files.bytes number ++ line)).named? (slot name k) =
        volume.files.named? (slot name k) := rfl
    have hlog : volume.files.named? (slot name 0) = some (.file number) := hentry
    simp only [shelf, FileSystem.append, hentries, bytes_setBytes, Shelf.put, hlog, Option.getD_some]
    by_cases hk : k = 0
    · simp only [hk, hlog, if_pos]
    · rw [if_neg hk]
      cases hother : volume.files.named? (slot name k) with
      | none => rfl
      | some node =>
        obtain ⟨other, -, rfl⟩ := hs.file hother
        have hne : other ≠ number := fun heq => hk (hs.apart (heq ▸ hother) hlog)
        simp only [if_neg hne]

theorem serves (hname : PlainName name) (hroom : name.length + 2 ≤ maxName) :
    Volume.disk.Serves name (shelf name) (Sound name) where
  closed h := ⟨h.directory, h.file, h.apart, h.blank, nofun⟩
  status hn h := ⟨h, rfl, fun found hfound =>
    (Except.ok.inj ((h.status_eq hname hroom hn).symm.trans hfound)).symm⟩
  parent h := ⟨h, rfl⟩
  createDirectories h := by
    rw [hname.parent_eq]
    exact ⟨h, rfl⟩
  rename hn h := h.after_rename hname hroom hn
  openAppend h := h.after_openAppend hname
  append h := h.after_append _
  complain h := ⟨⟨h.directory, h.file, h.apart, h.blank, h.opened⟩, rfl⟩

/-- A volume that was just made has no files. -/
theorem named?_fresh (name : Bytes) : FileSystem.fresh.named? name = none := by
  -- All that is there is the working directory, and what is below another.
  have helsewhere : ∀ entry ∈ FileSystem.fresh.nodes,
      entry.1.length < 2 ∨ entry.1.head? ≠ some (Bytes.ofString "work") := by decide
  rw [named?, node?_eq_lookup (by simp), List.lookup_eq_none_iff]
  refine fun entry hentry => bne_iff_ne.2 fun hplace => ?_
  rcases helsewhere entry hentry with hshort | hhead
  · rw [← hplace] at hshort
    exact absurd hshort (by simp [FileSystem.fresh])
  · exact hhead (hplace ▸ rfl)

theorem sound_fresh (name : Bytes) : Sound name { files := .fresh } none where
  directory := by decide
  file h := by simp [named?_fresh] at h
  apart h := by simp [named?_fresh] at h
  blank _ := rfl
  opened := nofun

theorem shelf_fresh (name : Bytes) (n : Nat) : shelf name { files := .fresh } n = none := by
  simp only [shelf, named?_fresh]

end Volume

end Fingerprint
