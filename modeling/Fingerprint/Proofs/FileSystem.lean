import Mathlib.Data.List.TakeWhile
import Fingerprint.FileSystem
import Fingerprint.Proofs.Table

/-!
# Files in the working directory

What the operations of a file system do with plain names can be told by what
has these names in the working directory: nothing, or a file with a number.
A rename gives a file another name, in the stead of what had that; to open a
name that nothing has makes an empty file, whose number is new.

* `FileSystem.PlainName`: the names, which resolve to what has them;
* `FileSystem.named?`: what has a name in the working directory;
* `FileSystem.rename_of_none`, `rename_of_file`: renaming;
* `FileSystem.openFile_of_none`, `openFile_of_file`: opening.
-/

namespace Fingerprint

namespace FileSystem

/-- A name that a file in the working directory can have. -/
structure PlainName (name : Bytes) : Prop where
  nonempty : name ≠ []
  slashless : Path.slash ∉ name
  whole : 0 ∉ name
  named : name ≠ Bytes.ofString "." ∧ name ≠ Bytes.ofString ".."
  short : name.length ≤ maxName

/-- What has a name in the working directory. -/
def named? (fs : FileSystem) (name : Bytes) : Option Node := fs.node? (fs.workingDirectory ++ [name])

variable {fs fs' : FileSystem} {name source target : Bytes}

/-! ## Resolving plain names -/

namespace PlainName

theorem readPath_eq (h : PlainName name) : readPath name = .ok name := by
  have hlength : ¬maxPath ≤ name.length := fun hle => by
    have hshort := h.short
    simp only [maxName, maxPath] at hshort hle
    omega
  rw [readPath, Bytes.untilZero_eq_self h.whole, if_neg (by simpa using h.nonempty), if_neg hlength]

theorem names_eq (h : PlainName name) : Path.names name = [name] := by
  have hsplit : name.splitOnP (· == Path.slash) = [name] :=
    List.splitOnP_eq_singleton fun b hb => beq_false_of_ne fun heq => h.slashless (heq ▸ hb)
  rw [Path.names, hsplit]
  simp [h.nonempty]

theorem endsAsDirectory_eq (h : PlainName name) : endsAsDirectory name = false := by
  rw [endsAsDirectory, Bytes.untilZero_eq_self h.whole]
  refine beq_false_of_ne fun hlast => h.slashless (List.mem_of_getLast? hlast)

theorem isAbsolute_eq (h : PlainName name) : Path.isAbsolute name = false :=
  beq_false_of_ne fun hhead => h.slashless (List.mem_of_head? hhead)

theorem start_eq (h : PlainName name) : fs.start name = fs.workingDirectory := by
  rw [start, h.isAbsolute_eq, if_neg Bool.false_ne_true]

theorem parent_eq (h : PlainName name) : Path.parent name = [] := by
  have hother : ∀ b ∈ name, (b != Path.slash) = true := fun b hb =>
    bne_iff_ne.2 fun heq => h.slashless (heq ▸ hb)
  have hsome : ¬name.all (· == Path.slash) = true := fun hall => by
    obtain ⟨b, hb⟩ := List.exists_mem_of_ne_nil name h.nonempty
    exact h.slashless (beq_iff_eq.1 (List.all_eq_true.1 hall b hb) ▸ hb)
  have hnothing : Bytes.dropEndWhile (· != Path.slash) name = [] := by
    rw [Bytes.dropEndWhile, List.reverse_eq_nil_iff, List.dropWhile_eq_nil_iff]
    exact fun b hb => hother b (List.mem_reverse.1 hb)
  rw [Path.parent, if_neg hsome, hnothing, h.isAbsolute_eq]
  rfl

variable (hdir : fs.node? fs.workingDirectory = some .directory)

include hdir

theorem step_eq (h : PlainName name) :
    fs.step fs.workingDirectory name = .ok (fs.workingDirectory ++ [name]) := by
  rw [step, hdir, if_neg (by decide), if_neg h.named.1, if_neg h.named.2, if_neg (Nat.not_lt.2 h.short)]

theorem locate_eq (h : PlainName name) : fs.locate name = .ok (fs.workingDirectory, name) := by
  simp only [locate, h.readPath_eq, h.names_eq, h.start_eq, List.getLast?_singleton,
    List.dropLast_singleton, walk, bind, Except.bind, hdir]
  rfl

theorem resolve_eq (h : PlainName name) :
    fs.resolve name =
      if (fs.named? name).isNone then .error .noEntry else .ok (fs.workingDirectory ++ [name]) := by
  simp only [resolve, h.readPath_eq, h.names_eq, h.start_eq, h.endsAsDirectory_eq, walk,
    h.step_eq hdir, bind, Except.bind, Bool.false_eq_true, if_false]
  rfl

theorem status_eq (h : PlainName name) :
    fs.status name = .ok (match fs.named? name with
      | some .directory => .directory
      | some (.file number) => .regular (fs.bytes number).length
      | some (.device _) => .special
      | none => .absent) := by
  have hentry : fs.node? (fs.workingDirectory ++ [name]) = fs.named? name := rfl
  rw [status, h.resolve_eq hdir]
  cases hnode : fs.named? name with
  | none => rfl
  | some node =>
    simp only [Option.isNone_some, Bool.false_eq_true, if_false, hentry, hnode]
    cases node <;> rfl

end PlainName

/-! ## Moving nodes -/

theorem node?_eq_lookup {place : Place} (h : place ≠ []) : fs.node? place = fs.nodes.lookup place := by
  rw [node?, if_neg (by simpa using h)]

theorem node?_detach {place other : Place} (h : ¬place <+: other) :
    (fs.detach place).node? other = fs.node? other := by
  have hkeep : (!place.isPrefixOf other) = true := by
    rw [Bool.not_eq_true', Bool.eq_false_iff]
    exact fun hprefix => h (List.isPrefixOf_iff_prefix.1 hprefix)
  simp only [node?, detach]
  rw [lookup_filter fs.nodes (fun key => !place.isPrefixOf key), if_pos hkeep]

theorem node?_detach_self {place : Place} (h : place ≠ []) : (fs.detach place).node? place = none := by
  rw [node?_eq_lookup h, detach, lookup_filter fs.nodes (fun key => !place.isPrefixOf key), if_neg]
  simp

/-- The place of what was at a place, after everything at and below `old` moved to `new`. -/
def relocated (old new place : Place) : Place :=
  if old.isPrefixOf place then new ++ place.drop old.length else place

theorem relocate_nodes (old new : Place) :
    (fs.relocate old new).nodes = fs.nodes.map fun entry => (relocated old new entry.1, entry.2) := by
  refine List.map_congr_left fun entry _ => ?_
  unfold relocated
  split <;> rfl

variable {old new place : Place}

/-- Nothing is moved to a place that is no longer than `new`, but to `new` itself. -/
theorem relocated_eq_iff (hlength : place.length ≤ new.length) (hne : place ≠ new) {other : Place} :
    relocated old new other = place ↔ other = place ∧ ¬old <+: other := by
  unfold relocated
  split
  · next hprefix =>
    rw [List.isPrefixOf_iff_prefix] at hprefix
    refine ⟨fun h => absurd ?_ hne, fun h => absurd hprefix h.2⟩
    rw [← h, List.length_append] at hlength
    rw [← h, List.eq_nil_of_length_eq_zero (by omega : (other.drop old.length).length = 0),
      List.append_nil]
  · next hprefix =>
    rw [List.isPrefixOf_iff_prefix] at hprefix
    exact ⟨fun h => ⟨h, hprefix⟩, fun h => h.1⟩

theorem relocated_eq_new_iff {other : Place} (hother : other ≠ new) :
    relocated old new other = new ↔ other = old := by
  unfold relocated
  split
  · next hprefix =>
    obtain ⟨rest, rfl⟩ := List.isPrefixOf_iff_prefix.1 hprefix
    simp
  · next hprefix =>
    refine ⟨fun h => absurd h hother, fun h => absurd ?_ hprefix⟩
    subst h
    exact List.isPrefixOf_iff_prefix.2 (List.prefix_refl other)

/-- What is at a place no longer than `new`, after everything at and below `old` moved there. -/
theorem node?_relocate (hlength : new.length = old.length) (hne : old ≠ new) (hold : old ≠ [])
    (hplace : place.length ≤ new.length) (hvacant : fs.node? new = none) :
    (fs.relocate old new).node? place =
      if place = old then none else if place = new then fs.node? old else fs.node? place := by
  have hnew : new ≠ [] := fun h => hold (List.eq_nil_of_length_eq_zero (by rw [← hlength, h]; rfl))
  rw [node?_eq_lookup hnew, List.lookup_eq_none_iff] at hvacant
  split
  · next heq =>
    subst heq
    rw [node?_eq_lookup hold, relocate_nodes, List.lookup_eq_none_iff]
    intro entry hentry
    obtain ⟨before, -, rfl⟩ := List.mem_map.1 hentry
    refine bne_iff_ne.2 fun h => ?_
    obtain ⟨hsame, hprefix⟩ := (relocated_eq_iff hplace hne).1 h.symm
    exact hprefix (hsame ▸ List.prefix_refl _)
  · next hother =>
    split
    · next heq =>
      subst heq
      rw [node?_eq_lookup hnew, node?_eq_lookup hold, relocate_nodes]
      exact lookup_map_of_iff fun entry hentry =>
        relocated_eq_new_iff (Ne.symm (bne_iff_ne.1 (hvacant entry hentry)))
    · next hthird =>
      by_cases hroot : place = []
      · rw [hroot, node?, node?, List.isEmpty_nil, if_pos rfl, if_pos rfl]
      · rw [node?_eq_lookup hroot, node?_eq_lookup hroot, relocate_nodes]
        refine lookup_map_of_iff fun entry _ => (relocated_eq_iff hplace hthird).trans ?_
        refine and_iff_left_of_imp fun h hprefix => hother ?_
        exact (List.IsPrefix.eq_of_length_le (h ▸ hprefix) (hlength ▸ hplace)).symm

/-- The file with one name in the working directory got another, in the stead of what had that. -/
structure Renamed (fs : FileSystem) (source target : Bytes) (fs' : FileSystem) : Prop where
  contents : fs'.contents = fs.contents
  nextNumber : fs'.nextNumber = fs.nextNumber
  workingDirectory : fs'.workingDirectory = fs.workingDirectory
  directory : fs'.node? fs'.workingDirectory = fs.node? fs.workingDirectory
  entry (name : Bytes) : fs'.named? name =
    if name = source then none else if name = target then fs.named? source else fs.named? name

/-- To move a file of the working directory to a name in it that nothing has. -/
theorem renamed_relocate (hne : source ≠ target) (hvacant : fs.named? target = none) :
    Renamed fs source target
      (fs.relocate (fs.workingDirectory ++ [source]) (fs.workingDirectory ++ [target])) := by
  have hname (a b : Bytes) : fs.workingDirectory ++ [a] = fs.workingDirectory ++ [b] ↔ a = b := by simp
  have hplace (place : Place) (h : place.length ≤ fs.workingDirectory.length + 1) :
      (fs.relocate (fs.workingDirectory ++ [source]) (fs.workingDirectory ++ [target])).node? place =
        if place = fs.workingDirectory ++ [source] then none
        else if place = fs.workingDirectory ++ [target] then fs.named? source else fs.node? place :=
    node?_relocate (by simp) (fun h => hne ((hname _ _).1 h)) (by simp) (by simpa using h) hvacant
  refine ⟨rfl, rfl, rfl, ?_, fun name => ?_⟩
  · refine (hplace _ (Nat.le_succ _)).trans ?_
    rw [if_neg (by simp), if_neg (by simp)]
  · have hmoved := hplace (fs.workingDirectory ++ [name]) (by simp)
    simp only [hname] at hmoved
    exact hmoved

theorem renamed_detach_relocate (hne : source ≠ target) :
    Renamed fs source target ((fs.detach (fs.workingDirectory ++ [target])).relocate
      (fs.workingDirectory ++ [source]) (fs.workingDirectory ++ [target])) := by
  have hkept : ∀ name ≠ target, (fs.detach (fs.workingDirectory ++ [target])).named? name = fs.named? name :=
    fun name hname => node?_detach fun hprefix => by
      have heq := hprefix.eq_of_length (by simp [detach])
      simp [detach] at heq
      exact hname heq.symm
  have hvacant : (fs.detach (fs.workingDirectory ++ [target])).named? target = none :=
    node?_detach_self (by simp)
  have hmoved := renamed_relocate hne hvacant
  refine ⟨hmoved.contents, hmoved.nextNumber, hmoved.workingDirectory, ?_, fun name => ?_⟩
  · refine hmoved.directory.trans (node?_detach fun hprefix => ?_)
    have hle : (fs.workingDirectory ++ [target]).length ≤ fs.workingDirectory.length := hprefix.length_le
    rw [List.length_append, List.length_singleton] at hle
    omega
  · refine (hmoved.entry name).trans ?_
    rw [hkept source hne]
    split
    · rfl
    · split
      · rfl
      · next htarget => exact hkept name htarget

section Rename

variable (hdir : fs.node? fs.workingDirectory = some .directory) (hsource : PlainName source)
  (htarget : PlainName target)

include hdir hsource htarget

theorem rename_of_none (h : fs.named? source = none) :
    fs.rename source target = (fs, some .noEntry) := by
  have hold : fs.node? (fs.workingDirectory ++ [source]) = none := h
  simp only [rename, hsource.locate_eq hdir, htarget.locate_eq hdir, bind, Except.bind,
    hsource.named, htarget.named, hsource.step_eq hdir, hold]
  rfl

theorem rename_of_file (hne : source ≠ target) {number : Nat} (h : fs.named? source = some (.file number))
    (hover : ∀ node, fs.named? target = some node → ∃ n, node = .file n) :
    ∃ fs', fs.rename source target = (fs', none) ∧ Renamed fs source target fs' := by
  have hold : fs.node? (fs.workingDirectory ++ [source]) = some (.file number) := h
  have hapart : fs.workingDirectory ++ [source] ≠ fs.workingDirectory ++ [target] := by simpa using hne
  have hprefix : (fs.workingDirectory ++ [source]).isPrefixOf (fs.workingDirectory ++ [target]) = false := by
    rw [Bool.eq_false_iff]
    exact fun h => hapart ((List.isPrefixOf_iff_prefix.1 h).eq_of_length (by simp))
  simp only [rename, hsource.locate_eq hdir, htarget.locate_eq hdir, bind, Except.bind,
    hsource.named, htarget.named, hsource.step_eq hdir, htarget.step_eq hdir, hold,
    hsource.endsAsDirectory_eq, htarget.endsAsDirectory_eq, hapart, hprefix]
  cases hnew : fs.named? target with
  | none =>
    have hvacant : fs.node? (fs.workingDirectory ++ [target]) = none := hnew
    refine ⟨_, ?_, renamed_relocate hne hnew⟩
    rw [hvacant]
    rfl
  | some node =>
    obtain ⟨k, rfl⟩ := hover node hnew
    have hfile : fs.node? (fs.workingDirectory ++ [target]) = some (.file k) := hnew
    refine ⟨_, ?_, renamed_detach_relocate hne⟩
    rw [hfile]
    rfl

end Rename

/-! ## Opening and writing -/

theorem node?_setNode {node : Node} (h : place ≠ []) (other : Place) :
    (fs.setNode place node).node? other = if other = place then some node else fs.node? other := by
  by_cases hother : other = []
  · subst hother
    rw [if_neg (Ne.symm h), node?, node?, List.isEmpty_nil, if_pos rfl, if_pos rfl]
  · rw [node?_eq_lookup hother, node?_eq_lookup hother, setNode, List.lookup_append,
      lookup_filter fs.nodes (· != place)]
    by_cases heq : other = place
    · simp [heq]
    · simp [heq, List.lookup_cons, beq_false_of_ne heq]

theorem bytes_setBytes (number : Nat) (bytes : Bytes) (other : Nat) :
    (fs.setBytes number bytes).bytes other = if other = number then bytes else fs.bytes other := by
  rw [FileSystem.bytes, setBytes, List.lookup_cons, lookup_filter fs.contents (· != number)]
  by_cases heq : other = number
  · simp [heq]
  · simp [heq, beq_false_of_ne heq, FileSystem.bytes]

/-- A file system with an empty file more, which has a name in the working directory. -/
def withFile (fs : FileSystem) (name : Bytes) : FileSystem :=
  { (fs.setNode (fs.workingDirectory ++ [name]) (.file fs.nextNumber)) with
    nextNumber := fs.nextNumber + 1 }

theorem node?_withFile (fs : FileSystem) (name : Bytes) (place : Place) :
    (fs.withFile name).node? place =
      if place = fs.workingDirectory ++ [name] then some (.file fs.nextNumber) else fs.node? place :=
  node?_setNode (by simp) place

/-- To open a file that is not there makes an empty one, with a number of its own. -/
theorem openFile_of_none (hdir : fs.node? fs.workingDirectory = some .directory) (hname : PlainName name)
    (h : fs.named? name = none) : fs.openFile name = (fs.withFile name, some (.file fs.nextNumber)) := by
  have hvacant : fs.node? (fs.workingDirectory ++ [name]) = none := h
  simp only [openFile, hname.locate_eq hdir, hname.step_eq hdir, hvacant, hname.endsAsDirectory_eq,
    Bool.false_eq_true, if_false]
  rfl

theorem openFile_of_file (hdir : fs.node? fs.workingDirectory = some .directory) (hname : PlainName name)
    {number : Nat} (h : fs.named? name = some (.file number)) :
    fs.openFile name = (fs, some (.file number)) := by
  have hfile : fs.node? (fs.workingDirectory ++ [name]) = some (.file number) := h
  simp only [openFile, hname.locate_eq hdir, hname.step_eq hdir, hfile, hname.endsAsDirectory_eq,
    Bool.false_eq_true, if_false]

end FileSystem

end Fingerprint
