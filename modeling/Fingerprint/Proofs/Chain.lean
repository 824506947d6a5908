import Fingerprint.AuditLog

/-!
# Chains of lines

The lines of the audit log form a chain: each has a number, one more than the
line before, and a tag over the tag of the line before, the number and the
object. A file is self-contained if the chain of its lines starts with the
file, from number 1 and the tag of zeros: who holds the key can check it
without any other file.

A line ends with its number and its tag, and the tag has a fixed length. So
the number is read from the end of a line, whatever the object looks like, and
the lines of a file that is self-contained are as many as the last number says.

* `AuditLog.chain`, `AuditLog.written`: the lines of objects;
* `AuditLog.sequence_unique`: the number of a line is read from its end;
* `AuditLog.selfContained_written_iff`: lines are self-contained iff nothing went before them.
-/

namespace Fingerprint

namespace Bytes

/-- The digits of a number are the ten that there are. -/
theorem toNat_of_mem_toDigits {n : Nat} {c : Char} (h : c ∈ Nat.toDigits 10 n) :
    48 ≤ c.toNat ∧ c.toNat ≤ 57 := by
  have hdigit := Nat.isDigit_of_mem_toDigits (by decide) (by decide) h
  simp only [Char.isDigit, Bool.and_eq_true, decide_eq_true_eq, ge_iff_le,
    UInt32.le_iff_toNat_le] at hdigit
  exact hdigit

theorem isDigit_of_mem_ofNat {n : Nat} {b : UInt8} (h : b ∈ ofNat n) : isDigit b = true := by
  obtain ⟨c, hc, rfl⟩ := List.mem_map.1 h
  have hbounds := toNat_of_mem_toDigits hc
  simp only [isDigit, Bool.and_eq_true, decide_eq_true_eq, UInt8.le_iff_toNat_le, UInt8.toNat_ofNat']
  rwa [Nat.mod_eq_of_lt (by omega)]

/-- Digits are read one by one, as bytes and as characters alike. -/
theorem foldl_map_toNat {digits : List Char} (h : ∀ c ∈ digits, c.toNat < 256) (init : Nat) :
    (digits.map fun c => UInt8.ofNat c.toNat).foldl (fun n b => 10 * n + (b.toNat - 48)) init =
      Nat.ofDigitChars 10 digits init := by
  induction digits generalizing init with
  | nil => rfl
  | cons c digits ih =>
    have hc : (UInt8.ofNat c.toNat).toNat = c.toNat := by
      rw [UInt8.toNat_ofNat', Nat.mod_eq_of_lt (h c List.mem_cons_self)]
    rw [List.map_cons, List.foldl_cons, hc, ih fun d hd => h d (List.mem_cons_of_mem c hd)]
    rfl

/-- A numeral denotes its number. -/
theorem value_ofNat (n : Nat) : value (ofNat n) = n := by
  have hsmall : ∀ c ∈ Nat.toDigits 10 n, c.toNat < 256 := fun c hc => by
    have hbounds := toNat_of_mem_toDigits hc
    omega
  exact (foldl_map_toNat hsmall 0).trans (Nat.ofDigitChars_toDigits (by decide) (by decide))

theorem ofNat_injective : Function.Injective ofNat := fun m n h => by
  rw [← value_ofNat m, h, value_ofNat]

/-- The run at the end of a text ends before the first byte that does not belong to it. -/
theorem takeEndWhile_append_cons {p : UInt8 → Bool} {b : UInt8} (s : Bytes) {run : Bytes}
    (hb : p b = false) (hrun : ∀ c ∈ run, p c = true) : takeEndWhile p (s ++ b :: run) = run := by
  have hreverse : (s ++ b :: run).reverse = run.reverse ++ b :: s.reverse := by simp
  rw [takeEndWhile, hreverse, List.takeWhile_append_of_pos (by simpa using hrun),
    List.takeWhile_cons_of_neg (by simp [hb]), List.append_nil, List.reverse_reverse]

theorem newline_not_mem_hex (s : Bytes) : (0x0a : UInt8) ∉ hex s := by
  have hdigit : ∀ d < 16, hexDigit d ≠ 0x0a := by decide
  intro h
  obtain ⟨b, -, hb⟩ := List.mem_flatMap.1 h
  have hlt := b.toNat_lt
  simp only [hexByte, List.mem_cons, List.not_mem_nil, or_false] at hb
  rcases hb with hb | hb
  · exact hdigit _ (by omega) hb.symm
  · exact hdigit _ (by omega) hb.symm

end Bytes

namespace AuditLog

/-! ## Lines -/

/-- The lines of objects that follow a line with a number and a tag. -/
def chain (key previous : Bytes) (number : Nat) : List Bytes → List Bytes
  | [] => []
  | object :: rest =>
    let tag := Hmac.tag key (chained previous (number + 1) object)
    sealed object (number + 1) tag :: chain key tag (number + 1) rest

/-- The tag of the last line of objects, or the tag that they follow. -/
def lastTag (key previous : Bytes) (number : Nat) : List Bytes → Bytes
  | [] => previous
  | object :: rest =>
    lastTag key (Hmac.tag key (chained previous (number + 1) object)) (number + 1) rest

/-- The line of an object that follows the lines of others, the first of which is number 1. -/
def nextLine (key : Bytes) (objects : List Bytes) (object : Bytes) : Bytes :=
  sealed object (objects.length + 1)
    (Hmac.tag key (chained (lastTag key zeroMac 0 objects) (objects.length + 1) object))

/-- Lines as they stand in a file. -/
def text (lines : List Bytes) : Bytes := lines.flatMap (· ++ [0x0a])

/-- The lines of objects where the lines of `before` went before, as they stand in a file. -/
def written (key : Bytes) (before objects : List Bytes) : Bytes :=
  text (chain key (lastTag key zeroMac 0 before) before.length objects)

/-- A file whose lines are a chain of their own. -/
def SelfContained (key bytes : Bytes) : Prop := ∃ objects, bytes = written key [] objects

variable {key previous : Bytes} {number : Nat} {before objects : List Bytes}

theorem chain_append (objects others : List Bytes) :
    chain key previous number (objects ++ others) =
      chain key previous number objects ++
        chain key (lastTag key previous number objects) (number + objects.length) others := by
  induction objects generalizing previous number with
  | nil => rfl
  | cons object rest ih =>
    rw [List.cons_append, chain, ih, chain, lastTag, List.length_cons, List.cons_append,
      Nat.add_right_comm, Nat.add_assoc]

theorem lastTag_append (objects others : List Bytes) :
    lastTag key previous number (objects ++ others) =
      lastTag key (lastTag key previous number objects) (number + objects.length) others := by
  induction objects generalizing previous number with
  | nil => rfl
  | cons object rest ih =>
    rw [List.cons_append, lastTag, ih, lastTag, List.length_cons, Nat.add_right_comm, Nat.add_assoc]

@[simp] theorem length_chain : (chain key previous number objects).length = objects.length := by
  induction objects generalizing previous number with
  | nil => rfl
  | cons object rest ih => rw [chain, List.length_cons, ih, List.length_cons]

theorem text_append (lines others : List Bytes) : text (lines ++ others) = text lines ++ text others :=
  List.flatMap_append

/-- One more line, after all that was written and went before. -/
theorem written_concat (object : Bytes) :
    written key before (objects ++ [object]) =
      written key before objects ++ (nextLine key (before ++ objects) object ++ [0x0a]) := by
  rw [written, chain_append, text_append, nextLine, lastTag_append, Nat.zero_add]
  simp [written, text, chain]

/-! ## Reading the number of a line -/

/-- The number of a line is read from its end. -/
theorem sequence_unique {s s' object object' tag tag' : Bytes} {m n : Nat}
    (htag : tag.length = tag'.length)
    (h : s ++ sealed object m tag = s' ++ sealed object' n tag') : m = n := by
  have hcolon : (",\"seq\":" : Bytes) = (",\"seq\"" : Bytes) ++ [58] := rfl
  have hlong : ((s ++ object.dropLast ++ (",\"seq\"" : Bytes)) ++ 58 :: Bytes.ofNat m) ++
        ((",\"mac\":\"" : Bytes) ++ Bytes.hex tag ++ ("\"\x7d" : Bytes)) =
      ((s' ++ object'.dropLast ++ (",\"seq\"" : Bytes)) ++ 58 :: Bytes.ofNat n) ++
        ((",\"mac\":\"" : Bytes) ++ Bytes.hex tag' ++ ("\"\x7d" : Bytes)) := by
    simpa [sealed, hcolon] using h
  -- Behind the number come as many bytes on either side.
  have hcut := (List.append_inj' hlong (by simp [htag])).1
  have hread := congrArg (Bytes.takeEndWhile Bytes.isDigit) hcut
  rw [Bytes.takeEndWhile_append_cons _ (by decide) fun _ => Bytes.isDigit_of_mem_ofNat,
    Bytes.takeEndWhile_append_cons _ (by decide) fun _ => Bytes.isDigit_of_mem_ofNat] at hread
  exact Bytes.ofNat_injective hread

/-- What is written ends with a line whose number counts all lines so far. -/
theorem exists_last_line (key : Bytes) (before : List Bytes) (hobjects : objects ≠ []) :
    ∃ s object tag, tag.length = macSize ∧
      written key before objects = s ++ sealed object (before.length + objects.length) tag ++ [0x0a] := by
  obtain ⟨init, object, rfl⟩ : ∃ init object, objects = init ++ [object] :=
    ⟨_, _, (List.dropLast_concat_getLast hobjects).symm⟩
  rw [written_concat, nextLine, List.length_append, List.length_append, List.length_singleton,
    ← Nat.add_assoc]
  exact ⟨_, object, _, Hmac.length_tag _ _, (List.append_assoc _ _ _).symm⟩

/-! ## Counting lines -/

theorem length_le_count_text (lines : List Bytes) : lines.length ≤ (text lines).count 0x0a := by
  induction lines with
  | nil => exact Nat.zero_le _
  | cons line rest ih =>
    simp only [text, List.flatMap_cons, List.count_append, List.length_cons] at ih ⊢
    have hend : List.count (0x0a : UInt8) [0x0a] = 1 := rfl
    omega

theorem count_text {lines : List Bytes} (h : ∀ line ∈ lines, (0x0a : UInt8) ∉ line) :
    (text lines).count 0x0a = lines.length := by
  induction lines with
  | nil => rfl
  | cons line rest ih =>
    have hline := List.count_eq_zero.2 (h line List.mem_cons_self)
    have hrest := ih fun other hother => h other (List.mem_cons_of_mem line hother)
    simp only [text, List.flatMap_cons, List.count_append, List.length_cons] at hrest ⊢
    have hend : List.count (0x0a : UInt8) [0x0a] = 1 := rfl
    omega

theorem newline_not_mem_sealed {object tag : Bytes} {n : Nat} (h : (0x0a : UInt8) ∉ object) :
    (0x0a : UInt8) ∉ sealed object n tag := by
  have hobject : (0x0a : UInt8) ∉ object.dropLast := fun hmem => h (List.dropLast_subset _ hmem)
  have hnumber : (0x0a : UInt8) ∉ Bytes.ofNat n := fun hmem =>
    absurd (Bytes.isDigit_of_mem_ofNat hmem) (by decide)
  have htag := Bytes.newline_not_mem_hex tag
  have hseq : (0x0a : UInt8) ∉ (",\"seq\":" : Bytes) := by decide
  have hmac : (0x0a : UInt8) ∉ (",\"mac\":\"" : Bytes) := by decide
  have hend : (0x0a : UInt8) ∉ ("\"\x7d" : Bytes) := by decide
  simp only [sealed, List.mem_append, not_or]
  exact ⟨⟨⟨⟨⟨hobject, hseq⟩, hnumber⟩, hmac⟩, htag⟩, hend⟩

theorem newline_not_mem_chain (h : ∀ object ∈ objects, (0x0a : UInt8) ∉ object) :
    ∀ line ∈ chain key previous number objects, (0x0a : UInt8) ∉ line := by
  induction objects generalizing previous number with
  | nil => exact fun _ hline => absurd hline List.not_mem_nil
  | cons object rest ih =>
    intro line hline
    rw [chain] at hline
    rcases List.mem_cons.1 hline with rfl | hline
    · exact newline_not_mem_sealed (h object List.mem_cons_self)
    · exact ih (fun other hother => h other (List.mem_cons_of_mem object hother)) line hline

/-! ## Files that are self-contained -/

/-- The last number of a file that is self-contained counts all lines that were ever written. -/
theorem length_eq_of_written_eq {others : List Bytes} (hobjects : objects ≠ [])
    (h : written key before objects = written key [] others) :
    others.length = before.length + objects.length := by
  obtain ⟨s, object, tag, htag, hlast⟩ := exists_last_line key before hobjects
  have hsome : others ≠ [] := by
    rintro rfl
    rw [h] at hlast
    exact absurd hlast (by simp [written, text, chain])
  obtain ⟨s', object', tag', htag', hlast'⟩ := exists_last_line key [] hsome
  have hboth : s' ++ sealed object' (([] : List Bytes).length + others.length) tag' =
      s ++ sealed object (before.length + objects.length) tag := by
    have hlines := hlast'.symm.trans (h.symm.trans hlast)
    exact List.append_cancel_right hlines
  have hnumber := sequence_unique (htag'.trans htag.symm) hboth
  rwa [List.length_nil, Nat.zero_add] at hnumber

theorem written_eq_iff (hobjects : objects ≠ []) :
    written key before objects = written key [] objects ↔ before = [] := by
  constructor
  · intro h
    have hlength := length_eq_of_written_eq hobjects h
    exact List.eq_nil_of_length_eq_zero (by omega)
  · rintro rfl
    rfl

/-- Lines are a chain of their own iff nothing went before them. The objects have to be lines, or
    there would be no telling how many they are. -/
theorem selfContained_written_iff (hobjects : objects ≠ [])
    (hlines : ∀ object ∈ objects, (0x0a : UInt8) ∉ object) :
    SelfContained key (written key before objects) ↔ before = [] := by
  constructor
  · rintro ⟨others, hothers⟩
    have hlength := length_eq_of_written_eq hobjects hothers
    have hcount : others.length ≤ objects.length :=
      calc
        others.length ≤ (written key [] others).count 0x0a := by
          simpa [written, lastTag] using length_le_count_text (chain key zeroMac 0 others)
        _ = objects.length := by
          rw [← hothers, written, count_text (newline_not_mem_chain hlines), length_chain]
    exact List.eq_nil_of_length_eq_zero (by omega)
  · rintro rfl
    exact ⟨objects, rfl⟩

end AuditLog

end Fingerprint
