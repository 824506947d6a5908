import Mathlib.Data.List.DropRight
import Fingerprint.Proofs.Chain
import Fingerprint.Proofs.Json

/-!
# Verifying the audit log

Who holds the key of a log and has one of its files can check the lines. The
object, the number and the tag of a line are read off its end, where all but
the digits of the number has a fixed length; so it does not matter what the
object holds, and whether some text in it looks like a number or a tag. Then
the numbers have to count from 1, and each tag has to be the one that the key
gives.

* `AuditLog.unsealed`: the parts of a line;
* `AuditLog.verify`: the objects of a file, if its lines are right;
* `AuditLog.verify_eq_some_iff`: they are right iff they are a chain of their own.
-/

namespace Fingerprint

namespace Bytes

/-- The bytes that hexadecimal digits stand for. -/
def unhex : Bytes → Bytes
  | high :: low :: rest =>
    UInt8.ofNat (16 * (Json.hexValue high).getD 0 + (Json.hexValue low).getD 0) :: unhex rest
  | _ => []

theorem unhex_hex (s : Bytes) : unhex (hex s) = s := by
  induction s with
  | nil => rfl
  | cons b s ih =>
    have hlt := b.toNat_lt
    have hhigh : b.toNat / 16 < 16 := by omega
    have hlow : b.toNat % 16 < 16 := by omega
    have hsum : 16 * (b.toNat / 16) + b.toNat % 16 = b.toNat := by omega
    have hcons : hex (b :: s) = hexDigit (b.toNat / 16) :: hexDigit (b.toNat % 16) :: hex s := rfl
    rw [hcons, unhex, Json.hexValue_hexDigit hhigh, Json.hexValue_hexDigit hlow, Option.getD_some,
      Option.getD_some, hsum, UInt8.ofNat_toNat, ih]

theorem rdrop_append {s t : Bytes} {n : Nat} (h : t.length = n) : (s ++ t).rdrop n = s := by
  rw [List.rdrop, List.length_append, h, Nat.add_sub_cancel, List.take_left']
  rfl

/-- The lines of a text, `line` being what was read of the first so far. -/
def linesFrom (line : Bytes) : Bytes → List Bytes
  | [] => if line.isEmpty then [] else [line]
  | b :: rest => if b = 0x0a then line :: linesFrom [] rest else linesFrom (line ++ [b]) rest

/-- The lines of a text, without their ends. -/
def lines (s : Bytes) : List Bytes := linesFrom [] s

theorem linesFrom_append {before line : Bytes} (rest : Bytes) (h : (0x0a : UInt8) ∉ line) :
    linesFrom before (line ++ 0x0a :: rest) = (before ++ line) :: lines rest := by
  induction line generalizing before with
  | nil => simp [linesFrom, lines]
  | cons b line ih =>
    simp only [List.mem_cons, not_or] at h
    obtain ⟨hb, hline⟩ := h
    rw [List.cons_append, linesFrom, if_neg (Ne.symm hb), ih hline, List.append_assoc]
    rfl

end Bytes

namespace AuditLog

variable {key previous bytes object mac : Bytes} {number n : Nat} {objects lines : List Bytes}

/-! ## Lines -/

/-- The text of an object, which ends with a brace. -/
def Closed (object : Bytes) : Prop := ∃ init, object = init ++ [0x7d]

/-- Takes a line apart into the object, the number and the tag. -/
def unsealed (line : Bytes) : Option (Bytes × Nat × Bytes) :=
  let mac := Bytes.unhex ((line.rdrop 2).rtake (2 * macSize))
  let front := line.rdrop (8 + 2 * macSize + 2)
  let digits := Bytes.takeEndWhile Bytes.isDigit front
  let object := front.rdrop (7 + digits.length) ++ [0x7d]
  if sealed object (Bytes.value digits) mac = line then some (object, Bytes.value digits, mac) else none

/-- The parts of a line are read off its bytes, whatever the object holds. -/
theorem unsealed_sealed (hobject : Closed object) (hmac : mac.length = macSize) :
    unsealed (sealed object n mac) = some (object, n, mac) := by
  obtain ⟨init, rfl⟩ := hobject
  have hline : sealed (init ++ [0x7d]) n mac = init ++ (",\"seq\":" : Bytes) ++ Bytes.ofNat n ++
      (",\"mac\":\"" : Bytes) ++ Bytes.hex mac ++ ("\"\x7d" : Bytes) := by
    rw [sealed, List.dropLast_concat]
  -- From the end of the line: the tag, of fixed length, then as many digits as there are, then the object.
  have hhex : (Bytes.hex mac).length = 2 * macSize := by rw [Bytes.length_hex, hmac]
  have hmark : (sealed (init ++ [0x7d]) n mac).rdrop 2 = init ++ (",\"seq\":" : Bytes) ++ Bytes.ofNat n ++
      (",\"mac\":\"" : Bytes) ++ Bytes.hex mac := by
    rw [hline]
    exact Bytes.rdrop_append rfl
  have htag : (init ++ (",\"seq\":" : Bytes) ++ Bytes.ofNat n ++ (",\"mac\":\"" : Bytes) ++
      Bytes.hex mac).rtake (2 * macSize) = Bytes.hex mac := by
    rw [List.rtake, List.length_append, hhex, Nat.add_sub_cancel, List.drop_left']
    rfl
  have hfront : (sealed (init ++ [0x7d]) n mac).rdrop (8 + 2 * macSize + 2) =
      init ++ (",\"seq\":" : Bytes) ++ Bytes.ofNat n := by
    rw [hline, List.append_assoc, List.append_assoc]
    refine Bytes.rdrop_append ?_
    simp only [List.length_append, hhex]
    rfl
  have hdigits : Bytes.takeEndWhile Bytes.isDigit (init ++ (",\"seq\":" : Bytes) ++ Bytes.ofNat n) =
      Bytes.ofNat n := by
    -- A digit at the end of the object is not taken for one of the number: a colon stands between them.
    have hcolon : init ++ (",\"seq\":" : Bytes) ++ Bytes.ofNat n =
        (init ++ (",\"seq\"" : Bytes)) ++ 58 :: Bytes.ofNat n := by
      rw [List.append_assoc, List.append_assoc]
      rfl
    rw [hcolon]
    exact Bytes.takeEndWhile_append_cons _ (by decide) fun _ => Bytes.isDigit_of_mem_ofNat
  have hobject : (init ++ (",\"seq\":" : Bytes) ++ Bytes.ofNat n).rdrop (7 + (Bytes.ofNat n).length) = init := by
    rw [List.append_assoc]
    exact Bytes.rdrop_append (List.length_append ..)
  unfold unsealed
  dsimp only
  rw [hmark, htag, hfront, hdigits, hobject, Bytes.unhex_hex, Bytes.value_ofNat, if_pos rfl]

theorem sealed_of_unsealed {line : Bytes} (h : unsealed line = some (object, n, mac)) :
    line = sealed object n mac := by
  unfold unsealed at h
  dsimp only at h
  split at h
  · next hline =>
    cases h
    exact hline.symm
  · cases h

/-! ## Files -/

/-- The objects of lines behind a line with a number and a tag, if the lines are right. -/
def audit (key previous : Bytes) (number : Nat) : List Bytes → Option (List Bytes)
  | [] => some []
  | line :: rest =>
    (unsealed line).bind fun (object, n, mac) =>
      if n = number + 1 ∧ mac = Hmac.tag key (chained previous n object) then
        (audit key mac n rest).map (object :: ·)
      else none

/-- The objects of a file, if its lines are right. -/
def verify (key bytes : Bytes) : Option (List Bytes) :=
  if text (Bytes.lines bytes) = bytes then audit key zeroMac 0 (Bytes.lines bytes) else none

theorem audit_cons {line : Bytes} (hline : unsealed line = some (object, n, mac)) :
    audit key previous number (line :: lines) =
      if n = number + 1 ∧ mac = Hmac.tag key (chained previous n object) then
        (audit key mac n lines).map (object :: ·)
      else none := by
  rw [audit, hline, Option.bind_some]

theorem audit_chain (h : ∀ object ∈ objects, Closed object) :
    audit key previous number (chain key previous number objects) = some objects := by
  induction objects generalizing previous number with
  | nil => rfl
  | cons object rest ih =>
    have hline := unsealed_sealed (n := number + 1) (h object List.mem_cons_self)
      (Hmac.length_tag key (chained previous (number + 1) object))
    rw [chain, audit_cons hline, if_pos (And.intro rfl rfl),
      ih fun other hother => h other (List.mem_cons_of_mem object hother)]
    rfl

theorem chain_of_audit (h : audit key previous number lines = some objects) :
    lines = chain key previous number objects := by
  induction lines generalizing previous number objects with
  | nil =>
    cases h
    rfl
  | cons line rest ih =>
    cases hline : unsealed line with
    | none => simp [audit, hline] at h
    | some parts =>
      obtain ⟨object, n, mac⟩ := parts
      rw [audit_cons hline] at h
      split at h
      · next hright =>
        obtain ⟨rfl, rfl⟩ := hright
        obtain ⟨others, hothers, rfl⟩ := Option.map_eq_some_iff.1 h
        rw [chain, ih hothers, sealed_of_unsealed hline]
      · cases h

theorem lines_text (h : ∀ line ∈ lines, (0x0a : UInt8) ∉ line) : Bytes.lines (text lines) = lines := by
  induction lines with
  | nil => rfl
  | cons line rest ih =>
    have hrest := ih fun other hother => h other (List.mem_cons_of_mem line hother)
    have htext : text (line :: rest) = line ++ 0x0a :: text rest := by
      rw [text, List.flatMap_cons, List.append_assoc]
      rfl
    rw [htext, Bytes.lines, Bytes.linesFrom_append _ (h line List.mem_cons_self), hrest]
    rfl

/-- The lines of a chain of its own are right, if the objects are lines. -/
theorem verify_written (hclosed : ∀ object ∈ objects, Closed object)
    (hlines : ∀ object ∈ objects, (0x0a : UInt8) ∉ object) : verify key (written key [] objects) = some objects := by
  have hread : Bytes.lines (written key [] objects) = chain key zeroMac 0 objects :=
    lines_text (newline_not_mem_chain hlines)
  have htext : text (chain key zeroMac 0 objects) = written key [] objects := rfl
  rw [verify, hread, if_pos htext, audit_chain hclosed]

/-- Lines that are right are a chain of their own. -/
theorem written_of_verify (h : verify key bytes = some objects) : bytes = written key [] objects := by
  unfold verify at h
  split at h
  · next hbytes =>
    rw [← hbytes, chain_of_audit h]
    rfl
  · cases h

/-- Nothing else is taken for the lines with these objects. -/
theorem verify_eq_some_iff (hclosed : ∀ object ∈ objects, Closed object)
    (hlines : ∀ object ∈ objects, (0x0a : UInt8) ∉ object) :
    verify key bytes = some objects ↔ bytes = written key [] objects := by
  refine ⟨written_of_verify, ?_⟩
  rintro rfl
  exact verify_written hclosed hlines

end AuditLog

end Fingerprint
