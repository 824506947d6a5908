import Fingerprint.Bytes

/-!
# Reading numerals

A numeral is read from the front of a text: an optional minus sign, if the
number may be negative, and the longest run of digits after it. The run has
to be there, the number it denotes has to lie within the bounds asked for,
and nothing may follow it. Leading zeros are harmless.

* `Numeral.natural`, `Numeral.integer`: the readers;
* `Numeral.Misreading`: why a text is refused. A number that is too large is
  reported as such even where junk follows it.
-/

namespace Fingerprint

namespace Numeral

/-- Why a text is no numeral of the wanted range. -/
inductive Misreading where
  /-- There are no digits, or something else than digits. -/
  | malformed
  /-- The digits denote a number that is out of bounds. -/
  | outOfRange
  deriving DecidableEq, Repr

/-- The digits at the front of a text. -/
def leadingDigits (s : Bytes) : Bytes := s.takeWhile Bytes.isDigit

/-- Reads a natural number of at most `bound`. -/
def natural (bound : Nat) (s : Bytes) : Except Misreading Nat :=
  let digits := leadingDigits s
  if digits.isEmpty then .error .malformed
  else if bound < Bytes.value digits then .error .outOfRange
  else if digits.length = s.length then .ok (Bytes.value digits)
  else .error .malformed

/-- Reads an integer from `-low` to `high`. -/
def integer (low high : Nat) : Bytes → Except Misreading Int
  | 45 :: s => (natural low s).map fun n => -(n : Int)
  | s => (natural high s).map fun n => (n : Int)

/-- Reads a signed number of 32 bits. -/
def int32? (s : Bytes) : Option Int32 :=
  match integer 0x80000000 0x7fffffff s with
  | .ok n => some (Int32.ofInt n)
  | .error _ => none

/-- Reads an unsigned number of 32 bits. -/
def uint32? (s : Bytes) : Option UInt32 :=
  match natural (UInt32.size - 1) s with
  | .ok n => some (UInt32.ofNat n)
  | .error _ => none

end Numeral

end Fingerprint
