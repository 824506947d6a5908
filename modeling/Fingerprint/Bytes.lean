/-!
# Byte strings

Messages, labels, paths and log lines are byte strings: nothing the outside
world hands over is promised to be well-formed text. String constants stand
for their UTF-8 bytes.

* `Bytes.ofNat`, `Bytes.ofInt`: decimal numerals, without leading zeros;
* `Bytes.hex`: two lowercase hexadecimal digits per byte;
* `Bytes.words`: the words between blanks;
* `Bytes.untilZero`: what is left of a text where a zero byte ends it.
-/

namespace Fingerprint

/-- A text as the outside world sees it, byte by byte. -/
abbrev Bytes := List UInt8

namespace Bytes

/-- The UTF-8 bytes of a string. -/
def ofString (s : String) : Bytes :=
  s.toList.flatMap String.utf8EncodeChar

instance : Coe String Bytes := ⟨ofString⟩

/-- The code of a decimal digit, `d < 10`. -/
def digit (d : Nat) : UInt8 := UInt8.ofNat (48 + d)

/-- Whether a byte is one of the ten decimal digits. -/
def isDigit (b : UInt8) : Bool := 48 ≤ b && b ≤ 57

/-- The number that decimal digits denote, most significant digit first. -/
def value (digits : Bytes) : Nat :=
  digits.foldl (fun n b => 10 * n + (b.toNat - 48)) 0

/-- The decimal numeral of a natural number. -/
def ofNat (n : Nat) : Bytes :=
  (Nat.toDigits 10 n).map fun c => UInt8.ofNat c.toNat

/-- The decimal numeral of an integer, with a minus sign in front if it is negative. -/
def ofInt : Int → Bytes
  | .ofNat n => ofNat n
  | .negSucc n => 45 :: ofNat (n + 1)

/-- A numeral brought to a width of at least `width` by zeros on its left. -/
def padZeros (width : Nat) (numeral : Bytes) : Bytes :=
  List.replicate (width - numeral.length) 48 ++ numeral

/-- The lowercase hexadecimal digit of `d < 16`. -/
def hexDigit (d : Nat) : UInt8 :=
  if d < 10 then UInt8.ofNat (48 + d) else UInt8.ofNat (87 + d)

/-- The two hexadecimal digits of a byte. -/
def hexByte (b : UInt8) : Bytes :=
  [hexDigit (b.toNat / 16), hexDigit (b.toNat % 16)]

/-- Two lowercase hexadecimal digits per byte. -/
def hex (s : Bytes) : Bytes := s.flatMap hexByte

/-- The blanks that separate words: space, and the controls from tab to carriage return. -/
def isBlank (b : UInt8) : Bool := b == 32 || (9 ≤ b && b ≤ 13)

/-- Splits off words, `word` being the letters of the current one so far. -/
def wordsFrom (word : Bytes) : Bytes → List Bytes
  | [] => if word.isEmpty then [] else [word]
  | b :: rest =>
    if isBlank b then
      if word.isEmpty then wordsFrom [] rest else word :: wordsFrom [] rest
    else wordsFrom (word ++ [b]) rest

/-- The maximal runs of bytes that are not blanks, in order. -/
def words (line : Bytes) : List Bytes := wordsFrom [] line

/-- Texts of a list, with a separator between neighbours. -/
def joinWith (separator : Bytes) : List Bytes → Bytes
  | [] => []
  | [s] => s
  | s :: rest => s ++ separator ++ joinWith separator rest

/-- A text up to its first zero byte. Where the length of a text is not passed along
    with it, this is all of it that arrives. -/
def untilZero (s : Bytes) : Bytes := s.takeWhile (· != 0)

/-- A text without the longest run at its end of bytes that satisfy `p`. -/
def dropEndWhile (p : UInt8 → Bool) (s : Bytes) : Bytes := (s.reverse.dropWhile p).reverse

/-- The longest run at the end of a text of bytes that satisfy `p`. -/
def takeEndWhile (p : UInt8 → Bool) (s : Bytes) : Bytes := (s.reverse.takeWhile p).reverse

theorem zero_not_mem_untilZero (s : Bytes) : 0 ∉ untilZero s := by
  induction s with
  | nil => simp [untilZero]
  | cons b s ih =>
    by_cases h : b = 0
    · simp [untilZero, h]
    · simp_all [untilZero, Ne.symm h]

/-- A text without zero bytes arrives as it is. -/
theorem untilZero_eq_self {s : Bytes} (h : 0 ∉ s) : untilZero s = s := by
  induction s with
  | nil => rfl
  | cons b s ih =>
    simp only [List.mem_cons, not_or] at h
    have hb : b ≠ 0 := Ne.symm h.1
    simp_all [untilZero]

@[simp] theorem length_hex (s : Bytes) : (hex s).length = 2 * s.length := by
  induction s with
  | nil => rfl
  | cons b s ih =>
    simp only [hex, List.flatMap_cons, List.length_append, List.length_cons] at ih ⊢
    rw [ih, hexByte]
    simp
    omega

end Bytes

end Fingerprint
