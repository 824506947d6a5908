import Mathlib.Tactic.SplitIfs
import Fingerprint.Event.Json
import Fingerprint.Proofs.Chain

/-!
# Reading JSON

A reader of JSON texts, byte by byte and strict: it takes what the grammar of
JSON derives and nothing else, with blanks between the tokens, with escapes
and surrogate pairs in strings, and with arrays and objects in one another.
A number is kept as it is written, a string as the bytes that it stands for,
the members of an object in their order. Bytes beyond ASCII stand for
themselves.

Readers take a value off the front of a text and hand back what is left.
Where they recurse they are given fuel, and the length of the text is enough
of it (`Json.read`).

* `Json.read`: the value that a whole text stands for;
* `Json.IsInteger`: how an integer is written;
* `Json.Denotes`: a text is read as a value wherever it stands in an object;
* `Json.Joined`: members with a comma before each, and `read_of_joined`, the
  object they make.
-/

namespace Fingerprint

namespace Json

/-- A value of JSON. -/
inductive Value where
  | null
  | bool (b : Bool)
  /-- A number, as it is written. -/
  | number (numeral : Bytes)
  /-- A string, by what it stands for. -/
  | string (text : Bytes)
  | array (items : List Value)
  | object (members : List (Bytes × Value))

/-! ## The reader -/

/-- The blanks that may stand between tokens. -/
def isBlank (b : UInt8) : Bool := b == 0x20 || b == 0x09 || b == 0x0a || b == 0x0d

/-- What is left of a text behind the blanks at its front. -/
def skip (s : Bytes) : Bytes := s.dropWhile isBlank

/-- Takes a byte off the front of a text, and the blanks before it. -/
def token (b : UInt8) (s : Bytes) : Option Bytes :=
  match skip s with
  | c :: rest => if c = b then some rest else none
  | [] => none

/-- The value of a hexadecimal digit. -/
def hexValue (b : UInt8) : Option Nat :=
  if 0x30 ≤ b ∧ b ≤ 0x39 then some (b.toNat - 0x30)
  else if 0x61 ≤ b ∧ b ≤ 0x66 then some (b.toNat - 0x57)
  else if 0x41 ≤ b ∧ b ≤ 0x46 then some (b.toNat - 0x37)
  else none

/-- Takes four hexadecimal digits. -/
def codeUnit : Bytes → Option (Nat × Bytes)
  | a :: b :: c :: d :: rest => do
    let n ← [a, b, c, d].foldlM (fun n digit => (hexValue digit).map (16 * n + ·)) 0
    some (n, rest)
  | _ => none

/-- The bytes of a character, by its code. -/
def encoded (code : Nat) : Option Bytes :=
  if code.isValidChar then some (String.utf8EncodeChar (Char.ofNat code)) else none

/-- Takes a character by its code, behind the `u` of an escape. Surrogates stand in pairs. -/
def character (s : Bytes) : Option (Bytes × Bytes) := do
  let (high, rest) ← codeUnit s
  if 0xd800 ≤ high ∧ high < 0xdc00 then
    match rest with
    | 0x5c :: 0x75 :: rest => do
      let (low, rest) ← codeUnit rest
      if 0xdc00 ≤ low ∧ low < 0xe000 then
        let text ← encoded (0x10000 + 0x400 * (high - 0xd800) + (low - 0xdc00))
        some (text, rest)
      else none
    | _ => none
  else
    let text ← encoded high
    some (text, rest)

/-- Takes an escape, behind its backslash. -/
def escaped : Bytes → Option (Bytes × Bytes)
  | [] => none
  | b :: rest =>
    if b = 0x22 ∨ b = 0x5c ∨ b = 0x2f then some ([b], rest)
    else if b = 0x62 then some ([0x08], rest)
    else if b = 0x66 then some ([0x0c], rest)
    else if b = 0x6e then some ([0x0a], rest)
    else if b = 0x72 then some ([0x0d], rest)
    else if b = 0x74 then some ([0x09], rest)
    else if b = 0x75 then character rest
    else none

/-- Takes a string, behind its opening quote. Control characters have to be escaped. -/
def string : Nat → Bytes → Option (Bytes × Bytes)
  | 0, _ => none
  | _, [] => none
  | fuel + 1, b :: rest =>
    if b = 0x22 then some ([], rest)
    else if b < 0x20 then none
    else do
      let (first, rest) ← if b = 0x5c then escaped rest else some ([b], rest)
      let (others, rest) ← string fuel rest
      some (first ++ others, rest)

/-- Takes digits, one at least. -/
def digits (s : Bytes) : Option (Bytes × Bytes) :=
  let run := s.takeWhile Bytes.isDigit
  if run.isEmpty then none else some (run, s.dropWhile Bytes.isDigit)

/-- Takes the digits before the point of a number. No others stand behind a leading zero. -/
def whole : Bytes → Option (Bytes × Bytes)
  | 0x30 :: rest => some ([0x30], rest)
  | s => digits s

/-- Takes a minus sign, if there is one. -/
def minus : Bytes → Bytes × Bytes
  | 0x2d :: rest => ([0x2d], rest)
  | s => ([], s)

/-- Takes the point of a number and the digits behind it, if there are any. -/
def fraction : Bytes → Option (Bytes × Bytes)
  | 0x2e :: rest => (digits rest).map fun (run, rest) => (0x2e :: run, rest)
  | s => some ([], s)

/-- Takes the exponent of a number, if there is one. -/
def exponent : Bytes → Option (Bytes × Bytes)
  | [] => some ([], [])
  | e :: rest =>
    if e = 0x65 ∨ e = 0x45 then
      match rest with
      | 0x2b :: rest => (digits rest).map fun (run, rest) => (e :: 0x2b :: run, rest)
      | 0x2d :: rest => (digits rest).map fun (run, rest) => (e :: 0x2d :: run, rest)
      | rest => (digits rest).map fun (run, rest) => (e :: run, rest)
    else some ([], e :: rest)

/-- Takes a number. -/
def number (s : Bytes) : Option (Bytes × Bytes) := do
  let (sign, rest) := minus s
  let (before, rest) ← whole rest
  let (behind, rest) ← fraction rest
  let (power, rest) ← exponent rest
  some (sign ++ before ++ behind ++ power, rest)

/-- Takes a given word off the front of a text. -/
def literal (word : Bytes) (meaning : Value) (s : Bytes) : Option (Value × Bytes) :=
  if word <+: s then some (meaning, s.drop word.length) else none

mutual

/-- Takes a value, and the blanks before it. -/
def value : Nat → Bytes → Option (Value × Bytes)
  | 0, _ => none
  | fuel + 1, s =>
    match skip s with
    | [] => none
    | b :: rest =>
      if b = 0x22 then (string fuel rest).map fun (text, rest) => (.string text, rest)
      else if b = 0x7b then
        match token 0x7d rest with
        | some rest => some (.object [], rest)
        | none => (members fuel rest).map fun (members, rest) => (.object members, rest)
      else if b = 0x5b then
        match token 0x5d rest with
        | some rest => some (.array [], rest)
        | none => (items fuel rest).map fun (items, rest) => (.array items, rest)
      else if b = 0x6e then literal "null" .null (b :: rest)
      else if b = 0x74 then literal "true" (.bool true) (b :: rest)
      else if b = 0x66 then literal "false" (.bool false) (b :: rest)
      else (number (b :: rest)).map fun (numeral, rest) => (.number numeral, rest)

/-- Takes the items of an array up to its closing bracket, one at least. -/
def items : Nat → Bytes → Option (List Value × Bytes)
  | 0, _ => none
  | fuel + 1, s => do
    let (first, rest) ← value fuel s
    match token 0x2c rest with
    | some rest => (items fuel rest).map fun (others, rest) => (first :: others, rest)
    | none => (token 0x5d rest).map fun rest => ([first], rest)

/-- Takes the members of an object up to its closing brace, one at least. -/
def members : Nat → Bytes → Option (List (Bytes × Value) × Bytes)
  | 0, _ => none
  | fuel + 1, s => do
    let rest ← token 0x22 s
    let (key, rest) ← string fuel rest
    let rest ← token 0x3a rest
    let (meaning, rest) ← value fuel rest
    match token 0x2c rest with
    | some rest => (members fuel rest).map fun (others, rest) => ((key, meaning) :: others, rest)
    | none => (token 0x7d rest).map fun rest => ([(key, meaning)], rest)

end

/-- The value that a text stands for, if it is one of JSON. -/
def read (s : Bytes) : Option Value :=
  match value (s.length + 1) s with
  | some (meaning, rest) => if (skip rest).isEmpty then some meaning else none
  | none => none

example : read "[true, -1.5e+3, \"\\u00e4\\ud83d\\ude00\"]" =
    some (.array [.bool true, .number "-1.5e+3", .string "ä😀"]) := by
  cbv

/-! ## Strings -/

open Event.Json

variable {fuel : Nat} {s rest : Bytes} {b : UInt8}

theorem hexValue_hexDigit {d : Nat} (h : d < 16) : hexValue (Bytes.hexDigit d) = some d := by
  have hall : ∀ d < 16, hexValue (Bytes.hexDigit d) = some d := by decide
  exact hall d h

theorem hexValue_zero : hexValue 0x30 = some 0 := by decide

/-- Below ASCII's end a character is one byte. -/
theorem encoded_toNat (h : b < 0x20) : encoded b.toNat = some [b] := by
  have hall : ∀ n < 0x20, encoded n = some [UInt8.ofNat n] := by decide
  rw [hall b.toNat (UInt8.lt_iff_toNat_lt.1 h), UInt8.ofNat_toNat]

theorem codeUnit_hexByte (b : UInt8) :
    codeUnit (0x30 :: 0x30 :: (Bytes.hexByte b ++ rest)) = some (b.toNat, rest) := by
  have hlt := b.toNat_lt
  have hhigh : b.toNat / 16 < 16 := by omega
  have hlow : b.toNat % 16 < 16 := by omega
  have hsum : 16 * (b.toNat / 16) + b.toNat % 16 = b.toNat := by omega
  simp [codeUnit, Bytes.hexByte, hexValue_zero, hexValue_hexDigit hhigh, hexValue_hexDigit hlow, hsum]

/-- A control character is read back from its code. -/
theorem character_hexByte (h : b < 0x20) :
    character (0x30 :: 0x30 :: (Bytes.hexByte b ++ rest)) = some ([b], rest) := by
  have hlt := UInt8.lt_iff_toNat_lt.1 h
  have hlow : ¬(0xd800 ≤ b.toNat ∧ b.toNat < 0xdc00) := by
    have : (0x20 : UInt8).toNat = 32 := rfl
    omega
  simp [character, codeUnit_hexByte, hlow, encoded_toNat h]

/-- A byte stands for itself in a string, or it is read back from behind a backslash. -/
theorem escapeByte_cases (b : UInt8) :
    (escapeByte b = [b] ∧ b ≠ 0x5c ∧ b ≠ 0x22 ∧ ¬b < 0x20) ∨
      ∃ code, escapeByte b = 0x5c :: code ∧ ∀ rest, escaped (code ++ rest) = some ([b], rest) := by
  unfold escapeByte
  split_ifs with hbackslash hquote hbackspace hfeed hnewline hreturn htab hcontrol
  · exact .inr ⟨[0x5c], rfl, fun rest => by rw [hbackslash]; rfl⟩
  · exact .inr ⟨[0x22], rfl, fun rest => by rw [hquote]; rfl⟩
  · exact .inr ⟨[0x62], rfl, fun rest => by rw [hbackspace]; rfl⟩
  · exact .inr ⟨[0x66], rfl, fun rest => by rw [hfeed]; rfl⟩
  · exact .inr ⟨[0x6e], rfl, fun rest => by rw [hnewline]; rfl⟩
  · exact .inr ⟨[0x72], rfl, fun rest => by rw [hreturn]; rfl⟩
  · exact .inr ⟨[0x74], rfl, fun rest => by rw [htab]; rfl⟩
  · refine .inr ⟨0x75 :: 0x30 :: 0x30 :: Bytes.hexByte b, rfl, fun rest => ?_⟩
    simpa [escaped] using character_hexByte hcontrol
  · exact .inl ⟨rfl, hbackslash, hquote, hcontrol⟩

theorem string_escapeByte (b : UInt8) :
    string (fuel + 1) (escapeByte b ++ rest) =
      (string fuel rest).map fun (text, rest) => (b :: text, rest) := by
  obtain ⟨hself, hbackslash, hquote, hcontrol⟩ | ⟨code, hcode, hescaped⟩ := escapeByte_cases b
  · cases hrest : string fuel rest <;> simp [hself, string, hquote, hcontrol, hbackslash, hrest]
  · cases hrest : string fuel rest <;> simp [hcode, string, hescaped, hrest]

/-- A text is read back from the way it stands in a string. -/
theorem string_escape (h : s.length < fuel) : string fuel (escape s ++ 0x22 :: rest) = some (s, rest) := by
  induction s generalizing fuel with
  | nil =>
    obtain ⟨fuel, rfl⟩ := Nat.exists_eq_succ_of_ne_zero (Nat.ne_of_gt h)
    simp [escape, string]
  | cons b s ih =>
    obtain ⟨fuel, rfl⟩ := Nat.exists_eq_succ_of_ne_zero (Nat.ne_of_gt (Nat.zero_lt_of_lt h))
    have hs : s.length < fuel := by simpa using h
    rw [escape, List.flatMap_cons, List.append_assoc, string_escapeByte]
    exact congrArg (Option.map _) (ih hs)

theorem length_le_escape (s : Bytes) : s.length ≤ (escape s).length := by
  have hbyte (b : UInt8) : 1 ≤ (escapeByte b).length := by
    obtain ⟨hself, -⟩ | ⟨code, hcode, -⟩ := escapeByte_cases b
    · simp [hself]
    · simp [hcode]
  induction s with
  | nil => exact Nat.zero_le _
  | cons b s ih =>
    have hb := hbyte b
    simp only [escape, List.flatMap_cons, List.length_append, List.length_cons] at ih ⊢
    omega

/-! ## Numbers -/

/-- A numeral of a natural number: digits, of which the first is zero only if there are no others. -/
def IsNatural (s : Bytes) : Prop :=
  s = [0x30] ∨ (s ≠ [] ∧ s.head? ≠ some 0x30 ∧ ∀ b ∈ s, Bytes.isDigit b = true)

/-- A numeral of an integer, with a minus sign in front or without. -/
def IsInteger (s : Bytes) : Prop := IsNatural s ∨ ∃ digits, s = 0x2d :: digits ∧ IsNatural digits

/-- The first digit of a number is not zero, unless the number is. -/
theorem head_ofNat_ne {n : Nat} (h : n ≠ 0) : (Bytes.ofNat n).head? ≠ some 0x30 := by
  induction n using Nat.strongRecOn with
  | ind n ih =>
    by_cases hlt : n < 10
    · have hall : ∀ n < 10, n ≠ 0 → (Bytes.ofNat n).head? ≠ some 0x30 := by decide
      exact hall n hlt h
    · have hsome : Bytes.ofNat (n / 10) ≠ [] := by simp [Bytes.ofNat]
      have hdigits : Bytes.ofNat n = Bytes.ofNat (n / 10) ++ [UInt8.ofNat (n % 10).digitChar.toNat] := by
        rw [Bytes.ofNat, Nat.toDigits_of_base_le (by decide) (Nat.le_of_not_lt hlt), List.map_append]
        rfl
      obtain ⟨b, rest, hcons⟩ := List.exists_cons_of_ne_nil hsome
      have hhead := ih (n / 10) (by omega) (by omega)
      rw [hcons] at hdigits hhead
      rw [hdigits]
      exact hhead

theorem isNatural_ofNat (n : Nat) : IsNatural (Bytes.ofNat n) := by
  by_cases h : n = 0
  · exact h ▸ .inl rfl
  · exact .inr ⟨by simp [Bytes.ofNat], head_ofNat_ne h, fun _ => Bytes.isDigit_of_mem_ofNat⟩

theorem isInteger_ofInt (n : Int) : IsInteger (Bytes.ofInt n) := by
  cases n with
  | ofNat n => exact .inl (isNatural_ofNat n)
  | negSucc n => exact .inr ⟨_, rfl, isNatural_ofNat (n + 1)⟩

/-- What comes next does not go on with a number. -/
def Stops (s : Bytes) : Prop := ∃ b rest, s = b :: rest ∧ (b = 0x2c ∨ b = 0x7d)

theorem digits_append (h : s ≠ []) (hdigits : ∀ b ∈ s, Bytes.isDigit b = true) (hstop : Stops rest) :
    digits (s ++ rest) = some (s, rest) := by
  obtain ⟨b, rest, rfl, hb⟩ := hstop
  have hother : Bytes.isDigit b = false := by
    rcases hb with rfl | rfl <;> decide
  unfold digits
  rw [List.takeWhile_append_of_pos hdigits, List.takeWhile_cons_of_neg (by simp [hother]),
    List.dropWhile_append_of_pos hdigits, List.dropWhile_cons_of_neg (by simp [hother])]
  simp [h]

theorem whole_append (h : IsNatural s) (hstop : Stops rest) : whole (s ++ rest) = some (s, rest) := by
  rcases h with rfl | ⟨hsome, hhead, hdigits⟩
  · rfl
  · have hread := digits_append hsome hdigits hstop
    unfold whole
    split
    · next tail hzero =>
      cases s with
      | nil => exact absurd rfl hsome
      | cons b s =>
        cases hzero
        exact absurd rfl hhead
    · exact hread

theorem fraction_of_stops (h : Stops s) : fraction s = some ([], s) := by
  obtain ⟨b, rest, rfl, rfl | rfl⟩ := h <;> rfl

theorem exponent_of_stops (h : Stops s) : exponent s = some ([], s) := by
  obtain ⟨b, rest, rfl, rfl | rfl⟩ := h <;> rfl

theorem minus_of_isNatural (h : IsNatural s) : minus (s ++ rest) = ([], s ++ rest) := by
  rcases h with rfl | ⟨hsome, -, hdigits⟩
  · rfl
  · cases s with
    | nil => exact absurd rfl hsome
    | cons b s =>
      unfold minus
      split
      · next tail hminus =>
        cases hminus
        exact absurd (hdigits _ List.mem_cons_self) (by decide)
      · rfl

/-- An integer is read as it is written. -/
theorem number_append (h : IsInteger s) (hstop : Stops rest) : number (s ++ rest) = some (s, rest) := by
  rcases h with hnatural | ⟨digits, rfl, hnatural⟩
  · simp [number, minus_of_isNatural hnatural, whole_append hnatural hstop, fraction_of_stops hstop,
      exponent_of_stops hstop]
  · simp [number, minus, whole_append hnatural hstop, fraction_of_stops hstop,
      exponent_of_stops hstop]

/-! ## Objects -/

/-- A text is read as a value, wherever a member of an object holds it. -/
def Denotes (s : Bytes) (meaning : Value) : Prop :=
  ∀ ⦃fuel rest⦄, s.length < fuel → Stops rest → value fuel (s ++ rest) = some (meaning, rest)

theorem denotes_quoted (s : Bytes) : Denotes (quoted s) (.string s) := by
  intro fuel rest hfuel hstop
  obtain ⟨fuel, rfl⟩ := Nat.exists_eq_succ_of_ne_zero (Nat.ne_of_gt (Nat.zero_lt_of_lt hfuel))
  have hlength := length_le_escape s
  have hread : string fuel (escape s ++ 0x22 :: rest) = some (s, rest) := by
    refine string_escape ?_
    simp only [quoted, List.length_cons, List.length_append, List.length_nil] at hfuel
    omega
  simp [value, quoted, skip, isBlank, hread]

theorem exists_digit_of_isDigit (h : Bytes.isDigit b = true) : ∃ d < 10, b = Bytes.digit d := by
  simp only [Bytes.isDigit, Bool.and_eq_true, decide_eq_true_eq, UInt8.le_iff_toNat_le] at h
  have hlow : (48 : UInt8).toNat = 48 := rfl
  have hhigh : (57 : UInt8).toNat = 57 := rfl
  refine ⟨b.toNat - 48, by omega, ?_⟩
  rw [Bytes.digit, Nat.add_sub_cancel' (by omega), UInt8.ofNat_toNat]

theorem IsInteger.exists_cons (h : IsInteger s) :
    ∃ b rest, s = b :: rest ∧ (b = 0x2d ∨ Bytes.isDigit b = true) := by
  obtain (rfl | ⟨hsome, -, hdigits⟩) | ⟨digits, rfl, -⟩ := h
  · exact ⟨_, _, rfl, .inr rfl⟩
  · cases s with
    | nil => exact absurd rfl hsome
    | cons b s => exact ⟨_, _, rfl, .inr (hdigits b List.mem_cons_self)⟩
  · exact ⟨_, _, rfl, .inl rfl⟩

theorem denotes_of_isInteger (h : IsInteger s) : Denotes s (.number s) := by
  intro fuel rest hfuel hstop
  obtain ⟨fuel, rfl⟩ := Nat.exists_eq_succ_of_ne_zero (Nat.ne_of_gt (Nat.zero_lt_of_lt hfuel))
  have hread := number_append h hstop
  obtain ⟨b, tail, rfl, hb⟩ := h.exists_cons
  -- What starts with a minus sign or a digit is no other value, and no blank.
  have hother : isBlank b = false ∧ ([0x22, 0x7b, 0x5b, 0x6e, 0x74, 0x66] : Bytes).contains b = false := by
    rcases hb with rfl | hdigit
    · decide
    · have hall : ∀ d < 10, isBlank (Bytes.digit d) = false ∧
          ([0x22, 0x7b, 0x5b, 0x6e, 0x74, 0x66] : Bytes).contains (Bytes.digit d) = false := by decide
      obtain ⟨d, hd, rfl⟩ := exists_digit_of_isDigit hdigit
      exact hall d hd
  obtain ⟨hblank, hother⟩ := hother
  simp only [List.contains_eq_mem, List.mem_cons, List.not_mem_nil, or_false, decide_eq_false_iff_not,
    not_or] at hother
  rw [List.cons_append] at hread
  simp [value, skip, hblank, hother, hread]

/-- Members of an object, with a comma before each. -/
inductive Joined : Bytes → List (Bytes × Value) → Prop
  | nil : Joined [] []
  | cons {key text tail : Bytes} {meaning : Value} {others : List (Bytes × Value)}
      (h : Denotes text meaning) (hrest : Joined tail others) :
      Joined (0x2c :: (quoted key ++ 0x3a :: text) ++ tail) ((key, meaning) :: others)

variable {key text tail : Bytes} {meaning : Value} {ones others : List (Bytes × Value)}

theorem Joined.single (h : Denotes text meaning) :
    Joined (0x2c :: (quoted key ++ 0x3a :: text)) [(key, meaning)] := by
  simpa using Joined.cons h .nil

theorem Joined.append (h : Joined s ones) (h' : Joined tail others) : Joined (s ++ tail) (ones ++ others) := by
  induction h with
  | nil => exact h'
  | cons hmeaning _ ih =>
    rw [List.append_assoc]
    exact .cons hmeaning ih

theorem Joined.stops (h : Joined s ones) : Stops (s ++ 0x7d :: rest) := by
  cases h with
  | nil => exact ⟨_, _, rfl, .inr rfl⟩
  | cons _ _ => exact ⟨_, _, rfl, .inl rfl⟩

theorem members_succ (h : Denotes text meaning) (hstop : Stops rest)
    (hfuel : (quoted key ++ 0x3a :: text).length ≤ fuel) :
    members (fuel + 1) (quoted key ++ 0x3a :: text ++ rest) =
      match token 0x2c rest with
      | some rest => (members fuel rest).map fun (others, rest) => ((key, meaning) :: others, rest)
      | none => (token 0x7d rest).map fun rest => ([(key, meaning)], rest) := by
  have hlength := length_le_escape key
  simp only [quoted, List.length_cons, List.length_append, List.length_nil] at hfuel
  have hkey : string fuel (escape key ++ 0x22 :: 0x3a :: (text ++ rest)) =
      some (key, 0x3a :: (text ++ rest)) := string_escape (by omega)
  have htext : value fuel (text ++ rest) = some (meaning, rest) := h (by omega) hstop
  simp [members, quoted, token, skip, isBlank, hkey, htext]

/-- Members are read back up to the closing brace. -/
theorem members_of_joined (h : Denotes text meaning) (hjoined : Joined tail others)
    (hfuel : (quoted key ++ 0x3a :: text ++ tail).length < fuel) :
    members fuel (quoted key ++ 0x3a :: text ++ (tail ++ 0x7d :: rest)) =
      some ((key, meaning) :: others, rest) := by
  have hstop : Stops (tail ++ 0x7d :: rest) := hjoined.stops
  -- The first member has no comma before it, so the induction is on those that follow.
  induction hjoined generalizing key text meaning fuel with
  | nil =>
    obtain ⟨fuel, rfl⟩ := Nat.exists_eq_succ_of_ne_zero (Nat.ne_of_gt (Nat.zero_lt_of_lt hfuel))
    rw [members_succ h hstop (by simpa using Nat.le_of_lt_succ hfuel)]
    rfl
  | @cons next text' tail' meaning' others' hnext hrest ih =>
    obtain ⟨fuel, rfl⟩ := Nat.exists_eq_succ_of_ne_zero (Nat.ne_of_gt (Nat.zero_lt_of_lt hfuel))
    simp only [List.length_append, List.length_cons] at hfuel
    rw [members_succ h hstop (by simp only [List.length_append, List.length_cons]; omega)]
    have hcomma : token 0x2c (0x2c :: (quoted next ++ 0x3a :: text') ++ tail' ++ 0x7d :: rest) =
        some (quoted next ++ 0x3a :: text' ++ (tail' ++ 0x7d :: rest)) := by
      rw [List.append_assoc]
      rfl
    have hread : members fuel (quoted next ++ 0x3a :: text' ++ (tail' ++ 0x7d :: rest)) =
        some ((next, meaning') :: others', rest) :=
      ih hnext (by simp only [List.length_append, List.length_cons]; omega) hrest.stops
    rw [hcomma]
    dsimp only
    rw [hread]
    rfl

theorem value_of_members (h : token 0x7d s = none) (hmembers : members fuel s = some (ones, rest)) :
    value (fuel + 1) (0x7b :: s) = some (.object ones, rest) := by
  simp [value, skip, isBlank, h, hmembers]

/-- Members in braces are read as an object. -/
theorem read_of_joined (h : Denotes text meaning) (hjoined : Joined tail others) :
    read (0x7b :: (quoted key ++ 0x3a :: text ++ tail ++ [0x7d])) = some (.object ((key, meaning) :: others)) := by
  have hread : members (quoted key ++ 0x3a :: text ++ tail ++ [0x7d]).length.succ
      (quoted key ++ 0x3a :: text ++ (tail ++ [0x7d])) = some ((key, meaning) :: others, []) :=
    members_of_joined h hjoined (by simp only [List.length_append, List.length_cons, List.length_nil]; omega)
  rw [← List.append_assoc] at hread
  rw [read, List.length_cons, value_of_members rfl hread]
  rfl

end Json

end Fingerprint
