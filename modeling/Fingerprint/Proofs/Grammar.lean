import Fingerprint.Proofs.Configuration
import Fingerprint.Simulator.Command

/-!
# The grammar of commands

A line spells words: runs of letters, with blanks in between, and where there
is no blank, the word goes on. What words ask for is written down as a grammar,
one clause for each command. Some commands are asked for by their names alone,
whatever follows; the others want exactly their arguments, each a numeral that
denotes a number of 32 bits. A numeral is made of digits, with a minus sign in
front if a negative number may be meant, and of nothing else.

The simulator's reader takes every line apart in the one way in which it can be
spelled, and finds in it the one command that the words ask for, if there is
one.

* `Numeral.int32?_eq_some_iff`, `Numeral.uint32?_eq_some_iff`: the numerals that are read;
* `Bytes.spells_iff`: the words of a line are those that it spells;
* `Simulator.Command.Asks`: what words ask for;
* `Simulator.Command.Asks.ofWords_eq`, `Simulator.Command.ofWords_eq_unrecognized_iff`: the command that is
  found is the one that is asked for, and none is found only where none is.
-/

namespace Fingerprint

/-! ## Numerals -/

namespace Numeral

variable {text : Bytes} {bound n : Nat}

/-- The text is made of digits, one at least. -/
def Digits (text : Bytes) : Prop := text ≠ [] ∧ ∀ b ∈ text, Bytes.isDigit b

/-- The text denotes an unsigned number. -/
def Unsigned (text : Bytes) (n : UInt32) : Prop := Digits text ∧ n.toNat = Bytes.number text

/-- The text denotes a signed number. -/
inductive Signed : Bytes → Int32 → Prop
  | plain {digits : Bytes} {n : Int32} (hdigits : Digits digits) (hn : n.toInt = Bytes.number digits) :
      Signed digits n
  | negated {digits : Bytes} {n : Int32} (hdigits : Digits digits) (hn : n.toInt = -Bytes.number digits) :
      Signed (45 :: digits) n

theorem natural_eq_ok_iff : natural bound text = .ok n ↔ Digits text ∧ Bytes.number text = n ∧ n ≤ bound := by
  by_cases hdigits : ∀ b ∈ text, Bytes.isDigit b
  · by_cases hempty : text = []
    · simp [hempty, natural, leadingDigits, Digits]
    · rw [natural_of_digits bound hempty hdigits]
      have hspelled : Digits text := ⟨hempty, hdigits⟩
      split
      · next hlarge =>
        simp only [reduceCtorEq, hspelled, true_and, false_iff, not_and, Nat.not_le]
        exact fun hn => hn ▸ hlarge
      · next hsmall =>
        simp only [Except.ok.injEq, hspelled, true_and, iff_self_and]
        exact fun hn => hn ▸ Nat.not_lt.1 hsmall
  · rw [natural_of_junk bound hdigits]
    split <;> simp [Digits, hdigits]

theorem uint32?_eq_some_iff {n : UInt32} : uint32? text = some n ↔ Unsigned text n := by
  have hread : uint32? text = some n ↔ natural (UInt32.size - 1) text = .ok n.toNat := by
    rw [uint32?]
    cases hnatural : natural (UInt32.size - 1) text with
    | error misreading => simp
    | ok m =>
      have hm : m < UInt32.size := by
        have := (natural_eq_ok_iff.1 hnatural).2.2
        simp only [UInt32.size] at this ⊢
        omega
      simp only [Option.some.injEq, Except.ok.injEq]
      exact ⟨fun h => by rw [← h, UInt32.toNat_ofNat_of_lt' hm], fun h => by rw [h, UInt32.ofNat_toNat]⟩
  have hbound := n.toNat_lt
  rw [hread, natural_eq_ok_iff, Unsigned]
  simp only [UInt32.size, eq_comm (a := Bytes.number text)]
  constructor
  · exact fun h => ⟨h.1, h.2.1⟩
  · exact fun h => ⟨h.1, h.2, by omega⟩

theorem not_digits_minus (rest : Bytes) : ¬Digits (45 :: rest) := fun h =>
  absurd (h.2 45 List.mem_cons_self) (by decide)

/-- An integer is read from digits, or from a minus sign and digits. -/
theorem integer_eq_ok_iff {low high : Nat} {m : Int} :
    integer low high text = .ok m ↔
      (Digits text ∧ m = Bytes.number text ∧ Bytes.number text ≤ high) ∨
        ∃ digits, text = 45 :: digits ∧ Digits digits ∧ m = -Bytes.number digits ∧ Bytes.number digits ≤ low := by
  rw [integer.eq_def]
  split
  · next digits =>
    have hread : (natural low digits).map (fun n => -(n : Int)) = .ok m ↔
        ∃ n, natural low digits = .ok n ∧ -(n : Int) = m := by
      cases natural low digits <;> simp [Except.map]
    simp only [hread, natural_eq_ok_iff, not_digits_minus, false_and, false_or, List.cons.injEq, true_and,
      exists_eq_left']
    constructor
    · rintro ⟨n, ⟨hdigits, rfl, hn⟩, rfl⟩
      exact ⟨hdigits, rfl, hn⟩
    · rintro ⟨hdigits, rfl, hn⟩
      exact ⟨_, ⟨hdigits, rfl, hn⟩, rfl⟩
  · next hplain =>
    have hread : (natural high text).map (fun n => (n : Int)) = .ok m ↔
        ∃ n, natural high text = .ok n ∧ (n : Int) = m := by
      cases natural high text <;> simp [Except.map]
    rw [hread]
    constructor
    · rintro ⟨n, hn, rfl⟩
      obtain ⟨hdigits, rfl, hn⟩ := natural_eq_ok_iff.1 hn
      exact .inl ⟨hdigits, rfl, hn⟩
    · rintro (⟨hdigits, rfl, hn⟩ | ⟨digits, htext, -⟩)
      · exact ⟨_, natural_eq_ok_iff.2 ⟨hdigits, rfl, hn⟩, rfl⟩
      · exact absurd htext (hplain digits)

theorem int32?_eq_some_iff {n : Int32} : int32? text = some n ↔ Signed text n := by
  have hlow := n.le_toInt
  have hhigh := n.toInt_lt
  have hread : int32? text = some n ↔ integer 0x80000000 0x7fffffff text = .ok n.toInt := by
    rw [int32?]
    cases hinteger : integer 0x80000000 0x7fffffff text with
    | error misreading => simp
    | ok m =>
      have hm : -2 ^ 31 ≤ m ∧ m < 2 ^ 31 := by
        rcases integer_eq_ok_iff.1 hinteger with ⟨-, rfl, hn⟩ | ⟨digits, -, -, rfl, hn⟩ <;> omega
      simp only [Option.some.injEq, Except.ok.injEq]
      exact ⟨fun h => by rw [← h, Int32.toInt_ofInt_of_le hm.1 hm.2], fun h => by rw [h, Int32.ofInt_toInt]⟩
  rw [hread, integer_eq_ok_iff]
  constructor
  · rintro (⟨hdigits, hn, -⟩ | ⟨digits, rfl, hdigits, hn, -⟩)
    · exact .plain hdigits hn
    · exact .negated hdigits hn
  · intro h
    cases h with
    | plain hdigits hn => exact .inl ⟨hdigits, hn, by omega⟩
    | negated hdigits hn => exact .inr ⟨_, rfl, hdigits, hn, by omega⟩

/-- A numeral may have zeros in front, and zero a minus sign. -/
example : int32? "-2147483648" = some (-2147483648) ∧ int32? "-0" = some 0 ∧ uint32? "004294967295" = some 4294967295 ∧
    int32? "2147483648" = none ∧ int32? "+1" = none ∧ uint32? "-1" = none ∧ int32? "-" = none := by
  decide

end Numeral

/-! ## Words -/

namespace Bytes

/-- White space: tab, newline, vertical tab, form feed, carriage return and space. -/
def blanks : Bytes := [9, 10, 11, 12, 13, 32]

theorem isBlank_iff {b : UInt8} : isBlank b = true ↔ b ∈ blanks := by
  simp only [isBlank, blanks, Bool.or_eq_true, beq_iff_eq, Bool.and_eq_true, decide_eq_true_eq, List.mem_cons,
    List.not_mem_nil, or_false, UInt8.le_iff_toNat_le, ← UInt8.toNat_inj, UInt8.reduceToNat]
  omega

/-- A line spells its words one by one: before each there may be blanks, and after it comes a
    blank, or nothing. -/
inductive Spells : Bytes → List Bytes → Prop
  | blank {line : Bytes} (hblank : line ⊆ blanks) : Spells line []
  | word {before word after : Bytes} {words : List Bytes} (hbefore : before ⊆ blanks) (hword : word ≠ [])
      (hletters : ∀ b ∈ word, b ∉ blanks) (hends : ∀ b ∈ after.head?, b ∈ blanks) (hafter : Spells after words) :
      Spells (before ++ word ++ after) (word :: words)

variable {line word after : Bytes} {words : List Bytes}

theorem wordsFrom_blanks (hblank : line ⊆ blanks) (rest : Bytes) :
    wordsFrom [] (line ++ rest) = wordsFrom [] rest := by
  induction line with
  | nil => rfl
  | cons b line ih =>
    obtain ⟨hb, hblank⟩ := List.cons_subset.1 hblank
    rw [List.cons_append, wordsFrom, if_pos (isBlank_iff.2 hb)]
    exact ih hblank

theorem wordsFrom_letters (hletters : ∀ b ∈ line, b ∉ blanks) (word rest : Bytes) :
    wordsFrom word (line ++ rest) = wordsFrom (word ++ line) rest := by
  induction line generalizing word with
  | nil => rw [List.nil_append, List.append_nil]
  | cons b line ih =>
    obtain ⟨hb, hletters⟩ := List.forall_mem_cons.1 hletters
    rw [List.cons_append, wordsFrom, if_neg (mt isBlank_iff.1 hb), ih hletters, List.append_assoc,
      List.singleton_append]

/-- Where no letter follows, the word is complete. -/
theorem wordsFrom_ends (hword : word ≠ []) (hends : ∀ b ∈ after.head?, b ∈ blanks) :
    wordsFrom word after = word :: wordsFrom [] after := by
  cases after with
  | nil => simp [wordsFrom, hword]
  | cons b rest => simp [wordsFrom, hword, isBlank_iff.2 (hends b rfl)]

theorem Spells.words_eq (h : Spells line words) : line.words = words := by
  induction h with
  | blank hblank =>
    have hsplit := wordsFrom_blanks hblank []
    rwa [List.append_nil] at hsplit
  | word hbefore hword hletters hends _ ih =>
    rw [Bytes.words, List.append_assoc, wordsFrom_blanks hbefore, wordsFrom_letters hletters, List.nil_append,
      wordsFrom_ends hword hends]
    exact congrArg _ ih

/-- A blank in front makes no difference. -/
theorem Spells.cons_blank {b : UInt8} (hb : b ∈ blanks) (h : Spells line words) : Spells (b :: line) words := by
  cases h with
  | blank hblank => exact .blank (List.cons_subset.2 ⟨hb, hblank⟩)
  | word hbefore hword hletters hends hafter =>
    exact .word (List.cons_subset.2 ⟨hb, hbefore⟩) hword hletters hends hafter

/-- A line may begin with a word. -/
theorem Spells.word_append (hword : word ≠ []) (hletters : ∀ b ∈ word, b ∉ blanks)
    (hends : ∀ b ∈ after.head?, b ∈ blanks) (hafter : Spells after words) :
    Spells (word ++ after) (word :: words) :=
  .word (List.nil_subset _) hword hletters hends hafter

/-- Behind the letters of a word that has begun, a line spells what is split off. -/
theorem spells_wordsFrom (word : Bytes) (hletters : ∀ b ∈ word, b ∉ blanks) (line : Bytes) :
    Spells (word ++ line) (wordsFrom word line) := by
  induction line generalizing word with
  | nil =>
    by_cases hword : word = []
    · rw [hword]
      exact .blank (List.nil_subset _)
    · have hends := wordsFrom_ends hword fun b (hb : b ∈ ([] : Bytes).head?) => nomatch hb
      rw [hends]
      exact .word_append hword hletters nofun (.blank (List.nil_subset _))
  | cons b rest ih =>
    by_cases hb : b ∈ blanks
    · have hrest : Spells (b :: rest) (wordsFrom [] (b :: rest)) := by
        rw [wordsFrom, if_pos (isBlank_iff.2 hb)]
        exact (ih [] nofun).cons_blank hb
      have hends : ∀ c ∈ (b :: rest).head?, c ∈ blanks := by
        rintro c ⟨⟩
        exact hb
      by_cases hword : word = []
      · rwa [hword]
      · rw [wordsFrom_ends hword hends]
        exact .word_append hword hletters hends hrest
    · have hmore : ∀ c ∈ word ++ [b], c ∉ blanks :=
        List.forall_mem_append.2 ⟨hletters, List.forall_mem_singleton.2 hb⟩
      have hgoes := ih (word ++ [b]) hmore
      rw [wordsFrom, if_neg (mt isBlank_iff.1 hb)]
      rwa [List.append_assoc] at hgoes

theorem spells_iff : Spells line words ↔ words = line.words :=
  ⟨fun h => h.words_eq.symm, fun h => h ▸ spells_wordsFrom [] nofun line⟩

end Bytes

/-! ## Commands -/

namespace Simulator

namespace Command

open Numeral (Signed Unsigned)

/-- What words ask for. -/
inductive Asks : List Bytes → Command → Prop
  | quit (rest : List Bytes) : Asks ("quit" :: rest) .quit
  | exit (rest : List Bytes) : Asks ("exit" :: rest) .quit
  | help (rest : List Bytes) : Asks ("help" :: rest) .help
  | cancelEnrollment (rest : List Bytes) : Asks ("cancel-enroll" :: rest) .cancelEnrollment
  | cancelAuthentication (rest : List Bytes) : Asks ("cancel-auth" :: rest) .cancelAuthentication
  | killDriver (rest : List Bytes) : Asks ("kill-driver" :: rest) .killDriver
  | killCaller (rest : List Bytes) : Asks ("kill-caller" :: rest) .killCaller
  | enroll {s : Bytes} {subject : Int32} (h : Signed s subject) : Asks ["enroll", s] (.enroll subject)
  | authenticate {s : Bytes} {subject : Int32} (h : Signed s subject) : Asks ["auth", s] (.authenticate subject)
  | switchTo {s : Bytes} {subject : Int32} (h : Signed s subject) : Asks ["user", s] (.switchTo subject)
  | list {s : Bytes} {subject : Int32} (h : Signed s subject) : Asks ["list", s] (.list subject)
  | error {c : Bytes} {code : Int32} (h : Signed c code) : Asks ["error", c] (.error code)
  | touch {i : Bytes} {id : UInt32} (h : Unsigned i id) : Asks ["touch", i] (.touch id)
  | remove {s i : Bytes} {subject : Int32} {id : UInt32} (hsubject : Signed s subject) (hid : Unsigned i id) :
      Asks ["remove", s, i] (.remove subject id)
  | progress {i n : Bytes} {id : UInt32} {remaining : Int32} (hid : Unsigned i id) (hremaining : Signed n remaining) :
      Asks ["progress", i, n] (.progress id remaining)
  | removed {i s : Bytes} {id : UInt32} {subject : Int32} (hid : Unsigned i id) (hsubject : Signed s subject) :
      Asks ["removed", i, s] (.removed id subject)

variable {words arguments : List Bytes} {name : Bytes} {command : Command}

theorem Asks.ofWords_eq (h : Asks words command) : ofWords words = command := by
  cases h with
  | quit | exit | help | cancelEnrollment | cancelAuthentication | killDriver | killCaller => rfl
  | enroll h | authenticate h | switchTo h | list h | error h =>
    simp only [ofWords, withArguments, Numeral.int32?_eq_some_iff.2 h]
    rfl
  | touch h =>
    simp only [ofWords, withArguments, Numeral.uint32?_eq_some_iff.2 h]
    rfl
  | remove hsubject hid | progress hid hsubject | removed hid hsubject =>
    simp only [ofWords, withArguments, Numeral.int32?_eq_some_iff.2 hsubject, Numeral.uint32?_eq_some_iff.2 hid]
    rfl

/-- Two readers in a row succeed where both do. -/
theorem seq_eq_some {α β γ : Type} {f : α → β → γ} {first : Option α} {second : Option β} {c : γ} :
    f <$> first <*> second = some c ↔ ∃ a, first = some a ∧ ∃ b, second = some b ∧ f a b = c := by
  cases first <;> cases second <;> simp [Seq.seq]

theorem asks_of_withArguments (h : withArguments name arguments = some command) :
    Asks (name :: arguments) command := by
  rw [withArguments.eq_def] at h
  split at h
  · split_ifs at h with hname hname hname hname hname hname <;>
      obtain ⟨n, hn, rfl⟩ := Option.map_eq_some_iff.1 h <;> subst hname
    · exact .enroll (Numeral.int32?_eq_some_iff.1 hn)
    · exact .authenticate (Numeral.int32?_eq_some_iff.1 hn)
    · exact .touch (Numeral.uint32?_eq_some_iff.1 hn)
    · exact .error (Numeral.int32?_eq_some_iff.1 hn)
    · exact .switchTo (Numeral.int32?_eq_some_iff.1 hn)
    · exact .list (Numeral.int32?_eq_some_iff.1 hn)
  · split_ifs at h with hname hname hname <;>
      obtain ⟨m, hm, n, hn, rfl⟩ := seq_eq_some.1 h <;> subst hname
    · exact .remove (Numeral.int32?_eq_some_iff.1 hm) (Numeral.uint32?_eq_some_iff.1 hn)
    · exact .progress (Numeral.uint32?_eq_some_iff.1 hm) (Numeral.int32?_eq_some_iff.1 hn)
    · exact .removed (Numeral.uint32?_eq_some_iff.1 hm) (Numeral.int32?_eq_some_iff.1 hn)
  · cases h

theorem asks_ofWords (hwords : words ≠ []) (hfound : ofWords words ≠ .unrecognized) :
    Asks words (ofWords words) := by
  cases words with
  | nil => exact absurd rfl hwords
  | cons name arguments =>
    revert hfound
    rw [ofWords]
    split_ifs with hhelp hquit hcancel hcancel hkill hkill <;> intro hfound
    · exact hhelp ▸ .help arguments
    · rw [Bool.or_eq_true, decide_eq_true_eq, decide_eq_true_eq] at hquit
      rcases hquit with rfl | rfl
      · exact .quit arguments
      · exact .exit arguments
    · exact hcancel ▸ .cancelEnrollment arguments
    · exact hcancel ▸ .cancelAuthentication arguments
    · exact hkill ▸ .killDriver arguments
    · exact hkill ▸ .killCaller arguments
    · cases hread : withArguments name arguments with
      | none => exact absurd (congrArg (·.getD .unrecognized) hread) hfound
      | some command => exact asks_of_withArguments hread

theorem ofWords_eq_skip_iff : ofWords words = .skip ↔ words = [] := by
  constructor
  · intro h
    by_contra hwords
    have hasks := asks_ofWords hwords (by rw [h]; nofun)
    rw [h] at hasks
    cases hasks
  · rintro rfl
    rfl

theorem ofWords_eq_unrecognized_iff : ofWords words = .unrecognized ↔ words ≠ [] ∧ ∀ command, ¬Asks words command := by
  constructor
  · intro h
    refine ⟨?_, fun command hasks => ?_⟩
    · rintro rfl
      cases h
    · have hcommand := hasks.ofWords_eq
      rw [h] at hcommand
      subst hcommand
      cases hasks
  · rintro ⟨hwords, hnone⟩
    by_contra hfound
    exact hnone _ (asks_ofWords hwords hfound)

end Command

end Simulator

end Fingerprint
