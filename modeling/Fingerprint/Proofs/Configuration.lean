import Mathlib.Data.List.TakeWhile
import Mathlib.Data.Nat.Digits.Defs
import Fingerprint.Configuration

/-!
# The grammar of the configuration

A variable asks for a text of its form: a decimal number within a range, or
one of the words for a flag. Texts that are no number, or no such word, are
malformed, and numbers elsewhere are out of range, however large they are.
What the documents ask for is written down as `Configuration.Ruled`: where
every variable that is set is as it should be, the fields are replaced;
otherwise the first variable that is not is named, and told to be malformed or
out of range.

A number is read from the digits at the front of a text. Where these denote
more than 64 bits hold, the text is taken for a number out of range, before
anybody asks whether something else than digits follows. Such a text is a
*runaway*: a malformed one that is told to be out of range.

* `Numeral.natural_of_digits`, `Numeral.natural_of_junk`: what is read from a text;
* `Configuration.overlay_of_accepted`, `Configuration.overlay_of_firstRefused`:
  the configuration, and the error, of every environment;
* `Configuration.overlay_ruled_iff`: they are the ones asked for, except where the
  first text that is not as it should be is a runaway.
-/

namespace Fingerprint

namespace Bytes

/-- A text is searched for what is not a digit, not all bytes that there are. -/
instance (s : Bytes) : Decidable (∀ b ∈ s, isDigit b) := List.decidableBAll _ s

/-- The decimal number of a text of digits, place by place. -/
def number (digits : Bytes) : Nat := Nat.ofDigits 10 (digits.map fun b => b.toNat - 48).reverse

theorem value_eq_number (digits : Bytes) : value digits = number digits := by
  rw [number, Nat.ofDigits_eq_foldr, List.foldr_reverse, List.foldl_map, value]
  congr 1
  funext n b
  simp [Nat.add_comm]

end Bytes

namespace Numeral

theorem leadingDigits_eq_self {s : Bytes} (digits : ∀ b ∈ s, Bytes.isDigit b) : leadingDigits s = s :=
  List.takeWhile_eq_self_iff.2 digits

theorem natural_of_digits {s : Bytes} (bound : Nat) (nonempty : s ≠ []) (digits : ∀ b ∈ s, Bytes.isDigit b) :
    natural bound s = if bound < Bytes.number s then .error .outOfRange else .ok (Bytes.number s) := by
  simp [natural, leadingDigits_eq_self digits, nonempty, Bytes.value_eq_number]

/-- Junk is found out only where the digits before it are not too many. -/
theorem natural_of_junk {s : Bytes} (bound : Nat) (junk : ¬ ∀ b ∈ s, Bytes.isDigit b) :
    natural bound s =
      if bound < Bytes.number (leadingDigits s) then .error .outOfRange else .error .malformed := by
  have shorter : (leadingDigits s).length ≠ s.length := fun same =>
    junk (List.takeWhile_eq_self_iff.1 ((List.takeWhile_prefix _).eq_of_length same))
  by_cases none : leadingDigits s = []
  · simp [natural, none, Bytes.number]
  · simp [natural, none, shorter, Bytes.value_eq_number]

end Numeral

namespace Configuration

/-! ## The form of a variable -/

/-- What the text of a variable has to be. -/
inductive Form where
  /-- A decimal number from `low` to `high`. -/
  | number (low high : Nat)
  | flag

namespace Form

/-- The text is a number, or a word for a flag. -/
def WellFormed : Form → Bytes → Prop
  | number _ _, text => text ≠ [] ∧ ∀ b ∈ text, Bytes.isDigit b
  | flag, text => text ∈ ["0", "1", "true", "false"].map Bytes.ofString

/-- A number lies within its range. -/
def InRange : Form → Bytes → Prop
  | number low high, text => low ≤ Bytes.number text ∧ Bytes.number text ≤ high
  | flag, _ => True

/-- The text is as it should be. -/
def Admits (form : Form) (text : Bytes) : Prop := form.WellFormed text ∧ form.InRange text

/-- Junk behind digits that denote more than 64 bits hold. -/
def Runaway : Form → Bytes → Prop
  | number _ _, text =>
    (¬ ∀ b ∈ text, Bytes.isDigit b) ∧ UInt64.size ≤ Bytes.number (Numeral.leadingDigits text)
  | flag, _ => False

instance : (form : Form) → (text : Bytes) → Decidable (form.WellFormed text)
  | number _ _, text => inferInstanceAs (Decidable (text ≠ [] ∧ ∀ b ∈ text, Bytes.isDigit b))
  | flag, text => inferInstanceAs (Decidable (text ∈ ["0", "1", "true", "false"].map Bytes.ofString))

instance : (form : Form) → (text : Bytes) → Decidable (form.InRange text)
  | number low high, text =>
    inferInstanceAs (Decidable (low ≤ Bytes.number text ∧ Bytes.number text ≤ high))
  | flag, _ => inferInstanceAs (Decidable True)

instance (form : Form) (text : Bytes) : Decidable (form.Admits text) :=
  inferInstanceAs (Decidable (_ ∧ _))

instance : (form : Form) → (text : Bytes) → Decidable (form.Runaway text)
  | number _ _, text => inferInstanceAs (Decidable ((¬ ∀ b ∈ text, Bytes.isDigit b) ∧
      UInt64.size ≤ Bytes.number (Numeral.leadingDigits text)))
  | flag, _ => inferInstanceAs (Decidable False)

/-- What a text that is not admitted is told to be. -/
def report (form : Form) (name : Bytes) (text : Bytes) : CodedError :=
  if form.WellFormed text ∨ form.Runaway text then .configValueOutOfRange name
  else .invalidConfigValue name

/-- A runaway is malformed. -/
theorem Runaway.not_wellFormed {form : Form} {text : Bytes} (h : form.Runaway text) :
    ¬ form.WellFormed text := by
  cases form with
  | number low high => exact fun well => h.1 well.2
  | flag => exact h.elim

end Form

/-- The variables that ask for a form, in the order they are looked at. -/
inductive Variable where
  | maxFailedAttempts
  | lockoutSeconds
  | enrollTimeoutSeconds
  | teardownOnReject
  deriving DecidableEq, Repr

namespace Variable

def name : Variable → String
  | maxFailedAttempts => "FPC_MAX_FAILED_ATTEMPTS"
  | lockoutSeconds => "FPC_LOCKOUT_SECONDS"
  | enrollTimeoutSeconds => "FPC_ENROLL_TIMEOUT_SECONDS"
  | teardownOnReject => "FPC_TEARDOWN_ON_REJECT"

def form : Variable → Form
  | maxFailedAttempts => .number 1 1000
  | lockoutSeconds => .number 1 86400
  | enrollTimeoutSeconds => .number 1 3600
  | teardownOnReject => .flag

/-- The place of a variable in the order. -/
def place : Variable → Nat
  | maxFailedAttempts => 0
  | lockoutSeconds => 1
  | enrollTimeoutSeconds => 2
  | teardownOnReject => 3

variable (v : Variable) (environment : Environment)

/-- The variable is unset, or as it should be. -/
def Accepted : Prop := ∀ text, environment.nonempty? v.name = some text → v.form.Admits text

/-- The variable is set to a text that is not as it should be. -/
def Refused (text : Bytes) : Prop := environment.nonempty? v.name = some text ∧ ¬ v.form.Admits text

/-- The variable is the first that is not as it should be. -/
def FirstRefused (text : Bytes) : Prop :=
  v.Refused environment text ∧ ∀ w : Variable, w.place < v.place → w.Accepted environment

theorem accepted_or_refused : v.Accepted environment ∨ ∃ text, v.Refused environment text := by
  by_cases h : ∃ text, v.Refused environment text
  · exact .inr h
  · exact .inl fun text given => by_contra fun not => h ⟨text, given, not⟩

end Variable

/-- Variables are refused only if there is a first one. -/
theorem accepted_or_firstRefused (environment : Environment) :
    (∀ v : Variable, v.Accepted environment) ∨
      ∃ (v : Variable) (text : Bytes), v.FirstRefused environment text := by
  classical
  by_cases h : ∃ n, ∃ v : Variable, v.place = n ∧ ∃ text, v.Refused environment text
  · obtain ⟨v, atFirst, text, refused⟩ := Nat.find_spec h
    refine .inr ⟨v, text, refused, fun w before => ?_⟩
    exact (w.accepted_or_refused environment).resolve_right fun refused' =>
      Nat.find_min h (atFirst ▸ before) ⟨w, rfl, refused'⟩
  · exact .inl fun v => (v.accepted_or_refused environment).resolve_right fun refused => h ⟨_, v, rfl, refused⟩

theorem Variable.FirstRefused.not_accepted {v : Variable} {environment : Environment} {text : Bytes}
    (h : v.FirstRefused environment text) : ¬ v.Accepted environment :=
  fun accepted => h.1.2 (accepted text h.1.1)

/-! ## What the documents ask for -/

/-- The base configuration, with the fields of the variables that are set replaced. -/
def overlaid (environment : Environment) (base : Configuration) : Configuration where
  maxFailedAttempts := ((environment.nonempty? Variable.maxFailedAttempts.name).map
    fun text => UInt32.ofNat (Bytes.number text)).getD base.maxFailedAttempts
  lockoutSeconds := ((environment.nonempty? Variable.lockoutSeconds.name).map
    fun text => (Bytes.number text : Int)).getD base.lockoutSeconds
  enrollTimeoutSeconds := ((environment.nonempty? Variable.enrollTimeoutSeconds.name).map
    fun text => (Bytes.number text : Int)).getD base.enrollTimeoutSeconds
  teardownOnReject := ((environment.nonempty? Variable.teardownOnReject.name).map
    fun text => decide (text ∈ ["1", "true"].map Bytes.ofString)).getD base.teardownOnReject
  dataRoot := (environment.nonempty? "FPC_DATA_ROOT").getD base.dataRoot

/-- The outcome is the one asked for. -/
inductive Ruled (environment : Environment) (base : Configuration) :
    Except CodedError Configuration → Prop
  | accepted : (∀ v : Variable, v.Accepted environment) →
      Ruled environment base (.ok (base.overlaid environment))
  | malformed {v : Variable} {text : Bytes} : v.FirstRefused environment text →
      ¬ v.form.WellFormed text → Ruled environment base (.error (.invalidConfigValue v.name))
  | outOfRange {v : Variable} {text : Bytes} : v.FirstRefused environment text →
      v.form.WellFormed text → Ruled environment base (.error (.configValueOutOfRange v.name))

/-! ## What is read -/

theorem parseNumber_of_digits (name : String) {low high : Nat} (small : high < UInt64.size)
    {text : Bytes} (nonempty : text ≠ []) (digits : ∀ b ∈ text, Bytes.isDigit b) :
    parseNumber name low high text =
      if low ≤ Bytes.number text ∧ Bytes.number text ≤ high then .ok (Bytes.number text)
      else .error (.configValueOutOfRange name) := by
  rw [parseNumber, Numeral.natural_of_digits _ nonempty digits]
  by_cases huge : UInt64.size - 1 < Bytes.number text
  · rw [if_pos huge, if_neg (by omega)]
  · rw [if_neg huge]
    by_cases within : low ≤ Bytes.number text ∧ Bytes.number text ≤ high
    · simp [within.1.not_gt, within.2.not_gt, within]
    · have out : Bytes.number text < low ∨ high < Bytes.number text := by omega
      simp [out, within]

theorem parseNumber_of_junk (name : String) (low high : Nat) {text : Bytes}
    (junk : ¬ ∀ b ∈ text, Bytes.isDigit b) :
    parseNumber name low high text =
      .error (if UInt64.size ≤ Bytes.number (Numeral.leadingDigits text) then .configValueOutOfRange name
        else .invalidConfigValue name) := by
  have size : 0 < UInt64.size := by decide
  rw [parseNumber, Numeral.natural_of_junk _ junk]
  by_cases huge : UInt64.size ≤ Bytes.number (Numeral.leadingDigits text)
  · rw [if_pos huge, if_pos (by omega)]
  · rw [if_neg huge, if_neg (by omega)]

/-- A parser takes the texts of a form for what they mean, and reports the others. -/
structure Reads {α : Type} (form : Form) (parse : String → Bytes → Except CodedError α)
    (meaning : Bytes → α) : Prop where
  admitted : ∀ (name : String) {text : Bytes}, form.Admits text → parse name text = .ok (meaning text)
  refused : ∀ (name : String) {text : Bytes}, text ≠ [] → ¬ form.Admits text →
    parse name text = .error (form.report name text)

theorem reads_parseNumber {low high : Nat} (small : high < UInt64.size) :
    Reads (.number low high) (parseNumber · low high) Bytes.number where
  admitted name text h := by
    obtain ⟨⟨nonempty, digits⟩, within⟩ := h
    exact (parseNumber_of_digits name small nonempty digits).trans (if_pos within)
  refused name text nonempty h := by
    by_cases digits : ∀ b ∈ text, Bytes.isDigit b
    · have well : (Form.number low high).WellFormed text := ⟨nonempty, digits⟩
      rw [Form.report, if_pos (.inl well)]
      exact (parseNumber_of_digits name small nonempty digits).trans (if_neg fun within => h ⟨well, within⟩)
    · have malformed : ¬ (Form.number low high).WellFormed text := fun well => digits well.2
      rw [parseNumber_of_junk name low high digits, Form.report]
      simp only [malformed, false_or, Form.Runaway, digits, not_false_eq_true, true_and]

theorem reads_parseFlag :
    Reads .flag parseFlag fun text => decide (text ∈ ["1", "true"].map Bytes.ofString) where
  admitted name text h := by
    obtain ⟨well, -⟩ := h
    simp only [Form.WellFormed, List.map_cons, List.map_nil, List.mem_cons, List.not_mem_nil, or_false]
      at well
    rcases well with rfl | rfl | rfl | rfl <;> rfl
  refused name text nonempty h := by
    have malformed : ¬ Form.flag.WellFormed text := fun well => h ⟨well, trivial⟩
    rw [Form.report, if_neg (by simp [malformed, Form.Runaway])]
    simp only [Form.WellFormed, List.map_cons, List.map_nil, List.mem_cons, List.not_mem_nil, or_false,
      not_or] at malformed
    simp [parseFlag, malformed]

section Stage

variable {α : Type} {form : Form} {v : Variable} {environment : Environment}
  {parse : String → Bytes → Except CodedError α} {meaning : Bytes → α}

theorem Reads.apply_of_accepted (reads : Reads form parse meaning) (kind : v.form = form)
    (accepted : v.Accepted environment) (set : Configuration → α → Configuration)
    (base : Configuration) :
    applyVariable environment v.name parse set base =
      .ok (((environment.nonempty? v.name).map meaning).elim base (set base)) := by
  subst kind
  cases given : environment.nonempty? v.name with
  | none => simp [applyVariable, given]
  | some text => simp [applyVariable, given, reads.admitted v.name (accepted text given), Except.map]

theorem Reads.apply_of_refused (reads : Reads form parse meaning) (kind : v.form = form) {text : Bytes}
    (refused : v.Refused environment text) (set : Configuration → α → Configuration)
    (base : Configuration) :
    applyVariable environment v.name parse set base = .error (v.form.report v.name text) := by
  subst kind
  obtain ⟨given, bad⟩ := refused
  have nonempty : text ≠ [] := by
    rintro rfl
    simp [Environment.nonempty?, Option.filter_eq_some_iff] at given
  simp [applyVariable, given, reads.refused v.name nonempty bad, Except.map]

end Stage

/-! ## The whole environment -/

namespace Variable

/-- What is done about one variable. -/
def apply (environment : Environment) : Variable → Configuration → Except CodedError Configuration
  | maxFailedAttempts => applyVariable environment maxFailedAttempts.name (parseNumber · 1 1000)
      fun c n => { c with maxFailedAttempts := UInt32.ofNat n }
  | lockoutSeconds => applyVariable environment lockoutSeconds.name (parseNumber · 1 86400)
      fun c n => { c with lockoutSeconds := n }
  | enrollTimeoutSeconds => applyVariable environment enrollTimeoutSeconds.name (parseNumber · 1 3600)
      fun c n => { c with enrollTimeoutSeconds := n }
  | teardownOnReject => applyVariable environment teardownOnReject.name parseFlag
      fun c flag => { c with teardownOnReject := flag }

/-- The configuration with the field of one variable replaced, if it is set. -/
def replace (environment : Environment) : Variable → Configuration → Configuration
  | maxFailedAttempts, base => { base with
      maxFailedAttempts := (base.overlaid environment).maxFailedAttempts }
  | lockoutSeconds, base => { base with lockoutSeconds := (base.overlaid environment).lockoutSeconds }
  | enrollTimeoutSeconds, base => { base with
      enrollTimeoutSeconds := (base.overlaid environment).enrollTimeoutSeconds }
  | teardownOnReject, base => { base with
      teardownOnReject := (base.overlaid environment).teardownOnReject }

variable {environment : Environment} {v : Variable} (base : Configuration)

theorem apply_of_accepted (accepted : v.Accepted environment) :
    v.apply environment base = .ok (v.replace environment base) := by
  cases v with
  | maxFailedAttempts =>
    rw [apply, (reads_parseNumber (by decide)).apply_of_accepted rfl accepted, replace, overlaid]
    cases environment.nonempty? maxFailedAttempts.name <;> rfl
  | lockoutSeconds =>
    rw [apply, (reads_parseNumber (by decide)).apply_of_accepted rfl accepted, replace, overlaid]
    cases environment.nonempty? lockoutSeconds.name <;> rfl
  | enrollTimeoutSeconds =>
    rw [apply, (reads_parseNumber (by decide)).apply_of_accepted rfl accepted, replace, overlaid]
    cases environment.nonempty? enrollTimeoutSeconds.name <;> rfl
  | teardownOnReject =>
    rw [apply, reads_parseFlag.apply_of_accepted rfl accepted, replace, overlaid]
    cases environment.nonempty? teardownOnReject.name <;> rfl

theorem apply_of_refused {text : Bytes} (refused : v.Refused environment text) :
    v.apply environment base = .error (v.form.report v.name text) := by
  cases v with
  | maxFailedAttempts =>
    rw [apply, (reads_parseNumber (by decide)).apply_of_refused rfl refused]
  | lockoutSeconds =>
    rw [apply, (reads_parseNumber (by decide)).apply_of_refused rfl refused]
  | enrollTimeoutSeconds =>
    rw [apply, (reads_parseNumber (by decide)).apply_of_refused rfl refused]
  | teardownOnReject =>
    rw [apply, reads_parseFlag.apply_of_refused rfl refused]

end Variable

variable {environment : Environment} (base : Configuration)

/-- The variables that ask for a form come first, one after the other. -/
theorem overlay_eq : overlay environment base = (do
    let base ← Variable.maxFailedAttempts.apply environment base
    let base ← Variable.lockoutSeconds.apply environment base
    let base ← Variable.enrollTimeoutSeconds.apply environment base
    let base ← Variable.teardownOnReject.apply environment base
    .ok { base with dataRoot := (environment.nonempty? "FPC_DATA_ROOT").getD base.dataRoot }) := by
  have root (base : Configuration) :
      applyVariable environment "FPC_DATA_ROOT" (fun _ text => .ok text)
        (fun c root => { c with dataRoot := root }) base =
      .ok { base with dataRoot := (environment.nonempty? "FPC_DATA_ROOT").getD base.dataRoot } := by
    rw [applyVariable]
    cases environment.nonempty? "FPC_DATA_ROOT" <;> rfl
  rw [overlay]
  simp only [root]
  rfl

/-- Where every variable is as it should be, exactly the fields of those that are set are replaced. -/
theorem overlay_of_accepted (accepted : ∀ v : Variable, v.Accepted environment) :
    overlay environment base = .ok (base.overlaid environment) := by
  simp only [overlay_eq, Variable.apply_of_accepted _ (accepted _), bind, Except.bind]
  rfl

/-- Otherwise the first variable that is not as it should be is named. -/
theorem overlay_of_firstRefused {v : Variable} {text : Bytes} (first : v.FirstRefused environment text) :
    overlay environment base = .error (v.form.report v.name text) := by
  obtain ⟨refused, before⟩ := first
  have here (base : Configuration) := Variable.apply_of_refused base refused
  have earlier (w : Variable) (h : w.place < v.place) (base : Configuration) :=
    Variable.apply_of_accepted base (before w h)
  cases v with
  | maxFailedAttempts => simp only [overlay_eq, here, bind, Except.bind]
  | lockoutSeconds =>
    simp only [overlay_eq, here, earlier .maxFailedAttempts (by decide), bind, Except.bind]
  | enrollTimeoutSeconds =>
    simp only [overlay_eq, here, earlier .maxFailedAttempts (by decide),
      earlier .lockoutSeconds (by decide), bind, Except.bind]
  | teardownOnReject =>
    simp only [overlay_eq, here, earlier .maxFailedAttempts (by decide),
      earlier .lockoutSeconds (by decide), earlier .enrollTimeoutSeconds (by decide), bind, Except.bind]

theorem overlay_of_runaway {v : Variable} {text : Bytes} (first : v.FirstRefused environment text)
    (runaway : v.form.Runaway text) :
    overlay environment base = .error (.configValueOutOfRange v.name) := by
  rw [overlay_of_firstRefused base first, Form.report, if_pos (.inr runaway)]

/-- There is one first variable, with one text. -/
theorem Variable.FirstRefused.unique {v w : Variable} {text other : Bytes}
    (first : v.FirstRefused environment text) (second : w.FirstRefused environment other) :
    v = w ∧ text = other := by
  have notBefore : ¬ w.place < v.place := fun h => second.not_accepted (first.2 w h)
  have notAfter : ¬ v.place < w.place := fun h => first.not_accepted (second.2 v h)
  have same : v = w := by
    cases v <;> cases w <;> simp_all [Variable.place]
  subst same
  exact ⟨rfl, Option.some.inj (first.1.1.symm.trans second.1.1)⟩

/-- A text that is no runaway is told to be what it is. -/
theorem overlay_ruled {v : Variable} {text : Bytes} (first : v.FirstRefused environment text)
    (tame : ¬ v.form.Runaway text) : Ruled environment base (overlay environment base) := by
  rw [overlay_of_firstRefused base first, Form.report]
  by_cases well : v.form.WellFormed text
  · rw [if_pos (.inl well)]
    exact .outOfRange first well
  · rw [if_neg (not_or.2 ⟨well, tame⟩)]
    exact .malformed first well

theorem not_ruled_of_runaway {v : Variable} {text : Bytes} (first : v.FirstRefused environment text)
    (runaway : v.form.Runaway text) : ¬ Ruled environment base (overlay environment base) := by
  rw [overlay_of_runaway base first runaway]
  intro ruled
  generalize told : Except.error (CodedError.configValueOutOfRange v.name) = outcome at ruled
  cases ruled with
  | accepted _ => simp at told
  | malformed _ _ =>
    simp [CodedError.configValueOutOfRange, CodedError.invalidConfigValue, ErrorDomain.code] at told
  | outOfRange other well =>
    obtain ⟨rfl, rfl⟩ := other.unique first
    exact runaway.not_wellFormed well

/-- The configuration is read from the environment exactly if every variable is as it should be,
    and the outcome is the one asked for, except where the first text that is not as it should
    be is a runaway: that one is told to be out of range. -/
theorem overlay_ruled_iff (environment : Environment) (base : Configuration) :
    ((∃ c, overlay environment base = .ok c) ↔ ∀ v : Variable, v.Accepted environment) ∧
    (Ruled environment base (overlay environment base) ↔
      ∀ (v : Variable) (text : Bytes), v.FirstRefused environment text → ¬ v.form.Runaway text) ∧
    ∀ (v : Variable) (text : Bytes), v.FirstRefused environment text → v.form.Runaway text →
      overlay environment base = .error (.configValueOutOfRange v.name) := by
  refine ⟨?_, ⟨fun ruled v text first runaway => not_ruled_of_runaway base first runaway ruled, ?_⟩, ?_⟩
  · rcases accepted_or_firstRefused environment with accepted | ⟨v, text, first⟩
    · simp [overlay_of_accepted base accepted, accepted]
    · simp only [overlay_of_firstRefused base first, reduceCtorEq, exists_false, false_iff, not_forall]
      exact ⟨v, first.not_accepted⟩
  · intro tame
    rcases accepted_or_firstRefused environment with accepted | ⟨v, text, first⟩
    · rw [overlay_of_accepted base accepted]
      exact .accepted accepted
    · exact overlay_ruled base first (tame v text first)
  · exact fun v text first runaway => overlay_of_runaway base first runaway

/-- Twenty digits and a letter. -/
def runawayEnvironment : Environment :=
  Environment.ofList [("FPC_LOCKOUT_SECONDS", Bytes.ofString "99999999999999999999x")]

theorem firstRefused_runaway :
    Variable.lockoutSeconds.FirstRefused runawayEnvironment (Bytes.ofString "99999999999999999999x") := by
  refine ⟨⟨by decide, by decide⟩, fun w before => ?_⟩
  have unset : runawayEnvironment.nonempty? Variable.maxFailedAttempts.name = none := by decide
  cases w with
  | maxFailedAttempts => simp [Variable.Accepted, unset]
  | _ => simp [Variable.place] at before

/-- A malformed text is told to be a number out of range. -/
theorem not_ruled_of_overlong_junk :
    overlay runawayEnvironment {} = .error (.configValueOutOfRange ("FPC_LOCKOUT_SECONDS" : String)) ∧
      ¬ Ruled runawayEnvironment {} (overlay runawayEnvironment {}) := by
  refine ⟨by rfl, ?_⟩
  exact not_ruled_of_runaway _ firstRefused_runaway (by decide)

end Configuration

end Fingerprint
