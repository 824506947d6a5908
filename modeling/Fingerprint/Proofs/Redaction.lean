import Mathlib.Data.List.Forall2
import Fingerprint.Digest.Sha256
import Fingerprint.Event.Json

/-!
# What a line keeps to itself

Two events differ in nothing but what is to be concealed: the values of
redacted fields, and of hashed ones where neither is empty and the digests
begin with the same eight bytes. Whether such a value is a number may differ
as well. Then the lines of the two events are the same, byte by byte, and so are
the complaints made on the way. A provider that always fails tells values
even less apart: whatever not empty is hashed, the lines are the same. But each
complaint gives the code of the failure. So the complaints tell values apart
if their failures differ in that.

The lines are compared piece by piece. What two pieces have in common is
that the same is written, with complaints that correspond to each other
(`Written.Agree`), and this is kept when pieces are put together.

* `Field.Concealed`, `Event.Concealed`: events that differ in what is concealed;
* `Written.Agree.andThen`, `Event.Json.agree_format`: one piece after the other;
* `Crypto.FailsAlike`: failures that give nothing away;
* `Event.Json.conceals`: neither lines nor complaints tell such events apart;
* `Event.Json.not_conceals_of_telling`: but complaints do where the codes do.
-/

namespace Fingerprint

variable {crypto : Crypto} {related : Bytes → Bytes → Prop} {P : Bytes → Bytes → Prop}

/-- The first digits are those of the first bytes. -/
theorem Bytes.take_hex (n : Nat) (s : Bytes) : (hex s).take (2 * n) = hex (s.take n) := by
  induction n generalizing s with
  | zero => rfl
  | succ n ih =>
    cases s with
    | nil => rfl
    | cons b s =>
      rw [List.take_succ_cons, hex, hex, List.flatMap_cons, List.flatMap_cons, ← hex, ← hex, ← ih]
      rfl

/-! ## Providers -/

namespace Crypto

/-- A provider that computes SHA-256. -/
def Digests (crypto : Crypto) : Prop := ∀ message, crypto.sha256 message = .ok (Sha256.digest message)

/-- A provider that always fails to hash, with a coded error. -/
def Fails (crypto : Crypto) : Prop := ∀ message, ∃ error, crypto.sha256 message = .error (.coded error)

/-- A provider that always fails to hash, with the same code for related messages. -/
structure FailsAlike (crypto : Crypto) (related : Bytes → Bytes → Prop) : Prop where
  fails : crypto.Fails
  code_eq : ∀ {message message' : Bytes} {error error' : CodedError}, related message message' →
    crypto.sha256 message = .error (.coded error) → crypto.sha256 message' = .error (.coded error') →
    error.code = error'.code

end Crypto

/-- The digests of two values begin with the same eight bytes. -/
def Sha256.Matches (value value' : Bytes) : Prop := (digest value).take 8 = (digest value').take 8

/-! ## What is concealed -/

/-- Values that are to be told apart by nothing but whether they are empty, if they are related. -/
def Bytes.Veiled (related : Bytes → Bytes → Prop) (value value' : Bytes) : Prop :=
  value = value' ∨ value ≠ [] ∧ value' ≠ [] ∧ related value value'

/-- Two fields are the same, or differ in what is concealed of them. -/
inductive Field.Concealed (related : Bytes → Bytes → Prop) : Field → Field → Prop
  | same (field : Field) : Concealed related field field
  | redacted (key value value' : Bytes) (numeric numeric' : Bool) :
    Concealed related ⟨key, value, .redact, numeric⟩ ⟨key, value', .redact, numeric'⟩
  | hashed (key : Bytes) {value value' : Bytes} (numeric numeric' : Bool)
    (veiled : Bytes.Veiled related value value') :
    Concealed related ⟨key, value, .hash, numeric⟩ ⟨key, value', .hash, numeric'⟩

/-- Two events are the same, or differ in what is concealed of their fields. -/
structure Event.Concealed (related : Bytes → Bytes → Prop) (event event' : Event) : Prop where
  category : event'.category = event.category
  severity : event'.severity = event.severity
  id : event'.id = event.id
  message : event'.message = event.message
  fields : List.Forall₂ (Field.Concealed related) event.fields event'.fields

theorem Bytes.Veiled.nil_or {value value' : Bytes} (h : Veiled related value value') :
    (value = [] ∧ value' = []) ∨ value ≠ [] ∧ value' ≠ [] ∧ (value = value' ∨ related value value') := by
  rcases h with rfl | ⟨given, given', alike⟩
  · by_cases none : value = []
    · exact .inl ⟨none, none⟩
    · exact .inr ⟨none, none, .inl rfl⟩
  · exact .inr ⟨given, given', .inr alike⟩

/-! ## Pieces of a line -/

/-- The same is written, with complaints that correspond to each other. -/
structure Written.Agree (P : Bytes → Bytes → Prop) (w w' : Written) : Prop where
  complaints : List.Forall₂ P w.complaints w'.complaints
  outcome : ∃ s, w.outcome = .ok s ∧ w'.outcome = .ok s

namespace Written.Agree

variable {w w' : Written} {next next' : Bytes → Written}

theorem done (s : Bytes) : (Written.done s).Agree P (Written.done s) := ⟨.nil, s, rfl, rfl⟩

theorem andThen (h : w.Agree P w') (later : ∀ s, (next s).Agree P (next' s)) :
    (w.andThen next).Agree P (w'.andThen next') := by
  obtain ⟨complaints, s, written, written'⟩ := h
  rw [Written.andThen, Written.andThen, written, written']
  exact ⟨List.rel_append complaints (later s).complaints, (later s).outcome⟩

/-- Where complaints only correspond to themselves, all is the same. -/
theorem exists_eq (h : w.Agree Eq w') :
    ∃ complaints line, w = ⟨complaints, .ok line⟩ ∧ w' = ⟨complaints, .ok line⟩ := by
  obtain ⟨complaints, s, written, written'⟩ := h
  rw [List.forall₂_eq_eq_eq] at complaints
  exact ⟨w.complaints, s, by rw [← written], by rw [complaints, ← written']⟩

end Written.Agree

namespace Event.Json

/-- Two complaints about the hashing of a value, which may give different codes. -/
def Recoded (complained complained' : Bytes) : Prop :=
  ∃ code code', complained = complaint "field hash failed" (some code) ∧
    complained' = complaint "field hash failed" (some code')

/-! ## Tags -/

theorem hashTag_of_digests (digests : crypto.Digests) {value : Bytes} (given : value ≠ []) :
    hashTag crypto value = .done (Bytes.hex ((Sha256.digest value).take 8)) := by
  have tag : (Bytes.hex (Sha256.digest value)).take tagLength = Bytes.hex ((Sha256.digest value).take 8) :=
    Bytes.take_hex 8 _
  simp [hashTag, Crypto.telemetryHash, given, digests value, Except.map, tag]

theorem hashTag_of_error {value : Bytes} {error : CodedError} (given : value ≠ [])
    (failed : crypto.sha256 value = .error (.coded error)) :
    hashTag crypto value = ⟨[complaint "field hash failed" (some error.code)], .ok unhashed⟩ := by
  simp [hashTag, Crypto.telemetryHash, given, failed, Except.map]

theorem hashTag_nil : hashTag crypto [] = .done [] := by simp [hashTag, Crypto.telemetryHash]

theorem agree_hashTag_of_digests (digests : crypto.Digests) {value value' : Bytes}
    (veiled : Bytes.Veiled Sha256.Matches value value') :
    (hashTag crypto value).Agree P (hashTag crypto value') := by
  rcases veiled.nil_or with ⟨rfl, rfl⟩ | ⟨given, given', alike⟩
  · rw [hashTag_nil]
    exact .done []
  · have same : (Sha256.digest value).take 8 = (Sha256.digest value').take 8 := by
      rcases alike with rfl | matching
      · rfl
      · exact matching
    rw [hashTag_of_digests digests given, hashTag_of_digests digests given', same]
    exact .done _

/-- The complaints about two values correspond if the failures do. -/
theorem agree_hashTag_of_fails (fails : crypto.Fails)
    (corresponds : ∀ {value value' : Bytes} {error error' : CodedError}, value = value' ∨ related value value' →
      crypto.sha256 value = .error (.coded error) → crypto.sha256 value' = .error (.coded error') →
      P (complaint "field hash failed" (some error.code)) (complaint "field hash failed" (some error'.code)))
    {value value' : Bytes} (veiled : Bytes.Veiled related value value') :
    (hashTag crypto value).Agree P (hashTag crypto value') := by
  rcases veiled.nil_or with ⟨rfl, rfl⟩ | ⟨given, given', alike⟩
  · rw [hashTag_nil]
    exact .done []
  · obtain ⟨error, failed⟩ := fails value
    obtain ⟨error', failed'⟩ := fails value'
    rw [hashTag_of_error given failed, hashTag_of_error given' failed']
    exact ⟨.cons (corresponds alike failed failed') .nil, _, rfl, rfl⟩

theorem agree_hashTag_of_failsAlike (fails : crypto.FailsAlike related) {value value' : Bytes}
    (veiled : Bytes.Veiled related value value') :
    (hashTag crypto value).Agree Eq (hashTag crypto value') := by
  refine agree_hashTag_of_fails fails.fails (fun alike failed failed' => ?_) veiled
  rcases alike with rfl | alike
  · rw [failed, Except.error.injEq, Fault.coded.injEq] at failed'
    rw [failed']
  · rw [fails.code_eq alike failed failed']

/-! ## Lines -/

section Lines

variable (tags : ∀ {value value' : Bytes}, Bytes.Veiled related value value' →
  (hashTag crypto value).Agree P (hashTag crypto value'))

include tags

theorem agree_member {field field' : Field} (h : field.Concealed related field') :
    (field.member crypto).Agree P (field'.member crypto) := by
  cases h with
  | same =>
    refine .andThen ?_ fun s => .done _
    rw [Field.shown]
    cases field.privacy with
    | clear => exact .done _
    | redact => exact .done _
    | hash => exact tags (.inl rfl)
  | redacted key value value' numeric numeric' =>
    simp only [Field.member, Field.shown, Field.bare, reduceCtorEq, decide_false, Bool.and_false]
    exact .andThen (.done _) fun s => .done _
  | hashed key numeric numeric' veiled =>
    simp only [Field.member, Field.shown, Field.bare, reduceCtorEq, decide_false, Bool.and_false]
    exact .andThen (tags veiled) fun s => .done _

theorem agree_members {fields fields' : List Field}
    (h : List.Forall₂ (Field.Concealed related) fields fields') :
    (members crypto fields).Agree P (members crypto fields') := by
  induction h with
  | nil => exact .done []
  | cons first rest ih =>
    exact .andThen (agree_member tags first) fun s => .andThen ih fun others => .done _

/-- Where the tags agree, so do the lines. -/
theorem agree_format {event event' : Event} (h : event.Concealed related event') (timestamp : Bytes) :
    (format crypto event timestamp).Agree P (format crypto event' timestamp) := by
  obtain ⟨category, severity, id, message, fields⟩ := h
  have header : header event' timestamp = header event timestamp := by
    simp only [Json.header, category, severity, id, message]
  rw [format, format, header]
  exact .andThen (agree_members tags fields) fun s => .done _

end Lines

/-- Neither the lines nor the complaints tell apart events that differ in what is to be concealed, if
    digests are computed, or if hashing always fails with codes that do not tell the values apart. The
    lines do not, whatever the codes. -/
theorem conceals (crypto : Crypto) (timestamp : Bytes) (event event' : Event) :
    (crypto.Digests → event.Concealed Sha256.Matches event' →
      ∃ complaints line, format crypto event timestamp = ⟨complaints, .ok line⟩ ∧
        format crypto event' timestamp = ⟨complaints, .ok line⟩) ∧
    (∀ related, crypto.FailsAlike related → event.Concealed related event' →
      ∃ complaints line, format crypto event timestamp = ⟨complaints, .ok line⟩ ∧
        format crypto event' timestamp = ⟨complaints, .ok line⟩) ∧
    (crypto.Fails → event.Concealed (fun _ _ => True) event' →
      (format crypto event timestamp).Agree Recoded (format crypto event' timestamp)) := by
  refine ⟨fun digests concealed => ?_, fun related fails concealed => ?_, fun fails concealed => ?_⟩
  · exact (agree_format (agree_hashTag_of_digests digests) concealed timestamp).exists_eq
  · exact (agree_format (agree_hashTag_of_failsAlike fails) concealed timestamp).exists_eq
  · exact agree_format (agree_hashTag_of_fails fails fun _ _ _ => ⟨_, _, rfl, rfl⟩) concealed timestamp

/-- A provider that hashes nothing. -/
def failing : Crypto where
  sha256 _ := .error (.coded Crypto.randomTooLarge)
  hmac _ _ := .ok []
  random _ := .ok []

/-- A provider that hashes nothing, and tells by its codes what it was to hash. -/
def telling : Crypto where
  sha256 message := .error (.coded
    { domain := .security
      code := ErrorDomain.security.code (message.headD 0).toNat
      message := message })
  hmac _ _ := .ok []
  random _ := .ok []

/-- An event with a secret to be redacted and one to be hashed. -/
def confidential (pin name : Bytes) (numeric : Bool) : Event where
  id := "opened"
  fields := [.text "door" "7", ⟨"pin", pin, .redact, numeric⟩, ⟨"name", name, .hash, numeric⟩]

theorem concealed_confidential (pin pin' name name' : Bytes) (numeric numeric' : Bool)
    (veiled : Bytes.Veiled related name name') :
    (confidential pin name numeric).Concealed related (confidential pin' name' numeric') where
  category := rfl
  severity := rfl
  id := rfl
  message := rfl
  fields := .cons (.same _) (.cons (.redacted _ _ _ _ _) (.cons (.hashed _ _ _ veiled) .nil))

/-- Their digests begin with bb7dc669499d9134. -/
theorem matches_values : Sha256.Matches "6a970bc646a058fd" "4852dd0fddffbaa6" := by
  have digests : (Sha256.digest "6a970bc646a058fd").take 8 = [0xbb, 0x7d, 0xc6, 0x69, 0x49, 0x9d, 0x91, 0x34] ∧
      (Sha256.digest "4852dd0fddffbaa6").take 8 = [0xbb, 0x7d, 0xc6, 0x69, 0x49, 0x9d, 0x91, 0x34] := by
    decide +kernel
  exact digests.1.trans digests.2.symm

theorem conceals_of_confidential :
    (∃ complaints line,
        format (.standard fun _ => []) (confidential "0000" "6a970bc646a058fd" false) "" = ⟨complaints, .ok line⟩ ∧
        format (.standard fun _ => []) (confidential "12" "4852dd0fddffbaa6" true) "" = ⟨complaints, .ok line⟩) ∧
      (∃ complaints line,
        format failing (confidential "0000" "eve" false) "" = ⟨complaints, .ok line⟩ ∧
        format failing (confidential "12" "adam" true) "" = ⟨complaints, .ok line⟩) ∧
      (format telling (confidential "0000" "eve" false) "").Agree Recoded
        (format telling (confidential "12" "adam" true) "") := by
  have alike : Bytes.Veiled Sha256.Matches "6a970bc646a058fd" "4852dd0fddffbaa6" :=
    .inr ⟨by decide, by decide, matches_values⟩
  have other : Bytes.Veiled (fun _ _ => True) "eve" "adam" := .inr ⟨by decide, by decide, trivial⟩
  have uncoded : failing.FailsAlike fun _ _ => True := by
    refine ⟨fun _ => ⟨_, rfl⟩, fun {_ _ error error'} _ failed failed' => ?_⟩
    cases failed
    cases failed'
    rfl
  refine ⟨?_, ?_, ?_⟩
  · exact (conceals _ _ _ _).1 (fun _ => rfl) (concealed_confidential _ _ _ _ _ _ alike)
  · exact (conceals _ _ _ _).2.1 _ uncoded (concealed_confidential _ _ _ _ _ _ other)
  · exact (conceals _ _ _ _).2.2 (fun _ => ⟨_, rfl⟩) (concealed_confidential _ _ _ _ _ _ other)

/-- Complaints tell hashed values apart whose digests begin with the same eight bytes, if the provider
    fails for each with a code of its own. -/
theorem not_conceals_of_telling :
    ¬∀ (crypto : Crypto) (timestamp : Bytes) (event event' : Event), crypto.Digests ∨ crypto.Fails →
      event.Concealed Sha256.Matches event' →
      ∃ complaints line, format crypto event timestamp = ⟨complaints, .ok line⟩ ∧
        format crypto event' timestamp = ⟨complaints, .ok line⟩ := by
  intro h
  have alike : Bytes.Veiled Sha256.Matches "6a970bc646a058fd" "4852dd0fddffbaa6" :=
    .inr ⟨by decide, by decide, matches_values⟩
  obtain ⟨complaints, line, written, written'⟩ := h telling "" _ _ (.inr fun _ => ⟨_, rfl⟩)
    (concealed_confidential "" "" _ _ false false alike)
  have same := congrArg Written.complaints (written.trans written'.symm)
  revert same
  decide

end Event.Json

end Fingerprint
