import Fingerprint.Proofs.Escape
import Fingerprint.Proofs.Json

/-!
# Reading events back

A reader of JSON gets out of the line of an event what was put in: the time,
the severity and the category, the identifier and the message unless they are
empty, and every field in order, under its key, with what may be shown of its
value. Nothing in a text can break out of its quotes or end the line.

A public number is written without quotes, so the line is JSON only if what
the field holds is a number of JSON; what `Field.number` holds always is.

* `Field.content`, `Event.content`: what the line of an event says;
* `Event.Json.exists_format_read`.
-/

namespace Fingerprint

open Json

variable {crypto : Crypto} {field : Field} {fields : List Field} {event : Event} {timestamp : Bytes}

/-! ## What a line says -/

/-- What stands for a hashed value: the first digits of its digest, or a marker if there is none.
    The empty value is not hashed. -/
def Crypto.tag (crypto : Crypto) (value : Bytes) : Bytes :=
  if value = [] then []
  else
    match crypto.sha256 value with
    | .ok digest => (Bytes.hex digest).take 16
    | .error _ => "[UNHASHED]"

/-- What may be shown of the value of a field. -/
def Field.display (crypto : Crypto) (field : Field) : Bytes :=
  match field.privacy with
  | .clear => field.value
  | .redact => "[REDACTED]"
  | .hash => crypto.tag field.value

/-- A field as a member of an object. A public number is a number, anything else a string. -/
def Field.content (crypto : Crypto) (field : Field) : Bytes × Value :=
  (field.key, if field.numeric = true ∧ field.privacy = .clear then .number (field.display crypto)
    else .string (field.display crypto))

/-- A text under its key, unless it is empty. -/
def Event.given (key value : Bytes) : List (Bytes × Value) :=
  if value = [] then [] else [(key, .string value)]

/-- An event as the members of an object, in order. -/
def Event.content (crypto : Crypto) (event : Event) (timestamp : Bytes) : List (Bytes × Value) :=
  ("ts", .string timestamp) :: ("severity", .string event.severity.name) ::
    ("category", .string event.category.name) ::
    (Event.given "event_id" event.id ++ Event.given "message" event.message ++
      event.fields.map (Field.content crypto))

/-- A field that is a public number holds an integer, as it is written in JSON. -/
def Field.Integral (field : Field) : Prop :=
  field.numeric = true → field.privacy = .clear → IsInteger field.value

theorem Field.integral_of_quoted (h : field.bare = false) : field.Integral := fun hnumeric hprivacy => by
  simp [Field.bare, hnumeric, hprivacy] at h

theorem Field.integral_number (key : Bytes) (n : Int) : (Field.number key n).Integral :=
  fun _ _ => isInteger_ofInt n

/-! ## Control characters -/

/-- A text without control characters. -/
def Printable (s : Bytes) : Prop := ∀ b ∈ s, 0x20 ≤ b

theorem Printable.append {s t : Bytes} (hs : Printable s) (ht : Printable t) : Printable (s ++ t) :=
  List.forall_mem_append.2 ⟨hs, ht⟩

theorem Printable.cons {b : UInt8} {s : Bytes} (hb : 0x20 ≤ b) (hs : Printable s) : Printable (b :: s) :=
  List.forall_mem_cons.2 ⟨hb, hs⟩

theorem printable_nil : Printable [] := fun _ h => absurd h List.not_mem_nil

theorem printable_escapeByte (b : UInt8) : Printable (Event.Json.escapeByte b) := by
  have hdigit : ∀ d < 16, 0x20 ≤ Bytes.hexDigit d := by decide
  have hlt := b.toNat_lt
  unfold Event.Json.escapeByte
  split_ifs with _ _ _ _ _ _ _ hcontrol
  all_goals try exact .cons (by decide) (.cons (by decide) printable_nil)
  · have hcode : ("\\u00" : Bytes).all (0x20 ≤ ·) = true := by decide
    refine .append (fun b hb => of_decide_eq_true (List.all_eq_true.1 hcode b hb)) ?_
    exact .cons (hdigit _ (by omega)) (.cons (hdigit _ (by omega)) printable_nil)
  · exact .cons (UInt8.not_lt.1 hcontrol) printable_nil

theorem printable_quoted (s : Bytes) : Printable (Event.Json.quoted s) := by
  have hescape : Printable (Event.Json.escape s) := by
    intro b hb
    obtain ⟨c, -, hc⟩ := List.mem_flatMap.1 hb
    exact printable_escapeByte c b hc
  exact .cons (by decide) (hescape.append (.cons (by decide) printable_nil))

theorem printable_of_isInteger {s : Bytes} (h : IsInteger s) : Printable s := by
  have hdigit {b : UInt8} (hb : Bytes.isDigit b = true) : 0x20 ≤ b := by
    simp only [Bytes.isDigit, Bool.and_eq_true, decide_eq_true_eq] at hb
    exact UInt8.le_trans (by decide) hb.1
  have hnatural {s : Bytes} (hs : IsNatural s) : Printable s := by
    rcases hs with rfl | ⟨-, -, hdigits⟩
    · exact .cons (by decide) printable_nil
    · exact fun b hb => hdigit (hdigits b hb)
  rcases h with h | ⟨digits, rfl, h⟩
  · exact hnatural h
  · exact .cons (by decide) (hnatural h)

/-! ## Members -/

/-- Members of an object with a comma before each, on one line. -/
structure Listed (s : Bytes) (members : List (Bytes × Value)) : Prop where
  joined : Joined s members
  printable : Printable s

theorem Listed.nil : Listed [] [] := ⟨.nil, printable_nil⟩

theorem Listed.append {s t : Bytes} {ones others : List (Bytes × Value)} (hs : Listed s ones)
    (ht : Listed t others) : Listed (s ++ t) (ones ++ others) :=
  ⟨hs.joined.append ht.joined, hs.printable.append ht.printable⟩

theorem Listed.single {key s : Bytes} {meaning : Value} (h : Denotes s meaning) (hs : Printable s) :
    Listed (0x2c :: (Event.Json.quoted key ++ 0x3a :: s)) [(key, meaning)] :=
  ⟨.single h, .cons (by decide) ((printable_quoted key).append (.cons (by decide) hs))⟩

theorem Listed.text (key s : Bytes) :
    Listed (0x2c :: (Event.Json.quoted key ++ 0x3a :: Event.Json.quoted s)) [(key, .string s)] :=
  .single (denotes_quoted s) (printable_quoted s)

theorem Listed.optional (key s : Bytes) : Listed (Event.Json.optional key s) (Event.given key s) := by
  unfold Event.Json.optional Event.given
  by_cases hs : s = []
  · rw [if_pos (by simp [hs]), if_pos hs]
    exact .nil
  · rw [if_neg (by simpa using hs), if_neg hs]
    exact .text key s

theorem Field.shown_of_hashable (h : ∀ message, ¬field.Unhashable crypto message) :
    (field.shown crypto).outcome = .ok (field.display crypto) := by
  unfold Field.shown Field.display
  cases hprivacy : field.privacy with
  | clear => rfl
  | redact => rfl
  | hash =>
    unfold Event.Json.hashTag Crypto.telemetryHash Crypto.tag
    by_cases hvalue : field.value = []
    · simp [hvalue, Written.done]
    · cases hdigest : crypto.sha256 field.value with
      | ok digest => simp [hvalue, Written.done, Except.map, Event.Json.tagLength]
      | error fault =>
        cases fault with
        | coded error => simp [hvalue, Except.map, Event.Json.unhashed]
        | plain message => exact absurd ⟨hprivacy, hvalue, hdigest⟩ (h message)

theorem Field.exists_member_listed (h : ∀ message, ¬field.Unhashable crypto message) (hintegral : field.Integral) :
    ∃ s, (field.member crypto).outcome = .ok s ∧ Listed s [field.content crypto] := by
  unfold Field.member Written.andThen Field.content
  rw [Field.shown_of_hashable h]
  refine ⟨_, rfl, ?_⟩
  by_cases hbare : field.numeric = true ∧ field.privacy = .clear
  · have hvalue : IsInteger (field.display crypto) := by
      rw [Field.display, hbare.2]
      exact hintegral hbare.1 hbare.2
    rw [if_pos (by simpa [Field.bare] using hbare), if_pos hbare]
    exact .single (denotes_of_isInteger hvalue) (printable_of_isInteger hvalue)
  · rw [if_neg (by simpa [Field.bare] using hbare), if_neg hbare]
    exact .text _ _

theorem Event.Json.exists_members_listed (h : ∀ message, ¬Broken crypto message fields)
    (hintegral : ∀ field ∈ fields, field.Integral) :
    ∃ s, (members crypto fields).outcome = .ok s ∧ Listed s (fields.map (Field.content crypto)) := by
  induction fields with
  | nil => exact ⟨[], rfl, .nil⟩
  | cons field rest ih =>
    have hfield (message) : ¬field.Unhashable crypto message := fun hbroken => h message (.here hbroken)
    -- What breaks a later field breaks the whole, as this one can be shown.
    have hrest (message) : ¬Broken crypto message rest := fun hbroken =>
      h message (.later (Field.shown_of_hashable hfield) hbroken)
    obtain ⟨first, hfirst, hone⟩ := Field.exists_member_listed hfield (hintegral field List.mem_cons_self)
    obtain ⟨others, hothers, hmore⟩ := ih hrest fun other hother =>
      hintegral other (List.mem_cons_of_mem field hother)
    refine ⟨first ++ others, ?_, hone.append hmore⟩
    unfold members Written.andThen
    rw [hfirst, hothers]
    rfl

theorem Event.Json.exists_format_listed (hhash : ∀ message, ¬Broken crypto message event.fields)
    (hintegral : ∀ field ∈ event.fields, field.Integral) :
    ∃ tail others, Listed tail others ∧
      event.content crypto timestamp = (Bytes.ofString "ts", Value.string timestamp) :: others ∧
      (format crypto event timestamp).outcome =
        .ok (0x7b :: (quoted "ts" ++ 0x3a :: quoted timestamp ++ tail ++ [0x7d])) := by
  obtain ⟨fields, hfields, hlisted⟩ := exists_members_listed hhash hintegral
  have hmembers := (Listed.text "severity" event.severity.name).append
    ((Listed.text "category" event.category.name).append
      (((Listed.optional "event_id" event.id).append (.optional "message" event.message)).append hlisted))
  refine ⟨_, _, hmembers, rfl, ?_⟩
  unfold format Written.andThen
  rw [hfields]
  simp [Written.done, header]

theorem Event.Json.printable_format {object : Bytes} (hintegral : ∀ field ∈ event.fields, field.Integral)
    (h : (format crypto event timestamp).outcome = .ok object) : Printable object := by
  have hhash (message : Bytes) : ¬Broken crypto message event.fields := fun hbroken => by
    cases h.symm.trans (format_error_iff.2 ⟨message, rfl, hbroken⟩)
  obtain ⟨tail, others, hlisted, -, hobject⟩ := @exists_format_listed _ _ timestamp hhash hintegral
  obtain rfl := Except.ok.inj (h.symm.trans hobject)
  refine .cons (by decide) (.append (.append (.append (printable_quoted _) ?_) hlisted.printable) ?_)
  · exact .cons (by decide) (printable_quoted _)
  · exact .cons (by decide) printable_nil

/-- Every event is written as one object on one line, and a reader gets out of it what was put in,
    as far as it may be shown. -/
theorem Event.Json.exists_format_read (hhash : ∀ message, ¬Broken crypto message event.fields)
    (hintegral : ∀ field ∈ event.fields, field.Integral) :
    ∃ object, (format crypto event timestamp).outcome = .ok object ∧ Printable object ∧
      read object = some (.object (event.content crypto timestamp)) := by
  obtain ⟨tail, others, hlisted, hcontent, hobject⟩ := exists_format_listed hhash hintegral
  refine ⟨_, hobject, printable_format hintegral hobject, ?_⟩
  rw [hcontent]
  exact read_of_joined (denotes_quoted _) hlisted.joined

/-- A provider that hashes a single value. -/
def onceCrypto : Crypto where
  sha256 value := if value = [49] then .ok (List.replicate 32 0xa1) else .error (.coded Crypto.randomTooLarge)
  hmac _ _ := .ok []
  random _ := .ok []

theorem coded_onceCrypto : onceCrypto.Coded where
  sha256 value message := by
    dsimp only [onceCrypto]
    split <;> simp
  hmac _ _ _ := by simp [onceCrypto]
  random _ _ := by simp [onceCrypto]

/-- An event whose texts look like what stands around them. -/
def mimicry : Event where
  severity := .warning
  category := .security
  id := "\",\"seq\":1"
  message := [0x5c, 0x00, 0x0a, 0xff]
  fields := [.number "score" (-40), ⟨"a\"b", "1e9", .redact, true⟩, .hashed "" "1", .hashed "user" "2"]

theorem Event.Json.exists_format_read_of_mimicry :
    ∃ object, (format onceCrypto mimicry "\"").outcome = .ok object ∧ Printable object ∧
      read object = some (.object [("ts", .string "\""), ("severity", .string "warning"),
        ("category", .string "security"), ("event_id", .string "\",\"seq\":1"),
        ("message", .string [0x5c, 0x00, 0x0a, 0xff]), ("score", .number "-40"),
        ("a\"b", .string "[REDACTED]"), ("", .string "a1a1a1a1a1a1a1a1"),
        ("user", .string "[UNHASHED]")]) := by
  refine @exists_format_read onceCrypto mimicry "\"" ?_ ?_
  · exact fun message => coded_onceCrypto.not_broken
  · have hquoted : ∀ field ∈ mimicry.fields.tail, field.bare = false := by decide
    exact List.forall_mem_cons.2
      ⟨Field.integral_number _ _, fun field hfield => Field.integral_of_quoted (hquoted field hfield)⟩

end Fingerprint
