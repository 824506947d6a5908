import Fingerprint.Proofs.AuditLog

/-!
# What escapes from the audit log

What the log cannot do it complains about, and its caller does not hear of it. So
it is for whatever the disk refuses, and for the faults of the crypto provider
that have a code. A plain fault of the provider is another matter: nothing
stops it on its way through the hash of a field, the tag of a line or the key
of a new log, and it ends the call.

These are the only faults that escape. Whether one does depends on what the
provider is asked for and not on the disk, which may answer as it likes, and
whose files anybody may change between two calls.

* `AuditLog.Struck`: a call is answered with a plain fault by the provider;
* `AuditLog.log_error_iff`, `AuditLog.create_error_iff`: one call, and the making of a log;
* `AuditLog.thrown`: what the callers of a log hear of over its life;
* `AuditLog.thrown_eq_nil_iff`.
-/

namespace Fingerprint

variable {σ Stream : Type} {crypto : Crypto} {fault : Fault} {message : Bytes}

/-- A provider whose faults have codes. -/
structure Crypto.Coded (crypto : Crypto) : Prop where
  sha256 (value message : Bytes) : crypto.sha256 value ≠ .error (.plain message)
  hmac (key value message : Bytes) : crypto.hmac key value ≠ .error (.plain message)
  random (n : Nat) (message : Bytes) : crypto.random n ≠ .error (.plain message)

/-! ## Fields -/

/-- The value of a field is to be hashed, and the provider fails with a plain fault. -/
structure Field.Unhashable (crypto : Crypto) (message : Bytes) (field : Field) : Prop where
  privacy : field.privacy = .hash
  value : field.value ≠ []
  sha256 : crypto.sha256 field.value = .error (.plain message)

theorem Field.shown_error_iff {field : Field} :
    (field.shown crypto).outcome = .error fault ↔
      ∃ message, fault = .plain message ∧ field.Unhashable crypto message := by
  constructor
  · intro h
    unfold Field.shown at h
    split at h
    · cases h
    · cases h
    · next hprivacy =>
      unfold Event.Json.hashTag Crypto.telemetryHash at h
      by_cases hvalue : field.value = []
      · rw [if_pos (by simp [hvalue])] at h
        cases h
      · rw [if_neg (by simpa using hvalue)] at h
        cases hhash : crypto.sha256 field.value with
        | ok digest =>
          rw [hhash] at h
          cases h
        | error hashFault =>
          rw [hhash] at h
          cases hashFault with
          | coded error => cases h
          | plain message =>
            cases h
            exact ⟨message, rfl, hprivacy, hvalue, hhash⟩
  · rintro ⟨message, rfl, hprivacy, hvalue, hhash⟩
    unfold Field.shown Event.Json.hashTag Crypto.telemetryHash
    rw [hprivacy]
    dsimp only
    rw [if_neg (by simpa using hvalue), hhash]
    rfl

theorem Written.andThen_error_iff {w : Written} {next : Bytes → Written} :
    (w.andThen next).outcome = .error fault ↔
      w.outcome = .error fault ∨ ∃ s, w.outcome = .ok s ∧ (next s).outcome = .error fault := by
  unfold Written.andThen
  cases hw : w.outcome with
  | error first => simp
  | ok s => simp

/-- Fields are written up to the first that breaks the writing. -/
inductive Broken (crypto : Crypto) (message : Bytes) : List Field → Prop
  | here {field : Field} {rest : List Field} (h : field.Unhashable crypto message) :
      Broken crypto message (field :: rest)
  | later {field : Field} {rest : List Field} {value : Bytes}
      (hshown : (field.shown crypto).outcome = .ok value) (h : Broken crypto message rest) :
      Broken crypto message (field :: rest)

theorem Crypto.Coded.not_broken (h : crypto.Coded) {fields : List Field} : ¬Broken crypto message fields := by
  intro hbroken
  induction hbroken with
  | here hfield => exact h.sha256 _ _ hfield.sha256
  | later _ _ ih => exact ih

theorem Field.member_error_iff {field : Field} :
    (field.member crypto).outcome = .error fault ↔ (field.shown crypto).outcome = .error fault := by
  unfold Field.member
  rw [Written.andThen_error_iff]
  simp [Written.done]

theorem Field.exists_member_iff {field : Field} :
    (∃ s, (field.member crypto).outcome = .ok s) ↔ ∃ value, (field.shown crypto).outcome = .ok value := by
  unfold Field.member Written.andThen
  cases (field.shown crypto).outcome with
  | error first => simp
  | ok value => simp [Written.done]

namespace Event.Json

theorem members_error_iff {fields : List Field} :
    (members crypto fields).outcome = .error fault ↔
      ∃ message, fault = .plain message ∧ Broken crypto message fields := by
  induction fields with
  | nil =>
    constructor
    · intro h
      cases h
    · rintro ⟨message, -, h⟩
      cases h
  | cons field rest ih =>
    have hrest : ∀ first, ((members crypto rest).andThen fun others => .done (first ++ others)).outcome =
        .error fault ↔ (members crypto rest).outcome = .error fault := by
      intro first
      rw [Written.andThen_error_iff]
      simp [Written.done]
    unfold members
    rw [Written.andThen_error_iff, Field.member_error_iff, Field.shown_error_iff]
    constructor
    · rintro (⟨message, hfault, hfield⟩ | ⟨first, hfirst, hlater⟩)
      · exact ⟨message, hfault, .here hfield⟩
      · obtain ⟨message, hfault, hbroken⟩ := ih.1 ((hrest first).1 hlater)
        obtain ⟨value, hvalue⟩ := Field.exists_member_iff.1 ⟨first, hfirst⟩
        exact ⟨message, hfault, .later hvalue hbroken⟩
    · rintro ⟨message, hfault, hbroken⟩
      cases hbroken with
      | here hfield => exact .inl ⟨message, hfault, hfield⟩
      | later hvalue hlater =>
        obtain ⟨first, hfirst⟩ := Field.exists_member_iff.2 ⟨_, hvalue⟩
        exact .inr ⟨first, hfirst, (hrest first).2 (ih.2 ⟨message, hfault, hlater⟩)⟩

/-- An event cannot be written down iff one of its fields breaks the writing. -/
theorem format_error_iff {event : Event} {timestamp : Bytes} :
    (format crypto event timestamp).outcome = .error fault ↔
      ∃ message, fault = .plain message ∧ Broken crypto message event.fields := by
  unfold format
  rw [Written.andThen_error_iff, members_error_iff]
  simp [Written.done]

/-- With a provider whose faults have codes, every event can be written down. -/
theorem exists_format (hcrypto : crypto.Coded) (event : Event) (timestamp : Bytes) :
    ∃ object, (format crypto event timestamp).outcome = .ok object := by
  cases hformat : (format crypto event timestamp).outcome with
  | ok object => exact ⟨object, rfl⟩
  | error fault =>
    obtain ⟨message, -, hbroken⟩ := format_error_iff.1 hformat
    exact absurd hbroken hcrypto.not_broken

end Event.Json

namespace AuditLog

variable {disk : Disk (StateM σ) Stream} {log : AuditLog Stream} {s : σ} {now : Int} {event : Event}

/-! ## One call -/

/-- A call asks the provider for something and is answered with a plain fault. -/
inductive Struck (crypto : Crypto) (now : Int) (event : Event) (log : AuditLog Stream) (message : Bytes) : Prop
  | field (hon : log.enabled = true) (h : Broken crypto message event.fields)
  | tag {object : Bytes} (hon : log.enabled = true)
      (hobject : (Event.Json.format crypto event (Calendar.timestamp now)).outcome = .ok object)
      (h : crypto.hmac log.key (chained log.lastMac (log.counter + 1) object) = .error (.plain message))

/-- A log that cannot write an event down stays as it is. -/
theorem log_of_format_error (hon : log.enabled = true)
    (h : (Event.Json.format crypto event (Calendar.timestamp now)).outcome = .error fault) :
    ((AuditLog.log disk crypto now event log).run s).1 = (log, .error fault) := by
  unfold AuditLog.log
  rw [if_neg (by simp [hon])]
  dsimp only
  rw [h]
  rfl

/-- With the object of the event at hand, a call can fail in its tag only. -/
theorem log_outcome_of_object {object : Bytes} (hon : log.enabled = true)
    (h : (Event.Json.format crypto event (Calendar.timestamp now)).outcome = .ok object) :
    ((AuditLog.log disk crypto now event log).run s).1.2 =
      match crypto.hmac log.key (chained log.lastMac (log.counter + 1) object) with
      | .error (.plain message) => .error (.plain message)
      | _ => .ok () := by
  unfold AuditLog.log
  rw [if_neg (by simp [hon])]
  dsimp only
  rw [h]
  dsimp only
  cases crypto.hmac log.key (chained log.lastMac (log.counter + 1) object) with
  | ok mac => rfl
  | error fault => cases fault <;> rfl

/-- A call fails iff it is struck, whatever the disk does. -/
theorem log_error_iff :
    ((AuditLog.log disk crypto now event log).run s).1.2 = .error fault ↔
      ∃ message, fault = .plain message ∧ Struck crypto now event log message := by
  cases hon : log.enabled with
  | false =>
    unfold AuditLog.log
    rw [if_pos (by simp [hon])]
    constructor
    · intro h
      cases h
    · rintro ⟨message, -, ⟨hon', -⟩ | ⟨hon', -, -⟩⟩ <;> rw [hon] at hon' <;> cases hon'
  | true =>
    cases hformat : (Event.Json.format crypto event (Calendar.timestamp now)).outcome with
    | error first =>
      rw [log_of_format_error hon hformat, Except.error.injEq]
      constructor
      · rintro rfl
        obtain ⟨message, hfault, hbroken⟩ := Event.Json.format_error_iff.1 hformat
        exact ⟨message, hfault, .field hon hbroken⟩
      · rintro ⟨message, rfl, ⟨-, hbroken⟩ | ⟨-, hobject, -⟩⟩
        · exact Except.error.inj (hformat.symm.trans (Event.Json.format_error_iff.2 ⟨message, rfl, hbroken⟩))
        · cases hformat.symm.trans hobject
    | ok object =>
      rw [log_outcome_of_object hon hformat]
      constructor
      · intro h
        split at h
        · next message hmac =>
          cases h
          exact ⟨message, rfl, .tag hon hformat hmac⟩
        · cases h
      · rintro ⟨message, rfl, ⟨-, hbroken⟩ | ⟨-, hobject, hmac⟩⟩
        · cases hformat.symm.trans (Event.Json.format_error_iff.2 ⟨message, rfl, hbroken⟩)
        · cases hformat.symm.trans hobject
          rw [hmac]

/-- A log cannot be made iff it would need a key, and the provider fails with a plain fault. -/
theorem create_error_iff {environment : Environment} :
    (@AuditLog.create Stream crypto environment).2 = .error fault ↔
      ∃ message, fault = .plain message ∧ configuredPath environment ≠ [] ∧
        crypto.random macSize = .error (.plain message) := by
  unfold AuditLog.create
  dsimp only
  by_cases hpath : configuredPath environment = []
  · rw [if_pos (by simp [hpath])]
    simp [hpath]
  · rw [if_neg (by simpa using hpath)]
    cases hrandom : crypto.random macSize with
    | ok key => simp
    | error first => cases first <;> simp [hpath, eq_comm]

/-! ## The life of a log -/

/-- What happens to a log, or to the machine that it runs on. -/
inductive Use (σ : Type) where
  /-- An event is logged, with what the provider then answers. -/
  | call (crypto : Crypto) (now : Int) (event : Event)
  /-- Others change the files, or whatever else there is. -/
  | elsewhere (change : σ → σ)

/-- The log and its machine after one use. -/
def Use.next (disk : Disk (StateM σ) Stream) : Use σ → AuditLog Stream × σ → AuditLog Stream × σ
  | call crypto now event, state => logged disk crypto now event state
  | elsewhere change, state => (state.1, change state.2)

/-- The fault that a use ends with. -/
def Use.fault? (disk : Disk (StateM σ) Stream) : Use σ → AuditLog Stream × σ → Option Fault
  | call crypto now event, state =>
    match ((AuditLog.log disk crypto now event state.1).run state.2).1.2 with
    | .ok () => none
    | .error fault => some fault
  | elsewhere _, _ => none

/-- The faults that the uses of a log end with. Whoever is thrown one may go on using the log. -/
def escapes (disk : Disk (StateM σ) Stream) : List (Use σ) → AuditLog Stream × σ → List Fault
  | [], _ => []
  | use :: rest, state => (use.fault? disk state).toList ++ escapes disk rest (use.next disk state)

/-- The faults that are thrown over the life of a log, to those who make it and to those who use it. -/
def thrown (disk : Disk (StateM σ) Stream) (crypto : Crypto) (environment : Environment)
    (uses : List (Use σ)) (s : σ) : List Fault :=
  match (AuditLog.create crypto environment).2 with
  | .error fault => [fault]
  | .ok log => escapes disk uses (log, s)

/-- One of the uses is a call that is struck. -/
inductive Met (disk : Disk (StateM σ) Stream) (message : Bytes) : List (Use σ) → AuditLog Stream × σ → Prop
  | here {crypto : Crypto} {now : Int} {event : Event} {rest : List (Use σ)} {state : AuditLog Stream × σ}
      (h : Struck crypto now event state.1 message) : Met disk message (.call crypto now event :: rest) state
  | later {use : Use σ} {rest : List (Use σ)} {state : AuditLog Stream × σ}
      (h : Met disk message rest (use.next disk state)) : Met disk message (use :: rest) state

/-- A provider answers with a plain fault when it is asked for the key of a log, or later, for
    what one of its calls needs. -/
inductive Exposed (disk : Disk (StateM σ) Stream) (crypto : Crypto) (environment : Environment)
    (uses : List (Use σ)) (s : σ) (message : Bytes) : Prop
  | key (hpath : configuredPath environment ≠ []) (h : crypto.random macSize = .error (.plain message))
  | call {log : AuditLog Stream} (hcreate : (AuditLog.create crypto environment).2 = .ok log)
      (h : Met disk message uses (log, s))

variable {uses : List (Use σ)} {state : AuditLog Stream × σ} {environment : Environment}

theorem Use.fault?_eq_some_iff :
    (Use.call crypto now event).fault? disk state = some fault ↔
      ((AuditLog.log disk crypto now event state.1).run state.2).1.2 = .error fault := by
  dsimp only [Use.fault?]
  split <;> simp_all

theorem mem_escapes_iff :
    fault ∈ escapes disk uses state ↔ ∃ message, fault = .plain message ∧ Met disk message uses state := by
  induction uses generalizing state with
  | nil =>
    constructor
    · intro h
      cases h
    · rintro ⟨message, -, h⟩
      cases h
  | cons use rest ih =>
    rw [escapes, List.mem_append, ih, Option.mem_toList]
    constructor
    · rintro (hnow | ⟨message, hfault, hmet⟩)
      · cases use with
        | call crypto now event =>
          obtain ⟨message, hfault, hstruck⟩ := log_error_iff.1 (Use.fault?_eq_some_iff.1 hnow)
          exact ⟨message, hfault, .here hstruck⟩
        | elsewhere change => cases hnow
      · exact ⟨message, hfault, .later hmet⟩
    · rintro ⟨message, hfault, hmet⟩
      cases hmet with
      | here hstruck => exact .inl (Use.fault?_eq_some_iff.2 (log_error_iff.2 ⟨message, hfault, hstruck⟩))
      | later hmet => exact .inr ⟨message, hfault, hmet⟩

theorem mem_thrown_iff :
    fault ∈ thrown disk crypto environment uses s ↔
      ∃ message, fault = .plain message ∧ Exposed disk crypto environment uses s message := by
  unfold thrown
  cases hcreate : (AuditLog.create crypto environment).2 with
  | error first =>
    rw [List.mem_singleton]
    constructor
    · rintro rfl
      obtain ⟨message, hfault, hpath, hrandom⟩ := create_error_iff.1 hcreate
      exact ⟨message, hfault, .key hpath hrandom⟩
    · rintro ⟨message, rfl, ⟨hpath, hrandom⟩ | ⟨hcreate', -⟩⟩
      · exact Except.error.inj ((create_error_iff.2 ⟨message, rfl, hpath, hrandom⟩).symm.trans hcreate)
      · cases hcreate.symm.trans hcreate'
  | ok log =>
    rw [mem_escapes_iff]
    constructor
    · rintro ⟨message, hfault, hmet⟩
      exact ⟨message, hfault, .call hcreate hmet⟩
    · rintro ⟨message, rfl, ⟨hpath, hrandom⟩ | ⟨hcreate', hmet⟩⟩
      · cases hcreate.symm.trans (create_error_iff.2 ⟨message, rfl, hpath, hrandom⟩)
      · cases hcreate.symm.trans hcreate'
        exact ⟨message, rfl, hmet⟩

/-- The making of a log and all its calls return normally, whatever becomes of the files, iff the
    provider answers none of what they ask it for with a plain fault. -/
theorem thrown_eq_nil_iff :
    thrown disk crypto environment uses s = [] ↔ ∀ message, ¬Exposed disk crypto environment uses s message := by
  rw [List.eq_nil_iff_forall_not_mem]
  constructor
  · intro h message hexposed
    exact h _ (mem_thrown_iff.2 ⟨message, rfl, hexposed⟩)
  · intro h fault hfault
    obtain ⟨message, -, hexposed⟩ := mem_thrown_iff.1 hfault
    exact h message hexposed

/-- A provider that has random bytes, but no keyed digest. -/
def tagless : Crypto where
  sha256 _ := .ok []
  hmac _ _ := .error (.plain "no mac")
  random n := .ok (List.replicate n 7)

/-- A plain fault in place of the tag of a line reaches whoever logged the event. -/
theorem thrown_of_tagless :
    thrown Volume.disk tagless (.ofList [("FPC_AUDIT_LOG", "log")]) [.call tagless 0 ping] { files := .fresh } =
      [.plain "no mac"] := by
  rfl

end AuditLog

end Fingerprint
