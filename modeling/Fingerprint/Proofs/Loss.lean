import Fingerprint.Proofs.Escape
import Fingerprint.Proofs.Resolution
import Fingerprint.Proofs.Volume

/-!
# Lines that get lost

A call of the log that cannot leave its line says so on the console when the tag
cannot be computed, the directory not be found or made, a backup not be moved or
the line not be written. To open the file is the one step that fails in
silence. Besides, a log may be open on the wrong thing: on the device that
swallows everything, on a file that is not at the path of the log any more, or
on one that ends within a line.

There is no other way for a line to get lost, on a volume of any form: either
the file at the path is what it was and the line, or there is a complaint.

* `Complained`, `Murmured`: what is put on the console;
* `AuditLog.Readied`: what a log comes to before a line is written, with
  `AuditLog.readied_spec`;
* `AuditLog.Left`: a line that is the last of the file at the path;
* `AuditLog.Astray`, `AuditLog.Lost`: a line that is not, without a complaint;
* `AuditLog.left_or_complained_iff`.
-/

namespace Fingerprint

/-! ## The console -/

/-- A volume with some lines more on the console. -/
def Volume.told (v : Volume) (lines : List Bytes) : Volume := { v with console := v.console ++ lines }

/-- A line that complains about something the log could not do. -/
def IsComplaint (line : Bytes) : Prop := ∃ what code, line = complaint what code

/-- All that was put on the console are complaints. -/
def Murmured (v v' : Volume) : Prop :=
  ∃ lines, (∀ line ∈ lines, IsComplaint line) ∧ v'.console = v.console ++ lines

/-- Something was put on the console, and all of it are complaints. -/
def Complained (v v' : Volume) : Prop :=
  ∃ lines, lines ≠ [] ∧ (∀ line ∈ lines, IsComplaint line) ∧ v'.console = v.console ++ lines

section Console

variable {v v₁ v₂ : Volume}

theorem Murmured.of_eq (h : v₁.console = v.console) : Murmured v v₁ :=
  ⟨[], by simp, by rw [h, List.append_nil]⟩

theorem murmured_told {lines : List Bytes} (h : ∀ line ∈ lines, IsComplaint line) : Murmured v (v.told lines) :=
  ⟨lines, h, rfl⟩

theorem Murmured.trans (h : Murmured v v₁) (h₁ : Murmured v₁ v₂) : Murmured v v₂ := by
  obtain ⟨lines, hlines, hconsole⟩ := h
  obtain ⟨lines₁, hlines₁, hconsole₁⟩ := h₁
  refine ⟨lines ++ lines₁, fun line hline => ?_, ?_⟩
  · exact (List.mem_append.1 hline).elim (hlines line) (hlines₁ line)
  · rw [hconsole₁, hconsole, List.append_assoc]

theorem Murmured.complained_iff (h : Murmured v v₁) : Complained v v₁ ↔ v₁.console ≠ v.console := by
  constructor
  · rintro ⟨lines, hlines, -, hconsole⟩ hsame
    exact hlines (List.append_right_eq_self.1 (hconsole.symm.trans hsame))
  · intro hother
    obtain ⟨lines, hlines, hconsole⟩ := h
    refine ⟨lines, fun hnone => hother ?_, hlines, hconsole⟩
    rw [hconsole, hnone, List.append_nil]

theorem complained_told {what : Bytes} {code : Option Int} (v : Volume) :
    Complained v (v.told [complaint what code]) :=
  ⟨_, List.cons_ne_nil _ _, fun _ hline => List.mem_singleton.1 hline ▸ ⟨what, code, rfl⟩, rfl⟩

theorem Complained.murmured (h : Complained v v₁) : Murmured v v₁ := by
  obtain ⟨lines, -, hlines, hconsole⟩ := h
  exact ⟨lines, hlines, hconsole⟩

/-- Who is silent in the end was silent all the way. -/
theorem Murmured.silent (h : Murmured v v₁) (h₁ : Murmured v₁ v₂) (hsilent : v₂.console = v.console) :
    v₁.console = v.console ∧ v₂.console = v₁.console := by
  obtain ⟨lines, -, hconsole⟩ := h
  obtain ⟨lines₁, -, hconsole₁⟩ := h₁
  rw [hconsole₁, hconsole, List.append_assoc] at hsilent
  obtain ⟨rfl, rfl⟩ := List.append_eq_nil_iff.1 (List.append_right_eq_self.1 hsilent)
  rw [List.append_nil] at hconsole hconsole₁
  exact ⟨hconsole, hconsole₁⟩

theorem Complained.trans (h : Complained v v₁) (h₁ : Murmured v₁ v₂) : Complained v v₂ :=
  (h.murmured.trans h₁).complained_iff.2 fun hsame =>
    h.murmured.complained_iff.1 h (h.murmured.silent h₁ hsame).1

theorem Murmured.complained (h : Murmured v v₁) (h₁ : Complained v₁ v₂) : Complained v v₂ :=
  (h.trans h₁.murmured).complained_iff.2 fun hsame =>
    h₁.murmured.complained_iff.1 h₁ (h.silent h₁.murmured hsame).2

end Console

/-- What is done on the way to a line: names may change and complaints be made, but no file is
    written to. -/
structure Preparing (v v' : Volume) : Prop where
  contents : v'.files.contents = v.files.contents
  console : Murmured v v'

namespace Preparing

variable {v v₁ v₂ : Volume}

theorem refl (v : Volume) : Preparing v v := ⟨rfl, .of_eq rfl⟩

theorem trans (h : Preparing v v₁) (h₁ : Preparing v₁ v₂) : Preparing v v₂ :=
  ⟨h₁.contents.trans h.contents, h.console.trans h₁.console⟩

theorem bytes_eq (h : Preparing v v₁) (n : Nat) : v₁.files.bytes n = v.files.bytes n := by
  rw [FileSystem.bytes, h.contents, FileSystem.bytes]

end Preparing

/-! ## Complaints about fields -/

namespace Event.Json

variable {crypto : Crypto}

theorem isComplaint_of_mem_andThen {w : Written} {next : Bytes → Written}
    (h : ∀ line ∈ w.complaints, IsComplaint line) (hnext : ∀ s, ∀ line ∈ (next s).complaints, IsComplaint line) :
    ∀ line ∈ (w.andThen next).complaints, IsComplaint line := by
  intro line hline
  unfold Written.andThen at hline
  split at hline
  · exact h line hline
  · exact (List.mem_append.1 hline).elim (h line) (hnext _ line)

theorem isComplaint_of_mem_shown (field : Field) :
    ∀ line ∈ (field.shown crypto).complaints, IsComplaint line := by
  intro line hline
  unfold Field.shown at hline
  split at hline
  · cases hline
  · cases hline
  · unfold hashTag at hline
    split at hline
    · cases hline
    · exact ⟨_, _, List.mem_singleton.1 hline⟩
    · cases hline

theorem isComplaint_of_mem_members (fields : List Field) :
    ∀ line ∈ (members crypto fields).complaints, IsComplaint line := by
  induction fields with
  | nil => exact nofun
  | cons field rest ih =>
    refine isComplaint_of_mem_andThen ?_ fun first => isComplaint_of_mem_andThen ih fun others => nofun
    exact isComplaint_of_mem_andThen (isComplaint_of_mem_shown field) fun value => nofun

/-- What is put on the console while an event is written down are complaints. -/
theorem isComplaint_of_mem_format (crypto : Crypto) (event : Event) (timestamp : Bytes) :
    ∀ line ∈ (format crypto event timestamp).complaints, IsComplaint line :=
  isComplaint_of_mem_andThen (isComplaint_of_mem_members event.fields) fun _ => nofun

end Event.Json

namespace AuditLog

open FileSystem

variable {log : AuditLog FileSystem.Stream} {v : Volume} {path : Bytes}

theorem preparing_complain (v : Volume) {line : Bytes} (h : IsComplaint line) :
    After (Volume.disk.complain line) v fun _ v' => Preparing v v' :=
  ⟨rfl, murmured_told fun _ hline => List.mem_singleton.1 hline ▸ h⟩

theorem preparing_moveFile (v : Volume) (source target : Bytes) :
    After (moveFile Volume.disk source target) v fun _ v' => Preparing v v' := by
  have hrename : After (Volume.disk.rename source target) v fun _ v₁ => Preparing v v₁ :=
    ⟨contents_rename, .of_eq rfl⟩
  refine hrename.bind fun refused v₁ hmoved => ?_
  cases refused with
  | none => exact After.pure hmoved
  | some errno =>
    exact (preparing_complain v₁ ⟨_, _, rfl⟩).mono fun _ v₂ hcomplained => hmoved.trans hcomplained

/-- To look at a path changes nothing. -/
theorem after_status (v : Volume) (path : Bytes) : After (Volume.disk.status path) v fun _ v' => v' = v := rfl

theorem preparing_shiftBackups (v : Volume) (path : Bytes) (n : Nat) :
    After (shiftBackups Volume.disk path n) v fun _ v' => Preparing v v' := by
  induction n generalizing v with
  | zero => exact After.pure (.refl v)
  | succ n ih =>
    refine (after_status v _).bind fun answer v₁ hlooked => ?_
    subst hlooked
    cases answer with
    | error errno => exact ih v₁
    | ok found =>
      dsimp only
      split
      · exact (preparing_moveFile v₁ _ _).bind fun _ v₂ hmoved =>
          (ih v₂).mono fun _ v₃ hothers => hmoved.trans hothers
      · exact ih v₁

/-- What a log comes to by a rotation, or by none. -/
structure Turned (log : AuditLog FileSystem.Stream) (v : Volume) (log' : AuditLog FileSystem.Stream)
    (v' : Volume) : Prop where
  preparing : Preparing v v'
  path : log'.path = log.path
  stream : log'.stream = none ∨ log'.stream = log.stream

theorem turned_rotateIfNeeded (v : Volume) (incoming : Nat) (log : AuditLog FileSystem.Stream) :
    After (rotateIfNeeded Volume.disk incoming log) v (Turned log v) := by
  refine (after_status v _).bind fun answer v₁ hlooked => ?_
  subst hlooked
  have hsame : Turned log v₁ log v₁ := ⟨.refl v₁, rfl, .inr rfl⟩
  dsimp only
  split
  · exact After.pure hsame
  · split
    · exact After.pure hsame
    · refine (preparing_shiftBackups v₁ _ _).bind fun _ v₂ hshifted => ?_
      refine (preparing_moveFile v₂ _ _).bind fun _ v₃ hmoved => ?_
      exact After.pure ⟨hshifted.trans hmoved, rfl, .inl rfl⟩

/-- What a log comes to by opening its file, or trying to. In a silent attempt it is the file at the
    path that was opened or refused. -/
structure Readied (log : AuditLog FileSystem.Stream) (v : Volume) (log' : AuditLog FileSystem.Stream)
    (v' : Volume) : Prop where
  preparing : Preparing v v'
  refused : log'.stream = none → v'.console = v.console → v'.files.openFile log.path = (v'.files, none)
  opened {n : Nat} : log'.stream = some (.file n) →
    log.stream = some (.file n) ∨ v'.files.fileAt? log.path = some n

/-- The file is opened once all that leads to it was provided. -/
theorem readied_openAppend {v₁ : Volume} (hprovided : Preparing v v₁) :
    After (do return { log with stream := ← Volume.disk.openAppend log.path }) v₁ (Readied log v) := by
  have hopen : After (Volume.disk.openAppend log.path) v₁ fun stream v₂ =>
      v₂ = { v₁ with files := (v₁.files.openFile log.path).1 } ∧ stream = (v₁.files.openFile log.path).2 :=
    ⟨rfl, rfl⟩
  refine hopen.bind fun stream v₂ hopened => After.pure ?_
  obtain ⟨rfl, rfl⟩ := hopened
  refine ⟨hprovided.trans ⟨contents_openFile, .of_eq rfl⟩, fun hnone _ => ?_, fun {n} hsome => .inr ?_⟩
  · have hsame : (v₁.files.openFile log.path).1 = v₁.files := openFile_of_none_opened hnone
    dsimp only
    rw [hsame]
    exact Prod.ext hsame hnone
  · exact fileAt?_of_openFile (Prod.ext rfl hsome)

/-- The log stays closed, but says so. -/
theorem readied_complain (hclosed : log.stream = none) {v₁ : Volume} (hprovided : Preparing v v₁)
    {line : Bytes} (hline : IsComplaint line) :
    After (do Volume.disk.complain line; return log) v₁ (Readied log v) := by
  have hcomplained : Preparing v₁ { v₁ with console := v₁.console ++ [line] } := preparing_complain v₁ hline
  refine ⟨hprovided.trans hcomplained, fun _ hsilent => ?_, fun {n} hsome => ?_⟩
  · exact absurd (hprovided.console.silent hcomplained.console hsilent).2 (by simp)
  · cases hclosed.symm.trans hsome

theorem readied_ensureOpen (v : Volume) (log : AuditLog FileSystem.Stream) :
    After (ensureOpen Volume.disk log) v (Readied log v) := by
  unfold ensureOpen
  dsimp only
  split
  · next hopen =>
    refine After.pure ⟨.refl v, fun hnone _ => ?_, fun {n} hsome => .inl hsome⟩
    rw [hnone] at hopen
    cases hopen
  · next hstream =>
    have hclosed : log.stream = none := Option.not_isSome_iff_eq_none.1 hstream
    split
    · refine (after_status v _).bind fun answer v₁ hlooked => ?_
      subst hlooked
      cases answer with
      | error errno => exact readied_complain hclosed (.refl v₁) ⟨_, _, rfl⟩
      | ok found =>
        dsimp only
        split
        · have hcreate : After (Volume.disk.createDirectories (Path.parent log.path)) v₁ fun _ v₂ =>
              Preparing v₁ v₂ := ⟨contents_createDirectories, .of_eq rfl⟩
          refine hcreate.bind fun refused v₂ hprovided => ?_
          cases refused with
          | none => exact readied_openAppend hprovided
          | some errno => exact readied_complain hclosed hprovided ⟨_, _, rfl⟩
        · exact readied_openAppend (.refl v₁)
    · exact readied_openAppend (.refl v)

theorem Turned.readied {log₁ log₂ : AuditLog FileSystem.Stream} {v₁ v₂ : Volume}
    (h : Turned log v log₁ v₁) (h₁ : Readied log₁ v₁ log₂ v₂) : Readied log v log₂ v₂ := by
  refine ⟨h.preparing.trans h₁.preparing, fun hnone hsilent => ?_, fun {n} hsome => ?_⟩
  · rw [← h.path]
    exact h₁.refused hnone (h.preparing.console.silent h₁.preparing.console hsilent).2
  · rcases h₁.opened hsome with hbefore | hpath
    · rcases h.stream with hclosed | hsame
      · cases hclosed.symm.trans hbefore
      · exact .inl (hsame ▸ hbefore)
    · exact .inr (h.path ▸ hpath)

/-! ## The line -/

/-- The log and the volume once room was made for a line and the log was opened. -/
def readied (incoming : Nat) (log : AuditLog FileSystem.Stream) (v : Volume) :
    AuditLog FileSystem.Stream × Volume :=
  (rotateIfNeeded Volume.disk incoming log >>= ensureOpen Volume.disk).run v

theorem readied_spec (incoming : Nat) (log : AuditLog FileSystem.Stream) (v : Volume) :
    Readied log v (readied incoming log v).1 (readied incoming log v).2 :=
  (turned_rotateIfNeeded v incoming log).bind fun log₁ v₁ hturned =>
    (readied_ensureOpen v₁ log₁).mono fun _ _ hreadied => hturned.readied hreadied

/-- What becomes of a volume by a line for a stream. -/
def lined (line : Bytes) (stream : Option FileSystem.Stream) (v : Volume) : Volume :=
  match stream with
  | none | some (.device .null) => v
  | some (.device .full) => { v with console := v.console ++ [complaint "audit log write failed" none] }
  | some (.file n) => { v with files := v.files.setBytes n (v.files.bytes n ++ (line ++ [0x0a])) }

/-- The volume once a line was sent to the stream that a log has when it is readied. -/
def sent (line : Bytes) (log : AuditLog FileSystem.Stream) (v : Volume) : Volume :=
  lined line (readied (line.length + 1) log v).1.stream (readied (line.length + 1) log v).2

theorem run_append (line : Bytes) (sequence : Nat) (mac : Bytes) (log : AuditLog FileSystem.Stream) (v : Volume) :
    ((append Volume.disk line sequence mac log).run v).2 = sent line log v := by
  unfold append
  have hrun (f : AuditLog FileSystem.Stream → StateM Volume (AuditLog FileSystem.Stream)) :
      ((do f (← ensureOpen Volume.disk (← rotateIfNeeded Volume.disk (line.length + 1) log))).run v) =
        (f (readied (line.length + 1) log v).1).run (readied (line.length + 1) log v).2 := rfl
  rw [hrun, sent]
  cases (readied (line.length + 1) log v).1.stream with
  | none => rfl
  | some stream =>
    cases stream with
    | file n => rfl
    | device device => cases device <;> rfl

theorem run_complaints (complaints : List Bytes) (v : Volume) :
    (complaints.forM Volume.disk.complain).run v = ((), v.told complaints) := by
  induction complaints generalizing v with
  | nil => exact Prod.ext rfl (by simp [Volume.told]; rfl)
  | cons line rest ih =>
    refine (ih (v.told [line])).trans ?_
    rw [Volume.told, Volume.told, List.append_assoc]
    rfl

variable {crypto : Crypto} {now : Int} {event : Event}

/-- Without a tag there is a complaint and no line. -/
theorem run_log_of_error (hon : log.enabled = true) {object : Bytes} {error : CodedError}
    (hobject : (Event.Json.format crypto event (Calendar.timestamp now)).outcome = .ok object)
    (hmac : crypto.hmac log.key (chained log.lastMac (log.counter + 1) object) = .error (.coded error)) :
    (logged Volume.disk crypto now event (log, v)).2 =
      (v.told (Event.Json.format crypto event (Calendar.timestamp now)).complaints).told
        [complaint "audit mac failed" (some error.code)] := by
  unfold logged AuditLog.log
  rw [if_neg (by simp [hon])]
  dsimp only
  rw [hobject]
  dsimp only
  rw [hmac]
  dsimp only
  rw [StateT.run_bind, run_complaints]
  rfl

/-- With its tag the line is sealed, and goes to the stream that the log then has. -/
theorem run_log_of_mac (hon : log.enabled = true) {object mac : Bytes}
    (hobject : (Event.Json.format crypto event (Calendar.timestamp now)).outcome = .ok object)
    (hmac : crypto.hmac log.key (chained log.lastMac (log.counter + 1) object) = .ok mac) :
    (logged Volume.disk crypto now event (log, v)).2 =
      sent (sealed object (log.counter + 1) mac) log
        (v.told (Event.Json.format crypto event (Calendar.timestamp now)).complaints) := by
  unfold logged AuditLog.log
  rw [if_neg (by simp [hon])]
  dsimp only
  rw [hobject]
  dsimp only
  rw [hmac]
  dsimp only
  rw [StateT.run_bind, run_complaints]
  exact run_append _ _ mac log _

/-! ## Lost and left -/

/-- Lines as they are written: each ends with a newline. -/
def Whole (bytes : Bytes) : Prop := bytes = [] ∨ bytes.getLast? = some 0x0a

/-- The file at a path is what it was and a line, which is a line of its own and the last. -/
def Stands (path line : Bytes) (v v' : Volume) : Prop :=
  ∃ n, v'.files.fileAt? path = some n ∧ Whole (v.files.bytes n) ∧
    v'.files.bytes n = v.files.bytes n ++ (line ++ [0x0a])

/-- An event has left its line at the path of the log. -/
def Left (crypto : Crypto) (now : Int) (event : Event) (log : AuditLog FileSystem.Stream) (v v' : Volume) : Prop :=
  ∃ object mac, (Event.Json.format crypto event (Calendar.timestamp now)).outcome = .ok object ∧
    crypto.hmac log.key (chained log.lastMac (log.counter + 1) object) = .ok mac ∧
    Stands log.path (sealed object (log.counter + 1) mac) v v'

/-- What is wrong with a log that was readied, and says nothing about it. -/
inductive Astray (log : AuditLog FileSystem.Stream) (log' : AuditLog FileSystem.Stream) (v' : Volume) : Prop
  /-- Its file cannot be opened. -/
  | refused (h : log'.stream = none) (hopen : v'.files.openFile log.path = (v'.files, none))
  /-- It is open on a device that swallows everything. -/
  | swallowed (h : log'.stream = some (.device .null))
  /-- It was open already, on a file that its path does not lead to any more. -/
  | stray {n : Nat} (h : log'.stream = some (.file n)) (hopen : log.stream = some (.file n))
      (hpath : v'.files.fileAt? log.path ≠ some n)
  /-- Its file ends within a line, and the new one is joined to that. -/
  | torn {n : Nat} (h : log'.stream = some (.file n)) (hpath : v'.files.fileAt? log.path = some n)
      (htorn : ¬Whole (v'.files.bytes n))

/-- The line of an event is sealed, and goes astray without a complaint. -/
def Lost (crypto : Crypto) (now : Int) (event : Event) (log : AuditLog FileSystem.Stream) (v : Volume) : Prop :=
  ∃ object mac, Event.Json.format crypto event (Calendar.timestamp now) = ⟨[], .ok object⟩ ∧
    crypto.hmac log.key (chained log.lastMac (log.counter + 1) object) = .ok mac ∧
    (readied ((sealed object (log.counter + 1) mac).length + 1) log v).2.console = v.console ∧
    Astray log (readied ((sealed object (log.counter + 1) mac).length + 1) log v).1
      (readied ((sealed object (log.counter + 1) mac).length + 1) log v).2

theorem not_stands_of_preparing {line : Bytes} {v' : Volume} (h : Preparing v v') : ¬Stands path line v v' := by
  rintro ⟨n, -, -, hbytes⟩
  rw [h.bytes_eq, List.self_eq_append_right] at hbytes
  exact absurd hbytes (by simp)

/-- Where a line was written to a file, the line stands at a path iff it is the path of the file. -/
theorem stands_setBytes_iff {line : Bytes} {v' : Volume} (h : Preparing v v') {n : Nat} :
    Stands path line v { v' with files := v'.files.setBytes n (v'.files.bytes n ++ (line ++ [0x0a])) } ↔
      v'.files.fileAt? path = some n ∧ Whole (v.files.bytes n) := by
  unfold Stands
  dsimp only
  rw [fileAt?_setBytes]
  constructor
  · rintro ⟨k, hk, hwhole, hbytes⟩
    rw [bytes_setBytes, h.bytes_eq, h.bytes_eq] at hbytes
    split at hbytes
    · next heq => exact ⟨heq ▸ hk, heq ▸ hwhole⟩
    · rw [List.self_eq_append_right] at hbytes
      exact absurd hbytes (by simp)
  · rintro ⟨hn, hwhole⟩
    refine ⟨n, hn, hwhole, ?_⟩
    rw [bytes_setBytes, if_pos rfl, h.bytes_eq]

theorem murmured_lined (line : Bytes) (stream : Option FileSystem.Stream) (v : Volume) :
    Murmured v (lined line stream v) := by
  unfold lined
  split
  · exact .of_eq rfl
  · exact .of_eq rfl
  · exact murmured_told fun _ hline => List.mem_singleton.1 hline ▸ ⟨_, _, rfl⟩
  · exact .of_eq rfl

theorem not_astray_of_full {log' : AuditLog FileSystem.Stream} {v' : Volume}
    (hstream : log'.stream = some (.device .full)) : ¬Astray log log' v' := by
  rintro (⟨h, -⟩ | h | ⟨h, -, -⟩ | ⟨h, -, -⟩) <;> cases hstream.symm.trans h

/-- A log that is open on a file is astray iff the file is not the one at its path, or ends within
    a line. -/
theorem Readied.astray_iff {log' : AuditLog FileSystem.Stream} {v' : Volume} (h : Readied log v log' v')
    {n : Nat} (hstream : log'.stream = some (.file n)) :
    Astray log log' v' ↔ ¬(v'.files.fileAt? log.path = some n ∧ Whole (v'.files.bytes n)) := by
  constructor
  · rintro (⟨h, -⟩ | h | ⟨h, -, hpath⟩ | ⟨h, hpath, htorn⟩) ⟨hright, hwhole⟩ <;> cases hstream.symm.trans h
    · exact hpath hright
    · exact htorn hwhole
  · intro hwrong
    by_cases hright : v'.files.fileAt? log.path = some n
    · exact .torn hstream hright fun hwhole => hwrong ⟨hright, hwhole⟩
    · exact .stray hstream ((h.opened hstream).resolve_right hright) hright

/-- A line that is sent stands at the path of the log, or there is a complaint, iff the log has not
    gone astray in silence. -/
theorem stands_or_complained_iff (line : Bytes) (log : AuditLog FileSystem.Stream) (v : Volume) :
    Stands log.path line v (sent line log v) ∨ Complained v (sent line log v) ↔
      ¬((readied (line.length + 1) log v).2.console = v.console ∧
        Astray log (readied (line.length + 1) log v).1 (readied (line.length + 1) log v).2) := by
  have hspec := readied_spec (line.length + 1) log v
  unfold sent
  generalize readied (line.length + 1) log v = ready at hspec ⊢
  obtain ⟨log', v'⟩ := ready
  dsimp only at hspec ⊢
  have hprepared := hspec.preparing
  have hconsole := hprepared.console.trans (murmured_lined line log'.stream v')
  by_cases hsilent : v'.console = v.console
  · rw [hconsole.complained_iff]
    have hnowhere : ¬Stands log.path line v v' := not_stands_of_preparing hprepared
    have hneither : ¬(Stands log.path line v v' ∨ v'.console ≠ v.console) :=
      not_or.2 ⟨hnowhere, fun h => h hsilent⟩
    cases hstream : log'.stream with
    | none =>
      refine iff_of_false hneither (not_not.2 ⟨hsilent, ?_⟩)
      exact .refused hstream (hspec.refused hstream hsilent)
    | some stream =>
      cases stream with
      | device device =>
        cases device with
        | null => exact iff_of_false hneither (not_not.2 ⟨hsilent, .swallowed hstream⟩)
        | full =>
          refine iff_of_true (.inr fun hsame => ?_) fun h => not_astray_of_full hstream h.2
          rw [← hsilent] at hsame
          exact absurd hsame (by simp [lined])
      | file n =>
        refine (or_iff_left fun h => h hsilent).trans ((stands_setBytes_iff hprepared).trans ?_)
        rw [hspec.astray_iff hstream, hprepared.bytes_eq, not_and, not_not]
        exact ⟨fun h _ => h, fun h => h hsilent⟩
  · refine iff_of_true (.inr (hconsole.complained_iff.2 fun hsame => hsilent ?_)) fun h => hsilent h.1
    exact (hprepared.console.silent (murmured_lined line log'.stream v') hsame).1

theorem murmured_sent (line : Bytes) (log : AuditLog FileSystem.Stream) (v : Volume) :
    Murmured v (sent line log v) :=
  (readied_spec _ log v).preparing.console.trans (murmured_lined line _ _)

/-- An event has one object, and that has one tag. -/
theorem left_iff {object mac : Bytes} {v' : Volume}
    (hobject : (Event.Json.format crypto event (Calendar.timestamp now)).outcome = .ok object)
    (hmac : crypto.hmac log.key (chained log.lastMac (log.counter + 1) object) = .ok mac) :
    Left crypto now event log v v' ↔ Stands log.path (sealed object (log.counter + 1) mac) v v' := by
  constructor
  · rintro ⟨object', mac', hobject', hmac', hstands⟩
    cases hobject.symm.trans hobject'
    cases hmac.symm.trans hmac'
    exact hstands
  · exact fun hstands => ⟨object, mac, hobject, hmac, hstands⟩

theorem lost_iff {object mac : Bytes}
    (hformat : Event.Json.format crypto event (Calendar.timestamp now) = ⟨[], .ok object⟩)
    (hmac : crypto.hmac log.key (chained log.lastMac (log.counter + 1) object) = .ok mac) :
    Lost crypto now event log v ↔
      (readied ((sealed object (log.counter + 1) mac).length + 1) log v).2.console = v.console ∧
        Astray log (readied ((sealed object (log.counter + 1) mac).length + 1) log v).1
          (readied ((sealed object (log.counter + 1) mac).length + 1) log v).2 := by
  constructor
  · rintro ⟨object', mac', hformat', hmac', hlost⟩
    cases hformat.symm.trans hformat'
    cases hmac.symm.trans hmac'
    exact hlost
  · exact fun hlost => ⟨object, mac, hformat, hmac, hlost⟩

/-- A call of an enabled log leaves its line, as the last of the file at its path, or makes a
    complaint, iff its line does not get lost. -/
theorem left_or_complained_iff (hon : log.enabled = true) (hcrypto : crypto.Coded) :
    Left crypto now event log v (logged Volume.disk crypto now event (log, v)).2 ∨
        Complained v (logged Volume.disk crypto now event (log, v)).2 ↔
      ¬Lost crypto now event log v := by
  obtain ⟨object, hobject⟩ := Event.Json.exists_format hcrypto event (Calendar.timestamp now)
  have htold := murmured_told (v := v) (Event.Json.isComplaint_of_mem_format crypto event (Calendar.timestamp now))
  cases hmac : crypto.hmac log.key (chained log.lastMac (log.counter + 1) object) with
  | error fault =>
    cases fault with
    | plain message => exact absurd hmac (hcrypto.hmac _ _ _)
    | coded error =>
      rw [run_log_of_error hon hobject hmac]
      refine iff_of_true (.inr (htold.complained (complained_told _))) ?_
      rintro ⟨object', mac, hformat, hmac', -⟩
      rw [hformat, Except.ok.injEq] at hobject
      subst hobject
      cases hmac.symm.trans hmac'
  | ok mac =>
    rw [run_log_of_mac hon hobject hmac]
    by_cases hnone : (Event.Json.format crypto event (Calendar.timestamp now)).complaints = []
    · have hsame : v.told (Event.Json.format crypto event (Calendar.timestamp now)).complaints = v := by
        rw [hnone, Volume.told, List.append_nil]
      have hformat : Event.Json.format crypto event (Calendar.timestamp now) = ⟨[], .ok object⟩ := by
        rw [← hnone, ← hobject]
      rw [hsame, left_iff hobject hmac, lost_iff hformat hmac]
      exact stands_or_complained_iff _ log v
    · have hcomplained : Complained v (v.told (Event.Json.format crypto event (Calendar.timestamp now)).complaints) :=
        htold.complained_iff.2 fun hsame => hnone (List.append_right_eq_self.1 hsame)
      refine iff_of_true (.inr (hcomplained.trans (murmured_sent _ _ _))) ?_
      rintro ⟨object', mac', hformat, -⟩
      exact hnone (congrArg Written.complaints hformat)

/-! ## A directory in the place of the log -/

/-- A volume with a directory where `narrow` has its file. -/
def blocked : Volume where
  files := FileSystem.fresh.setNode [Bytes.ofString "work", Bytes.ofString "log"] .directory

theorem coded_standard (entropy : Nat → Bytes) : (Crypto.standard entropy).Coded where
  sha256 _ _ := nofun
  hmac _ _ _ := nofun
  random n message := by
    unfold Crypto.standard
    dsimp only
    split <;> exact nofun

/-- In an empty directory the line of a ping is left, and so it does not get lost. -/
theorem left_or_complained_of_ping :
    Left narrowCrypto 0 ping narrow { files := .fresh } (pinged 1).2 ∧
      ¬Lost narrowCrypto 0 ping narrow { files := .fresh } := by
  have hleft : Left narrowCrypto 0 ping narrow { files := .fresh } (pinged 1).2 :=
    ⟨pingObject 0, _, rfl, rfl, 0, by decide +kernel, .inl rfl, by decide +kernel⟩
  exact ⟨hleft, (left_or_complained_iff rfl (coded_standard _)).1 (.inl hleft)⟩

/-- Where the log cannot be opened, the line of a ping is nowhere, and the console stays empty. -/
theorem not_left_or_complained_of_blocked :
    narrow.enabled = true ∧ narrowCrypto.Coded ∧
      ¬(Left narrowCrypto 0 ping narrow blocked (logged Volume.disk narrowCrypto 0 ping (narrow, blocked)).2 ∨
        Complained blocked (logged Volume.disk narrowCrypto 0 ping (narrow, blocked)).2) := by
  refine ⟨rfl, coded_standard _, ?_⟩
  rintro (⟨object, mac, -, -, n, hpath, -⟩ | hcomplained)
  · have hnone : (logged Volume.disk narrowCrypto 0 ping (narrow, blocked)).2.files.fileAt? narrow.path = none := by
      decide +kernel
    cases hnone.symm.trans hpath
  · have hsilent : (logged Volume.disk narrowCrypto 0 ping (narrow, blocked)).2.console = [] := by
      decide +kernel
    exact hcomplained.murmured.complained_iff.1 hcomplained hsilent

end AuditLog

end Fingerprint
