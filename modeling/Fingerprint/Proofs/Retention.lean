import Fingerprint.Proofs.AuditLog
import Fingerprint.Proofs.Rotation

/-!
# What the audit log retains

A log starts in an empty directory, and nobody else touches the files there. As
long as no operation of the disk fails, the files hold the last of the lines
that were written, in order: the oldest are in the last backup, the newest in
the log itself. No line is torn by a rotation, and there is one only for a line
that does not fit.

The first line of all may be too long already. Then there is no file that could
become a backup, and the disk refuses to rename it, which is no failure here.

A disk that serves a log (`Disk.Serves`) may refuse what it wants, so the files
that it holds are hardly known. Here it is said of each operation what it does
if nothing fails, and failures are barred once, at the end of a run.

* `Disk.Keeps`: what a log relies on; `Volume.keeps`: a volume does it;
* `AuditLog.after_log_entered`: what a call makes of the files;
* `AuditLog.Calls`: the runs of a log, and `Calls.kept`, what holds after each call;
* `AuditLog.Calls.retained`.
-/

namespace Fingerprint

open AuditLog

variable {σ Stream : Type}

/-- If nothing failed up to the later state, then nothing did up to the earlier one, and what
    happened in between is as it should be. -/
def Barring (Faultless : σ → Prop) (s s' : σ) (happened : Prop) : Prop :=
  Faultless s' → Faultless s ∧ happened

namespace Barring

variable {Faultless : σ → Prop} {s s₁ s₂ : σ} {P Q R : Prop}

theorem mono (h : Barring Faultless s s₁ P) (himp : P → Q) : Barring Faultless s s₁ Q :=
  fun hfaultless => (h hfaultless).imp_right himp

theorem trans (h : Barring Faultless s s₁ P) (h₁ : Barring Faultless s₁ s₂ Q) (himp : P → Q → R) :
    Barring Faultless s s₂ R := fun hfaultless =>
  have ⟨hfaultless₁, hQ⟩ := h₁ hfaultless
  have ⟨hfaultless₀, hP⟩ := h hfaultless₁
  ⟨hfaultless₀, himp hP hQ⟩

theorem refl (h : P) : Barring Faultless s s P := fun hfaultless => ⟨hfaultless, h⟩

end Barring

/-- A disk that keeps the files of a log at `path`, which nobody else touches. In a state the
    directory of the log holds what `held` says. `Ready` says that the state is sound, and that the
    stream, if there is one, writes to the log; `Faultless` that no operation failed so far. -/
structure Disk.Keeps (disk : Disk (StateM σ) Stream) (path : Bytes) (held : σ → Directory)
    (Ready : σ → Option Stream → Prop) (Faultless : σ → Prop) : Prop where
  /-- A stream may be given up at any time. -/
  closed {s : σ} {stream : Option Stream} : Ready s stream → Ready s none
  status {s : σ} {stream : Option Stream} {n : Nat} : n ≤ backups → Ready s stream →
    After (disk.status (slot path n)) s fun answer s' => Ready s' stream ∧
      Barring Faultless s s' (held s' = held s ∧ answer = .ok (Shelf.status (held s (slot path n))))
  /-- To look for the directory of the log and to make it is nothing to the files. -/
  parent {s : σ} : Path.parent path ≠ [] → Ready s none →
    After (disk.status (Path.parent path)) s fun answer s' => Ready s' none ∧
      Barring Faultless s s' (held s' = held s ∧ ∃ found, answer = .ok found)
  createDirectories {s : σ} : Path.parent path ≠ [] → Ready s none →
    After (disk.createDirectories (Path.parent path)) s fun refused s' => Ready s' none ∧
      Barring Faultless s s' (held s' = held s ∧ refused = none)
  /-- To rename a file that is not there may be refused. -/
  rename {s : σ} {n : Nat} : n < backups → Ready s none →
    After (disk.rename (slot path n) (slot path (n + 1))) s fun _ s' => Ready s' none ∧
      Barring Faultless s s' (held s' = shift path n (held s))
  openAppend {s : σ} : Ready s none →
    After (disk.openAppend path) s fun stream s' => Ready s' stream ∧
      Barring Faultless s s' (held s' = (held s).extend path [] ∧ stream.isSome)
  append {s : σ} {stream : Stream} {line : Bytes} : Ready s (some stream) →
    After (disk.append stream line) s fun _ s' => Ready s' (some stream) ∧
      Barring Faultless s s' (held s' = (held s).extend path line)
  complain {s : σ} {stream : Option Stream} {line : Bytes} : Ready s stream →
    After (disk.complain line) s fun _ s' => Ready s' stream ∧ Barring Faultless s s' (held s' = held s)

namespace AuditLog

variable {disk : Disk (StateM σ) Stream} {path : Bytes} {held : σ → Directory}
  {Ready : σ → Option Stream → Prop} {Faultless : σ → Prop} {s : σ} {log : AuditLog Stream}

/-! ## Rotating -/

theorem after_moveFile_shift (hdisk : disk.Keeps path held Ready Faultless) {n : Nat} (hn : n < backups)
    (hs : Ready s none) :
    After (moveFile disk (slot path n) (slot path (n + 1))) s fun _ s' =>
      Ready s' none ∧ Barring Faultless s s' (held s' = shift path n (held s)) := by
  refine (hdisk.rename hn hs).bind fun refused s₁ ⟨hs₁, hmoved⟩ => ?_
  cases refused with
  | none => exact After.pure ⟨hs₁, hmoved⟩
  | some errno =>
    refine (hdisk.complain hs₁).mono fun _ s₂ ⟨hs₂, hsame⟩ => ⟨hs₂, ?_⟩
    exact hmoved.trans hsame fun hheld₁ hheld₂ => hheld₂.trans hheld₁

theorem after_shiftBackups_shifted (hdisk : disk.Keeps path held Ready Faultless) {n : Nat} (hn : n < backups)
    (hs : Ready s none) :
    After (shiftBackups disk path n) s fun _ s' =>
      Ready s' none ∧ Barring Faultless s s' (held s' = shifted path n (held s)) := by
  induction n generalizing s with
  | zero => exact After.pure ⟨hs, .refl rfl⟩
  | succ n ih =>
    -- Once the last backup was moved, if it was there, the others follow.
    have hrest : ∀ s₁, Ready s₁ none → Barring Faultless s s₁ (held s₁ = shift path (n + 1) (held s)) →
        After (shiftBackups disk path n) s₁ fun _ s' =>
          Ready s' none ∧ Barring Faultless s s' (held s' = shifted path (n + 1) (held s)) := by
      intro s₁ hs₁ hmoved
      refine (ih (Nat.lt_of_succ_lt hn) hs₁).mono fun _ s₂ hothers => ⟨hothers.1, ?_⟩
      exact hmoved.trans hothers.2 fun hheld₁ hheld₂ => by rw [hheld₂, hheld₁, shifted]
    refine (hdisk.status (Nat.le_of_lt hn) hs).bind fun answer s₁ hlooked => ?_
    obtain ⟨hs₁, hfound⟩ := hlooked
    cases answer with
    | error errno => exact hrest s₁ hs₁ (hfound.mono fun h => by cases h.2)
    | ok found =>
      dsimp only
      split
      · refine (after_moveFile_shift hdisk hn hs₁).bind fun _ s₂ hmoved => hrest s₂ hmoved.1 ?_
        exact hfound.trans hmoved.2 fun hheld₁ hheld₂ => by rw [hheld₂, hheld₁.1]
      · next habsent =>
        refine hrest s₁ hs₁ (hfound.mono fun hstatus => ?_)
        rw [hstatus.1, shift, if_neg fun hsome => habsent ?_]
        obtain ⟨bytes, hbytes⟩ := Option.isSome_iff_exists.1 hsome
        rw [Except.ok.inj hstatus.2, hbytes]
        rfl

/-- What making room comes to: nothing if the bytes fit, and a rotation if not. -/
def Room (path : Bytes) (maxBytes incoming : Nat) (directory directory' : Directory) : Prop :=
  ((directory path).getD []).length + incoming ≤ maxBytes ∧ directory' = directory ∨
    maxBytes < ((directory path).getD []).length + incoming ∧ directory' = rotated path directory

/-- What all states of a log have in common. -/
structure Alike (log log' : AuditLog Stream) : Prop where
  path : log'.path = log.path
  maxBytes : log'.maxBytes = log.maxBytes
  enabled : log'.enabled = log.enabled

theorem Alike.refl (log : AuditLog Stream) : Alike log log := ⟨rfl, rfl, rfl⟩

theorem Alike.trans {log log₁ log₂ : AuditLog Stream} (h : Alike log log₁) (h₁ : Alike log₁ log₂) :
    Alike log log₂ := ⟨h₁.path.trans h.path, h₁.maxBytes.trans h.maxBytes, h₁.enabled.trans h.enabled⟩

/-- What an action of a log comes to: the state is sound, and barring failures it `happened`. -/
structure Done (Ready : σ → Option Stream → Prop) (Faultless : σ → Prop) (log : AuditLog Stream) (s : σ)
    (log' : AuditLog Stream) (s' : σ) (happened : Prop) : Prop where
  ready : Ready s' log'.stream
  alike : Alike log log'
  barring : Barring Faultless s s' happened

/-- The length of a file, as it is found. -/
def lengthFound : FileStatus → Option Nat
  | .absent => some 0
  | .regular size => some size
  | .directory | .special => none

theorem lengthFound_status (file : Option Bytes) :
    lengthFound (Shelf.status file) = some (file.getD []).length := by
  cases file <;> rfl

theorem after_rotation (hdisk : disk.Keeps log.path held Ready Faultless) (hs : Ready s none) :
    After (do
        shiftBackups disk log.path (backups - 1)
        moveFile disk log.path (backupPath log.path 1)
        Pure.pure { log with stream := none, lastMac := zeroMac, counter := 0 }) s fun log' s' =>
      Done Ready Faultless log s log' s' (held s' = rotated log.path (held s)) := by
  refine (after_shiftBackups_shifted hdisk (by decide) hs).bind fun _ s₁ hshifted => ?_
  refine (after_moveFile_shift hdisk (n := 0) (by decide) hshifted.1).bind fun _ s₂ hmoved => ?_
  refine After.pure ⟨hmoved.1, ⟨rfl, rfl, rfl⟩, hshifted.2.trans hmoved.2 fun h h' => ?_⟩
  rw [h', h, rotated]

theorem after_rotateIfNeeded_room (hdisk : disk.Keeps log.path held Ready Faultless) (incoming : Nat)
    (hs : Ready s log.stream) :
    After (rotateIfNeeded disk incoming log) s fun log' s' =>
      Done Ready Faultless log s log' s' (Room log.path log.maxBytes incoming (held s) (held s')) := by
  refine (hdisk.status (n := 0) (Nat.zero_le _) hs).bind fun answer s₁ hlooked => ?_
  obtain ⟨hs₁, hfound⟩ := hlooked
  -- If it is known how long the file is, that decides.
  have hsized : ∀ size, Barring Faultless s s₁
        (held s₁ = held s ∧ some size = some ((held s log.path).getD []).length) →
      After (if size + incoming ≤ log.maxBytes then Pure.pure log
        else do
          shiftBackups disk log.path (backups - 1)
          moveFile disk log.path (backupPath log.path 1)
          Pure.pure { log with stream := none, lastMac := zeroMac, counter := 0 }) s₁ fun log' s' =>
        Done Ready Faultless log s log' s' (Room log.path log.maxBytes incoming (held s) (held s')) := by
    intro size hsize
    split
    · next hfits =>
      refine After.pure ⟨hs₁, .refl log, hsize.mono fun h => .inl ⟨?_, h.1⟩⟩
      rwa [← Option.some.inj h.2]
    · next hfull =>
      refine (after_rotation hdisk (hdisk.closed hs₁)).mono fun log' s₂ hdone => ⟨hdone.ready, hdone.alike, ?_⟩
      refine hsize.trans hdone.barring fun h hrotated => .inr ⟨?_, h.1 ▸ hrotated⟩
      rw [← Option.some.inj h.2]
      exact Nat.lt_of_not_le hfull
  have hfailed (h : Barring Faultless s s₁ False) :
      After (Pure.pure log : StateM σ (AuditLog Stream)) s₁ fun log' s' =>
        Done Ready Faultless log s log' s' (Room log.path log.maxBytes incoming (held s) (held s')) :=
    After.pure ⟨hs₁, .refl log, h.mono False.elim⟩
  cases answer with
  | error errno => exact hfailed (hfound.mono fun h => by cases h.2)
  | ok found =>
    have hlength : Barring Faultless s s₁
        (held s₁ = held s ∧ lengthFound found = some ((held s log.path).getD []).length) :=
      hfound.mono fun h => ⟨h.1, by rw [Except.ok.inj h.2]; exact lengthFound_status _⟩
    cases found with
    | absent => exact hsized 0 hlength
    | regular size => exact hsized size hlength
    | directory => exact hfailed (hlength.mono fun h => by cases h.2)
    | special => exact hfailed (hlength.mono fun h => by cases h.2)

/-! ## Opening and writing -/

/-- What opening the log comes to: its file is there, and the log is open. -/
def Opens (path : Bytes) (directory directory' : Directory) (stream : Option Stream) : Prop :=
  (directory' = directory ∨ directory' = directory.extend path []) ∧ stream.isSome

theorem after_ensureOpen_opens (hdisk : disk.Keeps log.path held Ready Faultless) (hs : Ready s log.stream) :
    After (ensureOpen disk log) s fun log' s' =>
      Done Ready Faultless log s log' s' (Opens log.path (held s) (held s') log'.stream) := by
  unfold ensureOpen
  dsimp only
  split
  · next hopen => exact After.pure ⟨hs, .refl log, .refl ⟨.inl rfl, hopen⟩⟩
  · next hstream =>
    have hclosed : log.stream = none := Option.not_isSome_iff_eq_none.1 hstream
    rw [hclosed] at hs
    -- Whatever the directory needed, the file is opened after it or something failed.
    have hopen : ∀ s₁, Ready s₁ none → Barring Faultless s s₁ (held s₁ = held s) →
        After (do return { log with stream := ← disk.openAppend log.path }) s₁ fun log' s' =>
          Done Ready Faultless log s log' s' (Opens log.path (held s) (held s') log'.stream) := by
      intro s₁ hs₁ hsame
      refine (hdisk.openAppend hs₁).bind fun stream s₂ hopened => ?_
      refine After.pure ⟨hopened.1, ⟨rfl, rfl, rfl⟩, hsame.trans hopened.2 fun h h' => ?_⟩
      exact ⟨.inr (h ▸ h'.1), h'.2⟩
    have hfailed : ∀ s₁ line, Ready s₁ none → Barring Faultless s s₁ False →
        After (do disk.complain line; return log) s₁ fun log' s' =>
          Done Ready Faultless log s log' s' (Opens log.path (held s) (held s') log'.stream) := by
      intro s₁ line hs₁ hfalse
      refine (hdisk.complain hs₁).bind fun _ s₂ hsame => After.pure ⟨?_, .refl log, ?_⟩
      · rw [hclosed]
        exact hsame.1
      · exact hfalse.trans hsame.2 fun h => h.elim
    split
    · next hparent =>
      have hne : Path.parent log.path ≠ [] := by simpa using hparent
      refine (hdisk.parent hne hs).bind fun answer s₁ hlooked => ?_
      obtain ⟨hs₁, hfound⟩ := hlooked
      cases answer with
      | error errno => exact hfailed s₁ _ hs₁ (hfound.mono fun h => by cases h.2.choose_spec)
      | ok found =>
        have hsame := hfound.mono And.left
        dsimp only
        split
        · refine (hdisk.createDirectories hne hs₁).bind fun refused s₂ hmade => ?_
          cases refused with
          | none => exact hopen s₂ hmade.1 (hsame.trans hmade.2 fun h h' => h'.1.trans h)
          | some errno => exact hfailed s₂ _ hmade.1 (hsame.trans hmade.2 fun _ h => by cases h.2)
        · exact hopen s₁ hs₁ hsame
    · exact hopen s hs (.refl rfl)

/-- A line that is written stands at the end of the log, whether its file was there or was made
    by opening it. -/
theorem entered_of_room {maxBytes : Nat} {line : Bytes} {directory directory₁ directory₂ directory₃ : Directory}
    {stream : Option Stream} (hroom : Room path maxBytes (line.length + 1) directory directory₁)
    (hopens : Opens path directory₁ directory₂ stream)
    (hwritten : directory₃ = directory₂.extend path (line ++ [0x0a])) :
    Entered path maxBytes directory [line] directory₃ := by
  have hline : directory₃ = directory₁.extend path (line ++ [0x0a]) := by
    rcases hopens.1 with h | h
    · rw [hwritten, h]
    · rw [hwritten, h, Directory.extend_extend, List.nil_append]
  rcases hroom with ⟨hfits, hkept⟩ | ⟨hfull, hrotated⟩
  · rw [hline, hkept]
    exact .fitted hfits
  · rw [hline, hrotated]
    exact .rotated hfull

theorem after_append_entered (hdisk : disk.Keeps log.path held Ready Faultless) (line : Bytes)
    (sequence : Nat) (mac : Bytes) (hs : Ready s log.stream) :
    After (append disk line sequence mac log) s fun log' s' =>
      Done Ready Faultless log s log' s' (Entered log.path log.maxBytes (held s) [line] (held s')) := by
  refine (after_rotateIfNeeded_room hdisk (line.length + 1) hs).bind fun log₁ s₁ hroom => ?_
  have hdisk₁ : disk.Keeps log₁.path held Ready Faultless := hroom.alike.path ▸ hdisk
  refine (after_ensureOpen_opens hdisk₁ hroom.ready).bind fun log₂ s₂ hopens => ?_
  have halike := hroom.alike.trans hopens.alike
  have hs₂ := hopens.ready
  have hopened := hopens.barring
  rw [hroom.alike.path] at hopened
  cases hstream : log₂.stream with
  | none =>
    refine After.pure ⟨hs₂, halike, hroom.barring.trans hopened fun _ h => ?_⟩
    simp [Opens, hstream] at h
  | some stream =>
    rw [hstream] at hs₂
    refine (hdisk.append hs₂).bind fun done s₃ hwritten => ?_
    have hentered : Barring Faultless s s₃ (Entered log.path log.maxBytes (held s) [line] (held s₃)) :=
      hroom.barring.trans (hopened.trans hwritten.2 And.intro) fun h h' => entered_of_room h h'.1 h'.2
    cases done with
    | true =>
      exact After.pure ⟨hstream ▸ hwritten.1, ⟨halike.path, halike.maxBytes, halike.enabled⟩, hentered⟩
    | false =>
      refine (hdisk.complain (hdisk.closed hwritten.1)).bind fun _ s₄ hsame => ?_
      refine After.pure ⟨hsame.1, ⟨halike.path, halike.maxBytes, halike.enabled⟩, ?_⟩
      exact hentered.trans hsame.2 fun h h' => h'.symm ▸ h

theorem after_complaints_kept (hdisk : disk.Keeps path held Ready Faultless) (complaints : List Bytes)
    {stream : Option Stream} (hs : Ready s stream) :
    After (complaints.forM disk.complain) s fun _ s' =>
      Ready s' stream ∧ Barring Faultless s s' (held s' = held s) := by
  induction complaints generalizing s with
  | nil => exact After.pure ⟨hs, .refl rfl⟩
  | cons line rest ih =>
    refine (hdisk.complain hs).bind fun _ s₁ ⟨hs₁, hsame⟩ => ?_
    exact (ih hs₁).mono fun _ s₂ ⟨hs₂, hsame₂⟩ => ⟨hs₂, hsame.trans hsame₂ fun h h' => h'.trans h⟩

/-- An event that can be written down, and whose tag can be computed, is entered as a line. -/
theorem after_log_entered (hdisk : disk.Keeps log.path held Ready Faultless) {crypto : Crypto} {now : Int}
    {event : Event} {object mac : Bytes} (henabled : log.enabled = true)
    (hobject : (Event.Json.format crypto event (Calendar.timestamp now)).outcome = .ok object)
    (hmac : crypto.hmac log.key (chained log.lastMac (log.counter + 1) object) = .ok mac)
    (hs : Ready s log.stream) :
    After (AuditLog.log disk crypto now event log) s fun result s' =>
      Done Ready Faultless log s result.1 s'
        (Entered log.path log.maxBytes (held s) [sealed object (log.counter + 1) mac] (held s')) := by
  unfold AuditLog.log
  rw [if_neg (by simp [henabled])]
  refine (after_complaints_kept hdisk _ hs).bind fun _ s₁ hsame => ?_
  rw [hobject]
  dsimp only
  rw [hmac]
  dsimp only
  refine (after_append_entered hdisk _ _ _ hsame.1).bind fun log' s₂ hdone => ?_
  exact After.pure ⟨hdone.ready, hdone.alike, hsame.2.trans hdone.barring fun h h' => h ▸ h'⟩

/-! ## Runs -/

/-- A call that is made in a state, with the state it leads to and the lines that it writes. -/
inductive Call (disk : Disk (StateM σ) Stream) (state : AuditLog Stream × σ) :
    AuditLog Stream × σ → List Bytes → Prop
  /-- A log that is not enabled writes nothing. -/
  | silent {crypto : Crypto} {now : Int} {event : Event} (hoff : state.1.enabled = false) :
      Call disk state (logged disk crypto now event state) []
  /-- The event can be written down and its tag computed. -/
  | written {crypto : Crypto} {now : Int} {event : Event} {object mac : Bytes}
      (hon : state.1.enabled = true)
      (hobject : (Event.Json.format crypto event (Calendar.timestamp now)).outcome = .ok object)
      (hmac : crypto.hmac state.1.key (chained state.1.lastMac (state.1.counter + 1) object) = .ok mac) :
      Call disk state (logged disk crypto now event state) [sealed object (state.1.counter + 1) mac]

/-- Calls one after the other, and all the lines that they wrote. -/
inductive Calls (disk : Disk (StateM σ) Stream) (start : AuditLog Stream × σ) :
    AuditLog Stream × σ → List Bytes → Prop
  | fresh : Calls disk start start []
  | next {state state' : AuditLog Stream × σ} {lines more : List Bytes}
      (h : Calls disk start state lines) (hcall : Call disk state state' more) :
      Calls disk start state' (lines ++ more)

variable {start : AuditLog Stream} {state state' : AuditLog Stream × σ} {lines more : List Bytes} {s₀ : σ}

theorem Call.entered (hcall : Call disk state state' more)
    (hdisk : disk.Keeps state.1.path held Ready Faultless) (hready : Ready state.2 state.1.stream) :
    Done Ready Faultless state.1 state.2 state'.1 state'.2
      (Entered state.1.path state.1.maxBytes (held state.2) more (held state'.2)) := by
  cases hcall with
  | silent hoff =>
    rw [logged_of_not_enabled hoff]
    exact ⟨hready, .refl _, .refl .silent⟩
  | written hon hobject hmac => exact after_log_entered hdisk hon hobject hmac hready

/-- What holds in every state of a run. -/
structure Kept (held : σ → Directory) (Ready : σ → Option Stream → Prop) (Faultless : σ → Prop)
    (start : AuditLog Stream) (lines : List Bytes) (state : AuditLog Stream × σ) : Prop where
  ready : Ready state.2 state.1.stream
  alike : Alike start state.1
  retains : Faultless state.2 → ∃ dropped segment,
    Retained start.path start.maxBytes lines (held state.2) dropped segment

theorem Kept.entered (h : Kept held Ready Faultless start lines state)
    (hdisk : disk.Keeps start.path held Ready Faultless) (hcall : Call disk state state' more) :
    Kept held Ready Faultless start (lines ++ more) state' ∧
      Barring Faultless state.2 state'.2
        (Entered start.path start.maxBytes (held state.2) more (held state'.2)) := by
  rw [← h.alike.path] at hdisk
  obtain ⟨hready, halike, hentered⟩ := hcall.entered hdisk h.ready
  rw [h.alike.path, h.alike.maxBytes] at hentered
  refine ⟨⟨hready, h.alike.trans halike, fun hfaultless => ?_⟩, hentered⟩
  obtain ⟨hbefore, hentered⟩ := hentered hfaultless
  obtain ⟨_, _, hretained⟩ := h.retains hbefore
  exact hretained.entered hentered

theorem Calls.kept (hdisk : disk.Keeps start.path held Ready Faultless) (hready : Ready s₀ none)
    (hclosed : start.stream = none) (hempty : ∀ p, held s₀ p = none)
    (hcalls : Calls disk (start, s₀) state lines) : Kept held Ready Faultless start lines state := by
  induction hcalls with
  | fresh => exact ⟨by rwa [hclosed], .refl start, fun _ => ⟨_, _, .empty hempty⟩⟩
  | next _ hcall ih => exact (ih.entered hdisk hcall).1

/-- A log starts in an empty directory. Then, if nothing failed up to the end of a call, the files
    hold the last of the lines that were written by this call and those before it: what is read in
    the three backups, the last first, and in the log is these lines, one after the other. The
    call came with a rotation only if its line did not fit. -/
theorem Calls.retained (hdisk : disk.Keeps start.path held Ready Faultless) (hready : Ready s₀ none)
    (hclosed : start.stream = none) (hempty : ∀ p, held s₀ p = none)
    (hcalls : Calls disk (start, s₀) state lines) (hcall : Call disk state state' more)
    (hfaultless : Faultless state'.2) :
    ∃ dropped segment,
      Retained start.path start.maxBytes (lines ++ more) (held state'.2) dropped segment ∧
        reading start.path (held state'.2) 3 = text (stored segment 3) ∧
        Entered start.path start.maxBytes (held state.2) more (held state'.2) := by
  obtain ⟨hkept, hentered⟩ := (hcalls.kept hdisk hready hclosed hempty).entered hdisk hcall
  obtain ⟨dropped, segment, hretained⟩ := hkept.retains hfaultless
  exact ⟨dropped, segment, hretained, hretained.reading_eq (Nat.le_refl _), (hentered hfaultless).2⟩

end AuditLog

/-! ## A log on a volume -/

namespace Volume

open FileSystem

/-- What the files in the working directory hold, by their names. -/
def held (volume : Volume) : Directory := fun name =>
  match volume.files.named? name with
  | some (.file number) => some (volume.files.bytes number)
  | _ => none

/-- All names in the working directory belong to the log. -/
def Private (name : Bytes) (volume : Volume) : Prop :=
  ∀ p node, volume.files.named? p = some node → ∃ n, p = slot name n

variable {name : Bytes} {volume : Volume} {stream : Option FileSystem.Stream}

theorem held_renamed {source target : Bytes} {fs' : FileSystem} (h : Renamed volume.files source target fs') :
    ({ volume with files := fs' } : Volume).held = volume.held.move source target := by
  funext p
  simp only [held, h.entry, bytes_renamed h, Directory.move, Function.update_apply]
  by_cases hsource : p = source
  · simp only [if_pos hsource]
  · by_cases htarget : p = target
    · simp only [if_neg hsource, if_pos htarget]
    · simp only [if_neg hsource, if_neg htarget]

theorem keeps_rename (hs : Sound name volume none) (hprivate : Private name volume) (hname : PlainName name)
    (hroom : name.length + 2 ≤ maxName) {n : Nat} (hn : n < backups) :
    After (Volume.disk.rename (slot name n) (slot name (n + 1))) volume fun _ volume' =>
      (Sound name volume' none ∧ Private name volume') ∧ volume'.held = shift name n volume.held := by
  have hsource := plainName_slot hname hroom (Nat.le_of_lt hn)
  have htarget := plainName_slot hname hroom hn
  have hne : slot name n ≠ slot name (n + 1) := fun h => Nat.succ_ne_self n (slot_injective h).symm
  rw [After, disk, run_act]
  cases hentry : volume.files.named? (slot name n) with
  | none =>
    rw [rename_of_none hs.directory hsource htarget hentry]
    refine ⟨⟨hs, hprivate⟩, ?_⟩
    rw [shift, if_neg (by simp [held, hentry])]
  | some node =>
    obtain ⟨number, -, rfl⟩ := hs.file hentry
    obtain ⟨fs', hrename, hrenamed⟩ := rename_of_file hs.directory hsource htarget hne hentry
      fun node hnode => (hs.file hnode).imp fun _ h => h.2
    rw [hrename]
    refine ⟨⟨hs.renamed hrenamed, fun p node hp => ?_⟩, ?_⟩
    · rw [hrenamed.entry] at hp
      split at hp
      · cases hp
      · split at hp
        · next htarget => exact ⟨n + 1, htarget⟩
        · exact hprivate p node hp
    · rw [shift, if_pos (by simp [held, hentry])]
      exact held_renamed hrenamed

theorem held_eq_none (hprivate : Private name volume) {p : Bytes} (hp : ∀ n, p ≠ slot name n) :
    volume.held p = none := by
  unfold held
  split
  · next number hentry =>
    obtain ⟨n, hn⟩ := hprivate p _ hentry
    exact absurd hn (hp n)
  · rfl

/-- A text at the end of the log is all that is new: there are no other files than those of
    the log. -/
theorem held_eq_extend {volume' : Volume} {text : Bytes} (hprivate : Private name volume)
    (hprivate' : Private name volume')
    (hshelf : volume'.shelf name = (volume.shelf name).put 0 ((volume.shelf name 0).getD [] ++ text)) :
    volume'.held = volume.held.extend name text := by
  funext p
  by_cases hp : ∃ n, p = slot name n
  · obtain ⟨n, rfl⟩ := hp
    refine (congrFun hshelf n).trans ?_
    cases n with
    | zero =>
      rw [Shelf.put_self, slot, Directory.extend_self]
      rfl
    | succ n =>
      rw [Shelf.put_of_ne (Nat.succ_ne_zero n), Directory.extend_of_ne slot_succ_ne]
      rfl
  · have hne : ∀ n, p ≠ slot name n := fun n h => hp ⟨n, h⟩
    have hlog : p ≠ name := hne 0
    rw [held_eq_none hprivate' hne, Directory.extend_of_ne hlog, held_eq_none hprivate hne]

theorem Private.withFile (hprivate : Private name volume) :
    Private name { volume with files := volume.files.withFile name } := by
  intro p node hp
  have hplace : volume.files.workingDirectory ++ [p] = volume.files.workingDirectory ++ [name] ↔ p = name := by
    simp
  have hentry := volume.files.node?_withFile name (volume.files.workingDirectory ++ [p])
  simp only [hplace] at hentry
  by_cases hlog : p = name
  · exact ⟨0, hlog⟩
  · rw [if_neg hlog] at hentry
    exact hprivate p node (hentry.symm.trans hp)

theorem keeps_openAppend (hs : Sound name volume none) (hprivate : Private name volume)
    (hname : PlainName name) :
    After (Volume.disk.openAppend name) volume fun stream volume' =>
      (Sound name volume' stream ∧ Private name volume') ∧
        volume'.held = volume.held.extend name [] ∧ stream.isSome := by
  have hopened := hs.after_openAppend hname
  rw [After, disk, run_act] at hopened ⊢
  cases hentry : volume.files.named? name with
  | none =>
    rw [openFile_of_none hs.directory hname hentry] at hopened ⊢
    refine ⟨⟨hopened.1, hprivate.withFile⟩, held_eq_extend hprivate hprivate.withFile ?_, rfl⟩
    rw [List.append_nil]
    exact hopened.2
  | some node =>
    obtain ⟨number, -, rfl⟩ := hs.file (n := 0) hentry
    rw [openFile_of_file hs.directory hname hentry] at hopened ⊢
    refine ⟨⟨hopened.1, hprivate⟩, held_eq_extend hprivate hprivate ?_, rfl⟩
    rw [List.append_nil]
    exact hopened.2

theorem keeps_append {opened : FileSystem.Stream} (hs : Sound name volume (some opened))
    (hprivate : Private name volume) (line : Bytes) :
    After (Volume.disk.append opened line) volume fun _ volume' =>
      (Sound name volume' (some opened) ∧ Private name volume') ∧
        volume'.held = volume.held.extend name line := by
  have hwritten := hs.after_append line
  obtain ⟨number, rfl, -⟩ := hs.opened rfl
  rw [After, disk, run_act] at hwritten ⊢
  obtain ⟨hsound, hshelf⟩ := hwritten rfl
  exact ⟨⟨hsound, hprivate⟩, held_eq_extend hprivate hprivate hshelf⟩

theorem keeps (hname : PlainName name) (hroom : name.length + 2 ≤ maxName) :
    Volume.disk.Keeps name held (fun volume stream => Sound name volume stream ∧ Private name volume)
      fun _ => True where
  closed h := ⟨⟨h.1.directory, h.1.file, h.1.apart, h.1.blank, nofun⟩, h.2⟩
  status hn h := ⟨h, .refl ⟨rfl, h.1.status_eq hname hroom hn⟩⟩
  parent hparent := absurd hname.parent_eq hparent
  createDirectories hparent := absurd hname.parent_eq hparent
  rename hn h :=
    (keeps_rename h.1 h.2 hname hroom hn).mono fun _ _ h => ⟨h.1, fun _ => ⟨trivial, h.2⟩⟩
  openAppend h := (keeps_openAppend h.1 h.2 hname).mono fun _ _ h => ⟨h.1, fun _ => ⟨trivial, h.2⟩⟩
  append h := (keeps_append h.1 h.2 _).mono fun _ _ h => ⟨h.1, fun _ => ⟨trivial, h.2⟩⟩
  complain h := ⟨⟨⟨h.1.directory, h.1.file, h.1.apart, h.1.blank, h.1.opened⟩, h.2⟩,
    fun _ => ⟨trivial, rfl⟩⟩

end Volume

namespace AuditLog

theorem keeps_narrow :
    Volume.disk.Keeps narrow.path Volume.held
      (fun volume stream => Volume.Sound narrow.path volume stream ∧ Volume.Private narrow.path volume)
      fun _ => True :=
  Volume.keeps ⟨by decide, by decide, by decide, by decide, by decide⟩ (by decide)

theorem ready_fresh (name : Bytes) :
    Volume.Sound name { files := .fresh } none ∧ Volume.Private name { files := .fresh } := by
  refine ⟨Volume.sound_fresh name, fun p node hp => ?_⟩
  rw [Volume.named?_fresh] at hp
  cases hp

theorem held_fresh (name : Bytes) : Volume.held { files := .fresh } name = none := by
  simp only [Volume.held, Volume.named?_fresh]

theorem call_pinged {n : Nat} (hon : (pinged n).1.enabled = true) :
    ∃ line, Call Volume.disk (pinged n) (pinged (n + 1)) [line] :=
  ⟨_, .written hon rfl rfl⟩

/-- Each ping gets its line. -/
theorem calls_pinged (n : Nat) :
    ∃ lines, lines.length = n ∧ Calls Volume.disk (narrow, { files := .fresh }) (pinged n) lines ∧
      (pinged n).1.enabled = true := by
  induction n with
  | zero => exact ⟨[], rfl, .fresh, rfl⟩
  | succ n ih =>
    obtain ⟨lines, hlength, hcalls, hon⟩ := ih
    obtain ⟨line, hcall⟩ := call_pinged hon
    have hnext := hcalls.next hcall
    have hkept := hnext.kept keeps_narrow (ready_fresh _) rfl held_fresh
    exact ⟨lines ++ [line], by rw [List.length_append, hlength]; rfl, hnext, hkept.alike.enabled⟩

/-- With the fifth of five pings, each of which fills a file, the first is gone. -/
theorem Calls.retained_of_pings :
    ∃ lines line dropped segment, lines.length = 4 ∧
      Retained narrow.path narrow.maxBytes (lines ++ [line]) (pinged 5).2.held dropped segment ∧
      reading narrow.path (pinged 5).2.held 3 = text (stored segment 3) ∧
      Entered narrow.path narrow.maxBytes (pinged 4).2.held [line] (pinged 5).2.held ∧
      ∀ n ≤ 3, ((pinged 5).2.held (slot narrow.path n)).map List.length = some 179 := by
  obtain ⟨lines, hlength, hcalls, hon⟩ := calls_pinged 4
  obtain ⟨line, hcall⟩ := call_pinged hon
  obtain ⟨dropped, segment, hretained, hreading, hentered⟩ :=
    hcalls.retained keeps_narrow (ready_fresh _) rfl held_fresh hcall trivial
  exact ⟨lines, line, dropped, segment, hlength, hretained, hreading, hentered, by decide +kernel⟩

end AuditLog

end Fingerprint
