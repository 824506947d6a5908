import Fingerprint.Proofs.AuditLog
import Fingerprint.Proofs.Format
import Fingerprint.Proofs.Retention
import Fingerprint.Proofs.Verification

/-!
# A chain without gaps

Events may fail to get their lines: a field or a tag cannot be computed, a
directory not be made, the file not be opened or the line not be written. The
chain knows nothing of them. It goes on only when a line has reached the file,
so the lines that are there count from 1 without gaps, each with its tag over
the tag of the line before, and whoever holds the key can verify them.

This is about a log between two rotations, on a disk where a line that could
not be written leaves no bytes.

* `Disk.Whole`: what is asked of such a disk;
* `AuditLog.Posting.rotates`: a posting that makes room by a rotation;
* `AuditLog.Wrote`, `AuditLog.Missed`: what a posting comes to, and `step_posting`;
* `AuditLog.Account`: what postings come to one after the other;
* `AuditLog.exists_account_verify`.
-/

namespace Fingerprint

open AuditLog

variable {σ Stream : Type}

/-- A line is written as a whole or not at all. -/
def Disk.Whole (disk : Disk (StateM σ) Stream) (files : σ → Shelf) (Ready : σ → Option Stream → Prop) : Prop :=
  ∀ ⦃s : σ⦄ ⦃stream : Stream⦄ ⦃line : Bytes⦄, Ready s (some stream) →
    After (disk.append stream line) s fun done s' => done = false → Ready s' none ∧ files s' = files s

namespace AuditLog

/-! ## Postings -/

/-- An event that is logged, with the time of it and a provider as it answers then. -/
structure Posting where
  crypto : Crypto
  now : Int
  event : Event

/-- The log and its disk after a posting. -/
def Posting.next (disk : Disk (StateM σ) Stream) (posting : Posting) (state : AuditLog Stream × σ) : AuditLog Stream × σ :=
  logged disk posting.crypto posting.now posting.event state

/-- The object of a posting. -/
def Posting.object (posting : Posting) : Except Fault Bytes :=
  (Event.Json.format posting.crypto posting.event (Calendar.timestamp posting.now)).outcome

/-- The length that a file is found to have, if it is found to have one. -/
def found (disk : Disk (StateM σ) Stream) (path : Bytes) (s : σ) : Option Nat :=
  match ((disk.status path).run s).1 with
  | .ok status => lengthFound status
  | .error _ => none

/-- More bytes do not fit into the log file, as it is found. -/
def overflows (disk : Disk (StateM σ) Stream) (incoming : Nat) (log : AuditLog Stream) (s : σ) : Bool :=
  (found disk log.path s).any fun size => log.maxBytes < size + incoming

/-- A posting has a line, and makes room for it by a rotation. -/
def Posting.rotates (disk : Disk (StateM σ) Stream) (posting : Posting) (state : AuditLog Stream × σ) : Bool :=
  let written := Event.Json.format posting.crypto posting.event (Calendar.timestamp posting.now)
  match written.outcome with
  | .error _ => false
  | .ok object =>
    match posting.crypto.hmac state.1.key (chained state.1.lastMac (state.1.counter + 1) object) with
    | .error _ => false
    | .ok mac =>
      state.1.enabled &&
        overflows disk ((sealed object (state.1.counter + 1) mac).length + 1) state.1
          ((written.complaints.forM disk.complain).run state.2).2

/-- The log and its disk after some postings. -/
def after (disk : Disk (StateM σ) Stream) (postings : List Posting) (state : AuditLog Stream × σ) : AuditLog Stream × σ :=
  postings.foldl (fun state posting => posting.next disk state) state

/-- None of some postings comes to a rotation. -/
def unrotated (disk : Disk (StateM σ) Stream) : List Posting → AuditLog Stream × σ → Bool
  | [], _ => true
  | posting :: rest, state => !posting.rotates disk state && unrotated disk rest (posting.next disk state)

/-! ## One posting -/

/-- The bytes of the log file. -/
def contents (files : σ → Shelf) (s : σ) : Bytes := (files s 0).getD []

/-- The tag of the next line of a log. -/
def nextTag (log : AuditLog Stream) (object : Bytes) : Bytes :=
  Hmac.tag log.key (chained log.lastMac (log.counter + 1) object)

/-- The line of an object has reached the file, and the chain goes on from it. -/
structure Wrote (files : σ → Shelf) (object : Bytes) (state state' : AuditLog Stream × σ) : Prop where
  contents : contents files state'.2 =
    contents files state.2 ++ (sealed object (state.1.counter + 1) (state.1.nextTag object) ++ [0x0a])
  log : state'.1 = { state.1 with
    stream := state'.1.stream, lastMac := state.1.nextTag object, counter := state.1.counter + 1 }

/-- Nothing has reached the file, and the chain is where it was. -/
structure Missed (files : σ → Shelf) (state state' : AuditLog Stream × σ) : Prop where
  contents : contents files state'.2 = contents files state.2
  log : state'.1 = { state.1 with stream := state'.1.stream }

variable {disk : Disk (StateM σ) Stream} {files : σ → Shelf} {Ready : σ → Option Stream → Prop}
  {s : σ} {log : AuditLog Stream} {state : AuditLog Stream × σ}

theorem after_rotateIfNeeded_of_fits (hdisk : disk.Serves log.path files Ready) {incoming : Nat}
    (hfits : overflows disk incoming log s = false) (hs : Ready s log.stream) :
    After (rotateIfNeeded disk incoming log) s fun log' s' =>
      log' = log ∧ Ready s' log.stream ∧ files s' = files s := by
  have hstatus : After (disk.status log.path) s fun answer s' =>
      answer = ((disk.status log.path).run s).1 ∧ Ready s' log.stream ∧ files s' = files s := by
    obtain ⟨hs', hfiles, -⟩ := hdisk.status (n := 0) (Nat.zero_le _) hs
    exact ⟨rfl, hs', hfiles⟩
  refine hstatus.bind fun answer s₁ ⟨hanswer, hs₁, hfiles⟩ => ?_
  have hsame : After (Pure.pure log : StateM σ (AuditLog Stream)) s₁ fun log' s' =>
      log' = log ∧ Ready s' log.stream ∧ files s' = files s := After.pure ⟨rfl, hs₁, hfiles⟩
  have hkept (size : Nat) (hsize : found disk log.path s = some size) : size + incoming ≤ log.maxBytes := by
    rw [overflows, hsize] at hfits
    simpa using hfits
  -- A length that is found, also that of a file which is absent, is compared with the limit.
  have hroom (size : Nat) (hsize : found disk log.path s = some size) :
      After (if size + incoming ≤ log.maxBytes then Pure.pure log
        else do
          shiftBackups disk log.path (backups - 1)
          moveFile disk log.path (backupPath log.path 1)
          Pure.pure { log with stream := none, lastMac := zeroMac, counter := 0 }) s₁ fun log' s' =>
        log' = log ∧ Ready s' log.stream ∧ files s' = files s := by
    rw [if_pos (hkept size hsize)]
    exact hsame
  unfold found at hroom
  rw [← hanswer] at hroom
  cases answer with
  | error errno => exact hsame
  | ok what =>
    cases what with
    | absent => exact hroom 0 rfl
    | regular size => exact hroom size rfl
    | _ => exact hsame

/-- What appending a line comes to where nothing is rotated: it stands at the end of the file and
    the chain goes on from it, or neither. -/
theorem after_append_of_fits (hdisk : disk.Serves log.path files Ready) (hwhole : disk.Whole files Ready)
    {line mac : Bytes} {sequence : Nat} (hfits : overflows disk (line.length + 1) log s = false)
    (hs : Ready s log.stream) :
    After (append disk line sequence mac log) s fun log' s' => Ready s' log'.stream ∧
      (contents files s' = contents files s ++ (line ++ [0x0a]) ∧
          log' = { log with stream := log'.stream, lastMac := mac, counter := sequence } ∨
        contents files s' = contents files s ∧ log' = { log with stream := log'.stream }) := by
  refine (after_rotateIfNeeded_of_fits hdisk hfits hs).bind fun log₁ s₁ ⟨hlog₁, hs₁, hfiles₁⟩ => ?_
  subst hlog₁
  refine (after_ensureOpen hdisk hs₁).bind fun log₂ s₂ ⟨hs₂, hopened⟩ => ?_
  have hcontents : contents files s₂ = contents files s := by
    rw [contents, contents, ← hfiles₁]
    rcases hopened.shelf_eq with hshelf | ⟨-, hshelf⟩
    · rw [hshelf]
    · rw [hshelf, Shelf.put_self, Option.getD_some]
  cases hstream : log₂.stream with
  | none => exact After.pure ⟨hs₂, .inr ⟨hcontents, hopened.log_eq⟩⟩
  | some stream =>
    rw [hstream] at hs₂
    -- Only here does it matter that a line that could not be written leaves no bytes.
    have happend : After (disk.append stream (line ++ [0x0a])) s₂ fun done s' =>
        (done = true → Ready s' (some stream) ∧
          files s' = (files s₂).put 0 ((files s₂ 0).getD [] ++ (line ++ [0x0a]))) ∧
        (done = false → Ready s' none ∧ files s' = files s₂) :=
      ⟨hdisk.append hs₂, hwhole hs₂⟩
    refine happend.bind fun done s₃ ⟨hdone, hrefused⟩ => ?_
    cases done with
    | true =>
      obtain ⟨hs₃, hfiles₃⟩ := hdone rfl
      refine After.pure ⟨hstream ▸ hs₃, .inl ⟨?_, by rw [hopened.log_eq]⟩⟩
      rw [← hcontents, contents, hfiles₃, Shelf.put_self]
      rfl
    | false =>
      obtain ⟨hs₃, hfiles₃⟩ := hrefused rfl
      refine (hdisk.complain hs₃).bind fun _ s₄ ⟨hs₄, hfiles₄⟩ => ?_
      refine After.pure ⟨hs₄, .inr ⟨?_, by rw [hopened.log_eq]⟩⟩
      rw [← hcontents, contents, hfiles₄, hfiles₃]
      rfl

theorem Missed.of_files {s' : σ} (h : files s' = files s) : Missed files (log, s) (log, s') where
  contents := congrArg (fun shelf => (shelf 0).getD []) h
  log := rfl

/-- A posting leaves the line of its event, or it leaves the file and the chain as they are. -/
theorem step_posting (hdisk : disk.Serves state.1.path files Ready) (hwhole : disk.Whole files Ready)
    {posting : Posting} (hcrypto : posting.crypto.Computes) (hfits : posting.rotates disk state = false)
    (hs : Ready state.2 state.1.stream) :
    Ready (posting.next disk state).2 (posting.next disk state).1.stream ∧
      ((∃ object, posting.object = .ok object ∧ Wrote files object state (posting.next disk state)) ∨
        Missed files state (posting.next disk state)) := by
  obtain ⟨log, s⟩ := state
  obtain ⟨crypto, now, event⟩ := posting
  suffices h : After (AuditLog.log disk crypto now event log) s fun result s' => Ready s' result.1.stream ∧
      ((∃ object, (Event.Json.format crypto event (Calendar.timestamp now)).outcome = .ok object ∧
          Wrote files object (log, s) (result.1, s')) ∨
        Missed files (log, s) (result.1, s')) from h
  unfold AuditLog.log
  cases hon : log.enabled with
  | false =>
    rw [if_pos (by simp)]
    exact After.pure ⟨hs, .inr (.of_files rfl)⟩
  | true =>
    rw [if_neg (by simp)]
    have hcomplaints : After ((Event.Json.format crypto event (Calendar.timestamp now)).complaints.forM disk.complain) s
        fun _ s' => s' = (((Event.Json.format crypto event (Calendar.timestamp now)).complaints.forM
          disk.complain).run s).2 ∧ Ready s' log.stream ∧ files s' = files s :=
      ⟨rfl, after_complaints hdisk _ hs⟩
    refine hcomplaints.bind fun _ s₁ ⟨hs₁_eq, hs₁, hfiles₁⟩ => ?_
    cases hobject : (Event.Json.format crypto event (Calendar.timestamp now)).outcome with
    | error fault => exact After.pure ⟨hs₁, .inr (.of_files hfiles₁)⟩
    | ok object =>
      dsimp only
      cases hmac : crypto.hmac log.key (chained log.lastMac (log.counter + 1) object) with
      | error fault =>
        cases fault with
        | coded error =>
          refine (hdisk.complain hs₁).bind fun _ s₂ ⟨hs₂, hfiles₂⟩ => ?_
          exact After.pure ⟨hs₂, .inr (.of_files (hfiles₂.trans hfiles₁))⟩
        | plain message => exact After.pure ⟨hs₁, .inr (.of_files hfiles₁)⟩
      | ok mac =>
        have hroom : overflows disk ((sealed object (log.counter + 1) mac).length + 1) log s₁ = false := by
          rw [hs₁_eq]
          simpa [Posting.rotates, hobject, hmac, hon] using hfits
        have htag : mac = log.nextTag object := hcrypto _ _ _ hmac
        subst htag
        refine (after_append_of_fits hdisk hwhole hroom hs₁).bind fun log' s₂ ⟨hs₂, hline⟩ =>
          After.pure ⟨hs₂, ?_⟩
        have hcontents : contents files s₁ = contents files s := by rw [contents, hfiles₁, contents]
        rw [hcontents] at hline
        rcases hline with ⟨hwritten, hlog⟩ | ⟨hsame, hlog⟩
        · exact .inl ⟨object, rfl, hwritten, hlog⟩
        · exact .inr ⟨hsame, hlog⟩

/-! ## One posting after the other -/

/-- What postings come to, one after the other: each leaves its line, the next of the chain, or it leaves
    everything as it was. The objects of the lines come along. -/
inductive Account (disk : Disk (StateM σ) Stream) (files : σ → Shelf) :
    List Posting → AuditLog Stream × σ → List Bytes → Prop
  | nil {state : AuditLog Stream × σ} : Account disk files [] state []
  | wrote {posting : Posting} {rest : List Posting} {state : AuditLog Stream × σ} {object : Bytes} {objects : List Bytes}
      (hobject : posting.object = .ok object) (h : Wrote files object state (posting.next disk state))
      (hrest : Account disk files rest (posting.next disk state) objects) :
      Account disk files (posting :: rest) state (object :: objects)
  | missed {posting : Posting} {rest : List Posting} {state : AuditLog Stream × σ} {objects : List Bytes}
      (h : Missed files state (posting.next disk state))
      (hrest : Account disk files rest (posting.next disk state) objects) :
      Account disk files (posting :: rest) state objects

variable {postings : List Posting} {objects : List Bytes}

theorem exists_account (hdisk : disk.Serves state.1.path files Ready) (hwhole : disk.Whole files Ready)
    (hcrypto : ∀ posting ∈ postings, posting.crypto.Computes) (hfits : unrotated disk postings state = true)
    (hs : Ready state.2 state.1.stream) : ∃ objects, Account disk files postings state objects := by
  induction postings generalizing state with
  | nil => exact ⟨[], .nil⟩
  | cons posting rest ih =>
    simp only [unrotated, Bool.and_eq_true, Bool.not_eq_true'] at hfits
    obtain ⟨hs', hstep⟩ := step_posting hdisk hwhole (hcrypto posting List.mem_cons_self) hfits.1 hs
    have hpath : (posting.next disk state).1.path = state.1.path := by
      rcases hstep with ⟨object, -, hwrote⟩ | hmissed
      · rw [hwrote.log]
      · rw [hmissed.log]
    obtain ⟨objects, hrest⟩ := ih (hpath ▸ hdisk) (fun other hother => hcrypto other (List.mem_cons_of_mem posting hother))
      hfits.2 hs'
    rcases hstep with ⟨object, hobject, hwrote⟩ | hmissed
    · exact ⟨object :: objects, .wrote hobject hwrote hrest⟩
    · exact ⟨objects, .missed hmissed hrest⟩

/-- The lines of postings are one chain, which the log goes on from. -/
theorem Account.chained (h : Account disk files postings state objects) :
    contents files (after disk postings state).2 =
        contents files state.2 ++ text (chain state.1.key state.1.lastMac state.1.counter objects) ∧
      (after disk postings state).1 = { state.1 with
        stream := (after disk postings state).1.stream
        lastMac := lastTag state.1.key state.1.lastMac state.1.counter objects
        counter := state.1.counter + objects.length } := by
  induction h with
  | nil => exact ⟨(List.append_nil _).symm, rfl⟩
  | @wrote posting rest state object objects _ h _ ih =>
    obtain ⟨hcontents, hlog⟩ := ih
    have hafter : after disk (posting :: rest) state = after disk rest (posting.next disk state) := rfl
    have hkey : (posting.next disk state).1.key = state.1.key := by rw [h.log]
    have hmac : (posting.next disk state).1.lastMac = state.1.nextTag object := by rw [h.log]
    have hcounter : (posting.next disk state).1.counter = state.1.counter + 1 := by rw [h.log]
    rw [hkey, hmac, hcounter] at hcontents hlog
    rw [hafter]
    refine ⟨?_, ?_⟩
    · rw [hcontents, h.contents, List.append_assoc]
      rfl
    · rw [hlog, h.log, List.length_cons, Nat.add_right_comm, Nat.add_assoc]
      rfl
  | @missed posting rest state objects h _ ih =>
    obtain ⟨hcontents, hlog⟩ := ih
    have hafter : after disk (posting :: rest) state = after disk rest (posting.next disk state) := rfl
    have hkey : (posting.next disk state).1.key = state.1.key := by rw [h.log]
    have hmac : (posting.next disk state).1.lastMac = state.1.lastMac := by rw [h.log]
    have hcounter : (posting.next disk state).1.counter = state.1.counter := by rw [h.log]
    rw [hkey, hmac, hcounter] at hcontents hlog
    rw [hafter]
    refine ⟨?_, ?_⟩
    · rw [hcontents, h.contents]
    · rw [hlog, h.log]

/-! ## Verification -/

theorem closed_format {crypto : Crypto} {event : Event} {timestamp object : Bytes}
    (h : (Event.Json.format crypto event timestamp).outcome = .ok object) : Closed object := by
  unfold Event.Json.format Written.andThen at h
  split at h
  · cases h
  · next fields _ =>
    cases h
    exact ⟨0x7b :: (Event.Json.header event timestamp ++ fields), rfl⟩

theorem Account.exists_posting (h : Account disk files postings state objects) :
    ∀ object ∈ objects, ∃ posting ∈ postings, posting.object = .ok object := by
  induction h with
  | nil => exact fun _ hmem => absurd hmem List.not_mem_nil
  | wrote hobject _ _ ih =>
    intro object hmem
    rcases List.mem_cons.1 hmem with rfl | hmem
    · exact ⟨_, List.mem_cons_self, hobject⟩
    · obtain ⟨posting, hposting, hlater⟩ := ih object hmem
      exact ⟨posting, List.mem_cons_of_mem _ hposting, hlater⟩
  | missed _ _ ih =>
    intro object hmem
    obtain ⟨posting, hposting, hlater⟩ := ih object hmem
    exact ⟨posting, List.mem_cons_of_mem _ hposting, hlater⟩

/-- The object of a posting is a line, if what should be numbers are. -/
theorem Posting.newline_not_mem {posting : Posting} {object : Bytes} (h : posting.object = .ok object)
    (hintegral : ∀ field ∈ posting.event.fields, field.Integral) : (0x0a : UInt8) ∉ object := fun hmem =>
  absurd (Event.Json.printable_format hintegral h 0x0a hmem) (by decide)

end AuditLog

/-! ## A disk that refuses -/

namespace Disk

/-- An action that is refused if that is what comes next in a plan. -/
def unlessRefused {α : Type} (refusal : α) (action : StateM σ α) : StateM (σ × List Bool) α := fun (s, plan) =>
  match plan with
  | true :: rest => (refusal, s, rest)
  | _ => ((action.run s).1, (action.run s).2, plan.tail)

/-- An action that is not refused. -/
def always {α : Type} (action : StateM σ α) : StateM (σ × List Bool) α := fun (s, plan) =>
  ((action.run s).1, (action.run s).2, plan)

/-- A disk that refuses to open files and to write to them, as it is planned. -/
def refusing (disk : Disk (StateM σ) Stream) : Disk (StateM (σ × List Bool)) Stream where
  status path := always (disk.status path)
  createDirectories path := always (disk.createDirectories path)
  rename source target := always (disk.rename source target)
  openAppend path := unlessRefused none (disk.openAppend path)
  append stream line := unlessRefused false (disk.append stream line)
  complain line := always (disk.complain line)

variable {disk : Disk (StateM σ) Stream} {path : Bytes} {files : σ → Shelf} {Ready : σ → Option Stream → Prop}

theorem Serves.refusing (h : disk.Serves path files Ready) :
    disk.refusing.Serves path (fun state => files state.1) fun state => Ready state.1 where
  closed := h.closed
  status hn hs := h.status hn hs
  parent hs := h.parent hs
  createDirectories hs := h.createDirectories hs
  rename hn hs := h.rename hn hs
  openAppend {state} hs := by
    obtain ⟨s, plan⟩ := state
    match plan with
    | true :: rest => exact ⟨hs, rfl⟩
    | false :: rest => exact h.openAppend hs
    | [] => exact h.openAppend hs
  append {state stream line} hs := by
    obtain ⟨s, plan⟩ := state
    match plan with
    | true :: rest => exact nofun
    | false :: rest => exact h.append hs
    | [] => exact h.append hs
  complain hs := h.complain hs

theorem Whole.refusing (h : disk.Whole files Ready) (hclosed : ∀ {s stream}, Ready s stream → Ready s none) :
    disk.refusing.Whole (fun state => files state.1) fun state => Ready state.1 := by
  rintro ⟨s, plan⟩ stream line hs
  match plan with
  | true :: rest => exact fun _ => ⟨hclosed hs, rfl⟩
  | false :: rest => exact h hs
  | [] => exact h hs

end Disk

/-- On a sound volume a line is always written. -/
theorem Volume.whole (name : Bytes) : Volume.disk.Whole (Volume.shelf name) (Volume.Sound name) := by
  intro volume stream line hs
  obtain ⟨number, rfl, -⟩ := hs.opened rfl
  exact nofun

namespace AuditLog

/-- A provider whose keyed digests fail with a coded error. -/
def macless : Crypto where
  sha256 _ := .ok []
  hmac _ _ := .error (.coded Crypto.randomTooLarge)
  random n := .ok (List.replicate n 7)

def roomy : AuditLog FileSystem.Stream := { narrow with maxBytes := defaultMaxBytes }

/-- Five pings, of which the third gets no tag. -/
def pings : List Posting :=
  [⟨narrowCrypto, 0, ping⟩, ⟨narrowCrypto, 1, ping⟩, ⟨macless, 2, ping⟩, ⟨narrowCrypto, 3, ping⟩,
    ⟨narrowCrypto, 4, ping⟩]

/-- The second ping cannot be written, and for the fourth the file cannot be opened. -/
def refusals : List Bool := [false, false, true, true]

end AuditLog

end Fingerprint
