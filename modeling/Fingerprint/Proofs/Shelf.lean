import Mathlib.Logic.Relation
import Fingerprint.AuditLog

/-!
# The files of the audit log

A log has four files, itself and three backups. What they hold is a *shelf*.
On a disk where nobody else touches these files, the operations of the log are
operations on the shelf: a rotation moves files up by one number, opening the
log provides its file, and writing a line puts the line at its end.

The disk may refuse whatever it wants, as long as it says so and what it
refuses leaves the files as they are. Only a line that it fails to write may
be there in part.

* `Shelf`, `Shelf.Moves`: the files, and what a rotation may make of them;
* `Disk.Serves`: what a log relies on;
* `AuditLog.Roomed`, `after_rotateIfNeeded`: making room;
* `AuditLog.after_append`: what it means that a line was appended.
-/

namespace Fingerprint

/-- What the files of a log hold: the log itself has number 0, a backup its own. -/
abbrev Shelf := Nat → Option Bytes

namespace Shelf

/-- Gives the file with a number its bytes. -/
def put (shelf : Shelf) (n : Nat) (bytes : Bytes) : Shelf := fun k => if k = n then some bytes else shelf k

/-- The file with one number gets another, in the stead of what had that. -/
def move (shelf : Shelf) (source target : Nat) : Shelf := fun k =>
  if k = source then none else if k = target then shelf source else shelf k

/-- What a look at a file finds. -/
def status : Option Bytes → FileStatus
  | none => .absent
  | some bytes => .regular bytes.length

/-- A file that is there gets the next number. -/
def Moved (shelf shelf' : Shelf) : Prop :=
  ∃ n, (shelf n).isSome ∧ shelf' = shelf.move n (n + 1)

/-- Files get the next number, one after the other. -/
abbrev Moves : Shelf → Shelf → Prop := Relation.ReflTransGen Moved

variable {shelf shelf' : Shelf} {n : Nat} {bytes : Bytes}

@[simp] theorem put_self : shelf.put n bytes n = some bytes := if_pos rfl

theorem put_of_ne {k : Nat} (h : k ≠ n) : shelf.put n bytes k = shelf k := if_neg h

@[simp] theorem put_put {bytes' : Bytes} : (shelf.put n bytes).put n bytes' = shelf.put n bytes' := by
  funext k
  by_cases hk : k = n
  · rw [hk, put_self, put_self]
  · rw [put_of_ne hk, put_of_ne hk, put_of_ne hk]

theorem put_eq_self (h : shelf n = some bytes) : shelf.put n bytes = shelf := by
  funext k
  by_cases hk : k = n
  · rw [hk, put_self, h]
  · exact put_of_ne hk

/-- A file that is moved holds what a file held before. -/
theorem Moves.mem {k : Nat} (h : shelf.Moves shelf') (hk : shelf' k = some bytes) :
    ∃ n, shelf n = some bytes := by
  induction h generalizing k with
  | refl => exact ⟨k, hk⟩
  | tail _ hmoved ih =>
    obtain ⟨n, _, rfl⟩ := hmoved
    unfold move at hk
    split at hk
    · cases hk
    · split at hk
      · exact ih hk
      · exact ih hk

/-- Nothing becomes the log itself by being moved. -/
theorem Moves.log (h : shelf.Moves shelf') : shelf' 0 = none ∨ shelf' 0 = shelf 0 := by
  induction h with
  | refl => exact .inr rfl
  | tail _ hmoved ih =>
    obtain ⟨n, _, rfl⟩ := hmoved
    unfold move
    split
    · exact .inl rfl
    · rw [if_neg (Nat.succ_ne_zero n).symm]
      exact ih

end Shelf

namespace AuditLog

/-- The path of the file with a number. -/
def slot (path : Bytes) : Nat → Bytes
  | 0 => path
  | n + 1 => backupPath path (n + 1)

end AuditLog

open AuditLog

variable {σ Stream α β : Type}

/-- What holds after an action from a state. -/
def After (action : StateM σ α) (s : σ) (post : α → σ → Prop) : Prop :=
  post (action.run s).1 (action.run s).2

theorem After.bind {action : StateM σ α} {f : α → StateM σ β} {s : σ} {mid : α → σ → Prop}
    {post : β → σ → Prop} (h : After action s mid) (hf : ∀ a s', mid a s' → After (f a) s' post) :
    After (action >>= f) s post :=
  hf _ _ h

theorem After.mono {action : StateM σ α} {s : σ} {post post' : α → σ → Prop} (h : After action s post)
    (hpost : ∀ a s', post a s' → post' a s') : After action s post' :=
  hpost _ _ h

theorem After.pure {a : α} {s : σ} {post : α → σ → Prop} (h : post a s) :
    After (Pure.pure a : StateM σ α) s post := h

/-- A disk that serves a log at `path`, whose files nobody else touches. In a state they hold
    what `files` says. `Ready` says that the state is sound, and that the stream, if there is one,
    writes to the log. -/
structure Disk.Serves (disk : Disk (StateM σ) Stream) (path : Bytes) (files : σ → Shelf)
    (Ready : σ → Option Stream → Prop) : Prop where
  /-- A stream may be given up at any time. -/
  closed {s : σ} {stream : Option Stream} : Ready s stream → Ready s none
  status {s : σ} {stream : Option Stream} {n : Nat} : n ≤ backups → Ready s stream →
    After (disk.status (slot path n)) s fun answer s' =>
      Ready s' stream ∧ files s' = files s ∧ ∀ found, answer = .ok found → found = Shelf.status (files s n)
  /-- To look for the directory of the log and to make it is nothing to the files. -/
  parent {s : σ} : Ready s none →
    After (disk.status (Path.parent path)) s fun _ s' => Ready s' none ∧ files s' = files s
  createDirectories {s : σ} : Ready s none →
    After (disk.createDirectories (Path.parent path)) s fun _ s' => Ready s' none ∧ files s' = files s
  rename {s : σ} {n : Nat} : n < backups → Ready s none →
    After (disk.rename (slot path n) (slot path (n + 1))) s fun refused s' =>
      Ready s' none ∧ (refused = none → (files s n).isSome ∧ files s' = (files s).move n (n + 1)) ∧
        (refused ≠ none → files s' = files s)
  openAppend {s : σ} : Ready s none →
    After (disk.openAppend path) s fun stream s' =>
      Ready s' stream ∧
        files s' = if stream.isSome then (files s).put 0 ((files s 0).getD []) else files s
  /-- A line that is written stands at the end of the log. -/
  append {s : σ} {stream : Stream} {line : Bytes} : Ready s (some stream) →
    After (disk.append stream line) s fun done s' => done = true →
      Ready s' (some stream) ∧ files s' = (files s).put 0 ((files s 0).getD [] ++ line)
  complain {s : σ} {stream : Option Stream} {line : Bytes} : Ready s stream →
    After (disk.complain line) s fun _ s' => Ready s' stream ∧ files s' = files s

namespace AuditLog

variable {disk : Disk (StateM σ) Stream} {path : Bytes} {files : σ → Shelf}
  {Ready : σ → Option Stream → Prop} {s : σ} {log : AuditLog Stream}

/-! ## Rotating -/

theorem after_moveFile (hdisk : disk.Serves path files Ready) {n : Nat} (hn : n < backups)
    (hs : Ready s none) :
    After (moveFile disk (slot path n) (slot path (n + 1))) s fun _ s' =>
      Ready s' none ∧ (files s).Moves (files s') := by
  refine (hdisk.rename hn hs).bind fun refused s₁ ⟨hs₁, hmoved, hsame⟩ => ?_
  cases refused with
  | none =>
    obtain ⟨hsome, hfiles⟩ := hmoved rfl
    exact After.pure ⟨hs₁, .single ⟨n, hsome, hfiles⟩⟩
  | some errno =>
    refine (hdisk.complain hs₁).mono fun _ s₂ ⟨hs₂, hfiles⟩ => ⟨hs₂, ?_⟩
    rw [hfiles, hsame nofun]

theorem after_shiftBackups (hdisk : disk.Serves path files Ready) {n : Nat} (hn : n < backups)
    (hs : Ready s none) :
    After (shiftBackups disk path n) s fun _ s' => Ready s' none ∧ (files s).Moves (files s') := by
  induction n generalizing s with
  | zero => exact After.pure ⟨hs, .refl⟩
  | succ n ih =>
    -- Once the last backup was dealt with, the others follow.
    have hrest : ∀ s₁, Ready s₁ none → (files s).Moves (files s₁) →
        After (shiftBackups disk path n) s₁ fun _ s' => Ready s' none ∧ (files s).Moves (files s') :=
      fun s₁ hs₁ hmoves => (ih (Nat.lt_of_succ_lt hn) hs₁).mono fun _ s₂ ⟨hs₂, hmoves₂⟩ =>
        ⟨hs₂, hmoves.trans hmoves₂⟩
    refine (hdisk.status (n := n + 1) (Nat.le_of_lt hn) hs).bind fun answer s₁ ⟨hs₁, hfiles, _⟩ => ?_
    have hmoves : (files s).Moves (files s₁) := hfiles ▸ .refl
    cases answer with
    | error errno => exact hrest s₁ hs₁ hmoves
    | ok found =>
      dsimp only
      split
      · refine (after_moveFile hdisk hn hs₁).bind fun _ s₂ ⟨hs₂, hmoves₂⟩ => ?_
        exact hrest s₂ hs₂ (hmoves.trans hmoves₂)
      · exact hrest s₁ hs₁ hmoves

/-- What making room for more bytes comes to: nothing, or a rotation, if the bytes do not fit. -/
inductive Roomed (incoming : Nat) (log : AuditLog Stream) (shelf : Shelf) : AuditLog Stream → Shelf → Prop
  | kept : Roomed incoming log shelf log shelf
  | rotated {shelf' : Shelf} (hfull : log.maxBytes < ((shelf 0).getD []).length + incoming)
      (hmoves : shelf.Moves shelf') :
      Roomed incoming log shelf { log with stream := none, lastMac := zeroMac, counter := 0 } shelf'

namespace Roomed

variable {incoming : Nat} {shelf shelf' : Shelf} {log' : AuditLog Stream}

theorem moves (h : Roomed incoming log shelf log' shelf') : shelf.Moves shelf' := by
  cases h with
  | kept => exact .refl
  | rotated _ hmoves => exact hmoves

theorem path_eq (h : Roomed incoming log shelf log' shelf') : log'.path = log.path := by
  cases h <;> rfl

theorem key_eq (h : Roomed incoming log shelf log' shelf') : log'.key = log.key := by
  cases h <;> rfl

end Roomed

theorem after_rotateIfNeeded (hdisk : disk.Serves log.path files Ready) (incoming : Nat)
    (hs : Ready s log.stream) :
    After (rotateIfNeeded disk incoming log) s fun log' s' =>
      Ready s' log'.stream ∧ Roomed incoming log (files s) log' (files s') := by
  refine (hdisk.status (n := 0) (Nat.zero_le _) hs).bind fun answer s₁ ⟨hs₁, hfiles, hanswer⟩ => ?_
  rw [← hfiles] at hanswer ⊢
  have hkept : After (Pure.pure log : StateM σ (AuditLog Stream)) s₁ fun log' s' =>
      Ready s' log'.stream ∧ Roomed incoming log (files s₁) log' (files s') := After.pure ⟨hs₁, .kept⟩
  have hsized : ∀ size, size = ((files s₁ 0).getD []).length →
      After (if size + incoming ≤ log.maxBytes then Pure.pure log
        else do
          shiftBackups disk log.path (backups - 1)
          moveFile disk log.path (backupPath log.path 1)
          Pure.pure { log with stream := none, lastMac := zeroMac, counter := 0 }) s₁ fun log' s' =>
        Ready s' log'.stream ∧ Roomed incoming log (files s₁) log' (files s') := by
    rintro size rfl
    split
    · exact hkept
    · next hfull =>
      refine (after_shiftBackups hdisk (by decide) (hdisk.closed hs₁)).bind fun _ s₂ ⟨hs₂, hmoves⟩ => ?_
      refine (after_moveFile hdisk (n := 0) (by decide) hs₂).bind fun _ s₃ ⟨hs₃, hmoves'⟩ => ?_
      exact After.pure ⟨hs₃, .rotated (Nat.lt_of_not_le hfull) (hmoves.trans hmoves')⟩
  cases answer with
  | error errno => exact hkept
  | ok found =>
    have hfound := hanswer found rfl
    cases hfile : files s₁ 0 with
    | none =>
      rw [hfile] at hfound hsized
      subst hfound
      exact hsized 0 rfl
    | some bytes =>
      rw [hfile] at hfound hsized
      subst hfound
      exact hsized bytes.length rfl

/-! ## Opening and writing -/

/-- What opening the log comes to: its file is there, if that succeeds. -/
structure Opened (log : AuditLog Stream) (shelf : Shelf) (log' : AuditLog Stream) (shelf' : Shelf) : Prop where
  log_eq : log' = { log with stream := log'.stream }
  shelf_eq : shelf' = shelf ∨ log'.stream.isSome ∧ shelf' = shelf.put 0 ((shelf 0).getD [])

theorem after_ensureOpen (hdisk : disk.Serves log.path files Ready) (hs : Ready s log.stream) :
    After (ensureOpen disk log) s fun log' s' =>
      Ready s' log'.stream ∧ Opened log (files s) log' (files s') := by
  unfold ensureOpen
  dsimp only
  split
  · exact After.pure ⟨hs, rfl, .inl rfl⟩
  · next hstream =>
    have hclosed : log.stream = none := Option.not_isSome_iff_eq_none.1 hstream
    rw [hclosed] at hs
    -- Whatever the directory needed, the file is opened after it or not at all.
    have hopen : ∀ s₁, Ready s₁ none → files s₁ = files s →
        After (do return { log with stream := ← disk.openAppend log.path }) s₁ fun log' s' =>
          Ready s' log'.stream ∧ Opened log (files s) log' (files s') := by
      intro s₁ hs₁ hfiles
      refine (hdisk.openAppend hs₁).bind fun stream s₂ ⟨hs₂, hfiles₂⟩ => After.pure ⟨hs₂, rfl, ?_⟩
      rw [hfiles₂, hfiles]
      split
      · next hsome => exact .inr ⟨hsome, rfl⟩
      · exact .inl rfl
    have hrefused : ∀ s₁ line, Ready s₁ none → files s₁ = files s →
        After (do disk.complain line; return log) s₁ fun log' s' =>
          Ready s' log'.stream ∧ Opened log (files s) log' (files s') := by
      intro s₁ line hs₁ hfiles
      refine (hdisk.complain hs₁).bind fun _ s₂ ⟨hs₂, hfiles₂⟩ => After.pure ⟨?_, rfl, .inl ?_⟩
      · rwa [hclosed]
      · rw [hfiles₂, hfiles]
    split
    · refine (hdisk.parent hs).bind fun answer s₁ ⟨hs₁, hfiles⟩ => ?_
      cases answer with
      | error errno => exact hrefused s₁ _ hs₁ hfiles
      | ok found =>
        dsimp only
        split
        · refine (hdisk.createDirectories hs₁).bind fun refused s₂ ⟨hs₂, hfiles₂⟩ => ?_
          cases refused with
          | none => exact hopen s₂ hs₂ (hfiles₂.trans hfiles)
          | some errno => exact hrefused s₂ _ hs₂ (hfiles₂.trans hfiles)
        · exact hopen s₁ hs₁ hfiles
    · exact hopen s hs rfl

/-- What appending a line comes to: room is made for it, it stands at the end of the log, and
    the chain goes on from it. -/
def Appended (line : Bytes) (sequence : Nat) (mac : Bytes) (log : AuditLog Stream) (shelf : Shelf)
    (log' : AuditLog Stream) (shelf' : Shelf) : Prop :=
  ∃ log₁ shelf₁, Roomed (line.length + 1) log shelf log₁ shelf₁ ∧
    log' = { log₁ with stream := log'.stream, lastMac := mac, counter := sequence } ∧
    shelf' = shelf₁.put 0 ((shelf₁ 0).getD [] ++ (line ++ [0x0a]))

/-- The log is open after a line was to be appended only if that succeeded. -/
theorem after_append (hdisk : disk.Serves log.path files Ready) (line : Bytes) (sequence : Nat)
    (mac : Bytes) (hs : Ready s log.stream) :
    After (append disk line sequence mac log) s fun log' s' => log'.stream.isSome →
      Ready s' log'.stream ∧ Appended line sequence mac log (files s) log' (files s') := by
  refine (after_rotateIfNeeded hdisk (line.length + 1) hs).bind fun log₁ s₁ ⟨hs₁, hroom⟩ => ?_
  rw [← hroom.path_eq] at hdisk
  refine (after_ensureOpen hdisk hs₁).bind fun log₂ s₂ ⟨hs₂, hopened⟩ => ?_
  cases hstream : log₂.stream with
  | none => exact After.pure fun hopen => by simp [hstream] at hopen
  | some stream =>
    rw [hstream] at hs₂
    refine (hdisk.append hs₂).bind fun done s₃ happend => ?_
    cases done with
    | false => exact fun hopen => nomatch hopen
    | true =>
      obtain ⟨hs₃, hfiles⟩ := happend rfl
      refine After.pure fun _ => ⟨hstream ▸ hs₃, log₁, files s₁, hroom, ?_, ?_⟩
      · rw [hopened.log_eq]
      · rw [hfiles]
        rcases hopened.shelf_eq with hshelf | ⟨-, hshelf⟩
        · rw [hshelf]
        · rw [hshelf, Shelf.put_self, Shelf.put_put, Option.getD_some]

theorem after_complaints (hdisk : disk.Serves path files Ready) (complaints : List Bytes)
    {stream : Option Stream} (hs : Ready s stream) :
    After (complaints.forM disk.complain) s fun _ s' => Ready s' stream ∧ files s' = files s := by
  induction complaints generalizing s with
  | nil => exact After.pure ⟨hs, rfl⟩
  | cons line rest ih =>
    refine (hdisk.complain hs).bind fun _ s₁ ⟨hs₁, hfiles⟩ => ?_
    exact (ih hs₁).mono fun _ s₂ ⟨hs₂, hfiles₂⟩ => ⟨hs₂, hfiles₂.trans hfiles⟩

/-- An event that can be written down, and whose tag can be computed, comes to a line. -/
theorem after_log (hdisk : disk.Serves log.path files Ready) {crypto : Crypto} {now : Int} {event : Event}
    {object mac : Bytes} (henabled : log.enabled = true)
    (hobject : (Event.Json.format crypto event (Calendar.timestamp now)).outcome = .ok object)
    (hmac : crypto.hmac log.key (chained log.lastMac (log.counter + 1) object) = .ok mac)
    (hs : Ready s log.stream) :
    After (AuditLog.log disk crypto now event log) s fun result s' => result.1.stream.isSome →
      Ready s' result.1.stream ∧
        Appended (sealed object (log.counter + 1) mac) (log.counter + 1) mac log (files s)
          result.1 (files s') := by
  unfold AuditLog.log
  rw [if_neg (by simp [henabled])]
  refine (after_complaints hdisk _ hs).bind fun _ s₁ ⟨hs₁, hfiles⟩ => ?_
  rw [hobject]
  dsimp only
  rw [hmac]
  dsimp only
  rw [← hfiles]
  exact (after_append hdisk _ _ _ hs₁).bind fun log' s₂ hlog' => After.pure hlog'

end AuditLog

end Fingerprint
