import Fingerprint.Proofs.Chain
import Fingerprint.Proofs.Shelf
import Fingerprint.Proofs.Volume

/-!
# The chain of the audit log

As long as every event gets its line, the lines of the log are one chain, from
the first event to the last, and a rotation does not interrupt it: each file
holds the lines of consecutive events, in the chain of all events. A file can
be checked by itself only if its first line is the first that was ever
written.

* `AuditLog.Run`: the runs of a log whose events get their lines;
* `AuditLog.Excerpt`: what a file holds;
* `AuditLog.Continued`: what holds in every state of a run;
* `AuditLog.Run.selfContained_iff_first`.
-/

namespace Fingerprint

variable {σ Stream : Type}

/-- A provider whose keyed digests, if there are any, are right. -/
def Crypto.Computes (crypto : Crypto) : Prop :=
  ∀ key message tag, crypto.hmac key message = .ok tag → tag = Hmac.tag key message

namespace AuditLog

/-! ## Runs -/

/-- A log and the disk, after an event. -/
def logged (disk : Disk (StateM σ) Stream) (crypto : Crypto) (now : Int) (event : Event)
    (state : AuditLog Stream × σ) : AuditLog Stream × σ :=
  let result := (AuditLog.log disk crypto now event state.1).run state.2
  (result.1.1, result.2)

/-- What a log and its disk come to by events each of which gets its line, whatever else was
    refused. The objects of the lines come along, oldest first. -/
inductive Run (disk : Disk (StateM σ) Stream) (start : AuditLog Stream × σ) :
    AuditLog Stream × σ → List Bytes → Prop
  | fresh : Run disk start start []
  /-- A log that is not enabled writes nothing. -/
  | silent {state : AuditLog Stream × σ} {objects : List Bytes} {crypto : Crypto} {now : Int} {event : Event}
      (h : Run disk start state objects) (hoff : state.1.enabled = false) :
      Run disk start (logged disk crypto now event state) objects
  /-- The event can be written down and its tag computed, and the log is open in the end. -/
  | written {state : AuditLog Stream × σ} {objects : List Bytes} {crypto : Crypto} {now : Int} {event : Event}
      {object mac : Bytes} (h : Run disk start state objects) (hon : state.1.enabled = true)
      (hcrypto : crypto.Computes)
      (hobject : (Event.Json.format crypto event (Calendar.timestamp now)).outcome = .ok object)
      (hmac : crypto.hmac state.1.key (chained state.1.lastMac (state.1.counter + 1) object) = .ok mac)
      (hopen : (logged disk crypto now event state).1.stream.isSome = true) :
      Run disk start (logged disk crypto now event state) (objects ++ [object])

/-! ## What the files hold -/

/-- A file holds the lines of consecutive objects, behind which came the objects of `after`. -/
def Excerpt (key : Bytes) (objects after : List Bytes) (bytes : Bytes) : Prop :=
  ∃ before segment, objects = before ++ segment ++ after ∧ segment ≠ [] ∧
    bytes = written key before segment

variable {key bytes object : Bytes} {objects after : List Bytes}

theorem Excerpt.later (h : Excerpt key objects after bytes) (object : Bytes) :
    Excerpt key (objects ++ [object]) (after ++ [object]) bytes := by
  obtain ⟨before, segment, rfl, hsegment, hbytes⟩ := h
  exact ⟨before, segment, by rw [List.append_assoc], hsegment, hbytes⟩

theorem Excerpt.longer (h : Excerpt key objects [] bytes) (object : Bytes) :
    Excerpt key (objects ++ [object]) [] (bytes ++ (nextLine key objects object ++ [0x0a])) := by
  obtain ⟨before, segment, rfl, -, rfl⟩ := h
  refine ⟨before, segment ++ [object], by simp, by simp, ?_⟩
  rw [written_concat, List.append_nil]

theorem Excerpt.first (key : Bytes) (objects : List Bytes) (object : Bytes) :
    Excerpt key (objects ++ [object]) [] (nextLine key objects object ++ [0x0a]) := by
  refine ⟨objects, [object], by simp, by simp, ?_⟩
  rw [← List.nil_append [object], written_concat, List.append_nil]
  rfl

/-- Each file holds consecutive objects; those in the log itself are the last. -/
def Filed (key : Bytes) (objects : List Bytes) (shelf : Shelf) : Prop :=
  ∀ n bytes, shelf n = some bytes → ∃ after, Excerpt key objects after bytes ∧ (n = 0 → after = [])

theorem Filed.moves {shelf shelf' : Shelf} (h : Filed key objects shelf) (hmoves : shelf.Moves shelf') :
    Filed key objects shelf' := by
  intro n bytes hbytes
  by_cases hn : n = 0
  · subst hn
    rcases hmoves.log with hnone | hsame
    · rw [hnone] at hbytes
      cases hbytes
    · rw [hsame] at hbytes
      exact h 0 bytes hbytes
  · obtain ⟨m, hm⟩ := hmoves.mem hbytes
    obtain ⟨after, hafter, -⟩ := h m bytes hm
    exact ⟨after, hafter, fun h0 => absurd h0 hn⟩

/-- The line of another object at the end of the log. -/
theorem Filed.put {shelf : Shelf} (h : Filed key objects shelf) (object : Bytes) :
    Filed key (objects ++ [object])
      (shelf.put 0 ((shelf 0).getD [] ++ (nextLine key objects object ++ [0x0a]))) := by
  intro n bytes hbytes
  by_cases hn : n = 0
  · subst hn
    rw [Shelf.put_self, Option.some_inj] at hbytes
    refine ⟨[], ?_, fun _ => rfl⟩
    rw [← hbytes]
    cases hlog : shelf 0 with
    | none => exact Excerpt.first key objects object
    | some old =>
      obtain ⟨after, hafter, hlast⟩ := h 0 old hlog
      rw [hlast rfl] at hafter
      exact hafter.longer object
  · rw [Shelf.put_of_ne hn] at hbytes
    obtain ⟨after, hafter, -⟩ := h n bytes hbytes
    exact ⟨after ++ [object], hafter.later object, fun h0 => absurd h0 hn⟩

/-! ## Every state of a run -/

/-- The chain of a log goes on from the last of the objects, and its files hold the chain. -/
structure Continued (files : σ → Shelf) (Ready : σ → Option Stream → Prop) (start : AuditLog Stream)
    (objects : List Bytes) (state : AuditLog Stream × σ) : Prop where
  ready : Ready state.2 state.1.stream
  path : state.1.path = start.path
  key : state.1.key = start.key
  counter : state.1.counter = objects.length
  lastMac : state.1.lastMac = lastTag start.key zeroMac 0 objects
  filed : Filed start.key objects (files state.2)

variable {disk : Disk (StateM σ) Stream} {files : σ → Shelf} {Ready : σ → Option Stream → Prop}
  {start : AuditLog Stream} {state : AuditLog Stream × σ}

/-- A log that starts its chain, where it has no files. -/
theorem Continued.fresh {s₀ : σ} (hchain : start.lastMac = zeroMac ∧ start.counter = 0 ∧ start.stream = none)
    (hready : Ready s₀ none) (hempty : ∀ n, files s₀ n = none) :
    Continued files Ready start [] (start, s₀) := by
  obtain ⟨hmac, hcounter, hstream⟩ := hchain
  refine ⟨by rwa [hstream], rfl, rfl, hcounter, hmac, fun n bytes hbytes => ?_⟩
  rw [hempty] at hbytes
  cases hbytes

/-- An event that gets its line continues the chain. A rotation in between does not matter: it
    resets the chain, but the line was sealed before, and the chain goes on from the line. -/
theorem Continued.logged (hdisk : disk.Serves start.path files Ready)
    (h : Continued files Ready start objects state) {crypto : Crypto} {now : Int} {event : Event}
    {object mac : Bytes} (hon : state.1.enabled = true) (hcrypto : crypto.Computes)
    (hobject : (Event.Json.format crypto event (Calendar.timestamp now)).outcome = .ok object)
    (hmac : crypto.hmac state.1.key (chained state.1.lastMac (state.1.counter + 1) object) = .ok mac)
    (hopen : (logged disk crypto now event state).1.stream.isSome = true) :
    Continued files Ready start (objects ++ [object]) (logged disk crypto now event state) := by
  rw [← h.path] at hdisk
  obtain ⟨hready, log₁, shelf₁, hroom, hlog, hfiles⟩ :=
    after_log hdisk hon hobject hmac h.ready hopen
  have hline : sealed object (state.1.counter + 1) mac = nextLine start.key objects object := by
    rw [hcrypto _ _ _ hmac, h.key, h.lastMac, h.counter]
    rfl
  rw [hline] at hfiles
  refine ⟨hready, ?_, ?_, ?_, ?_, ?_⟩
  · exact (congrArg AuditLog.path hlog).trans (hroom.path_eq.trans h.path)
  · exact (congrArg AuditLog.key hlog).trans (hroom.key_eq.trans h.key)
  · refine (congrArg AuditLog.counter hlog).trans ?_
    rw [List.length_append, h.counter]
    rfl
  · refine (congrArg AuditLog.lastMac hlog).trans ?_
    rw [lastTag_append, ← h.lastMac, ← h.key, Nat.zero_add, ← h.counter, hcrypto _ _ _ hmac]
    rfl
  · exact hfiles ▸ (h.filed.moves hroom.moves).put object

/-- A log that is not enabled, and its files, stay as they are. -/
theorem logged_of_not_enabled {crypto : Crypto} {now : Int} {event : Event}
    (hoff : state.1.enabled = false) : AuditLog.logged disk crypto now event state = state := by
  unfold AuditLog.logged AuditLog.log
  rw [if_pos (by simp [hoff])]
  rfl

theorem Run.continued {s₀ : σ} (hstart : Continued files Ready start [] (start, s₀))
    (hdisk : disk.Serves start.path files Ready) (hrun : Run disk (start, s₀) state objects) :
    Continued files Ready start objects state := by
  induction hrun with
  | fresh => exact hstart
  | silent _ hoff ih => rwa [logged_of_not_enabled hoff]
  | written _ hon hcrypto hobject hmac hopen ih => exact ih.logged hdisk hon hcrypto hobject hmac hopen

/-- A log as it is created starts its chain. -/
theorem create_fresh {crypto : Crypto} {environment : Environment} {complaints : List Bytes}
    (h : AuditLog.create crypto environment = (complaints, .ok start)) :
    start.lastMac = zeroMac ∧ start.counter = 0 ∧ start.stream = none := by
  unfold AuditLog.create at h
  dsimp only at h
  split at h
  · cases h
    exact ⟨rfl, rfl, rfl⟩
  · split at h
    · cases h
      exact ⟨rfl, rfl, rfl⟩
    · cases h
      exact ⟨rfl, rfl, rfl⟩
    · cases h

/-- A log starts where it has no files, and each of its events gets its line. Then a file holds
    the lines of consecutive events, in the chain of all events from the first on; and it is a
    chain of its own, for its own objects or for any others, iff no event went before those of
    the file. -/
theorem Run.selfContained_iff_first {crypto : Crypto} {environment : Environment}
    {complaints : List Bytes} {s₀ : σ}
    (hcreate : AuditLog.create crypto environment = (complaints, .ok start))
    (hdisk : disk.Serves start.path files Ready) (hready : Ready s₀ none)
    (hempty : ∀ n, files s₀ n = none) (hrun : Run disk (start, s₀) state objects)
    {n : Nat} {bytes : Bytes} (hfile : files state.2 n = some bytes) :
    ∃ before segment after, objects = before ++ segment ++ after ∧ segment ≠ [] ∧
      bytes = AuditLog.written start.key before segment ∧
      (bytes = AuditLog.written start.key [] segment ↔ before = []) ∧
      ((∀ object ∈ segment, (0x0a : UInt8) ∉ object) →
        (SelfContained start.key bytes ↔ before = [])) := by
  have hstart := Continued.fresh (create_fresh hcreate) hready hempty
  obtain ⟨after, ⟨before, segment, hobjects, hsegment, rfl⟩, -⟩ :=
    (hrun.continued hstart hdisk).filed n bytes hfile
  exact ⟨before, segment, after, hobjects, hsegment, rfl, written_eq_iff hsegment,
    selfContained_written_iff hsegment⟩

/-! ## A rotation -/

theorem computes_standard (entropy : Nat → Bytes) : (Crypto.standard entropy).Computes :=
  fun _ _ _ h => (Except.ok.inj h).symm

/-- A log with room for one line of a ping, but not for two. -/
def narrow : AuditLog FileSystem.Stream where
  path := "log"
  maxBytes := 200
  enabled := true
  key := List.replicate macSize 7
  lastMac := zeroMac

def narrowCrypto : Crypto := .standard fun n => List.replicate n 7

theorem create_narrow :
    AuditLog.create narrowCrypto
        (.ofList [("FPC_AUDIT_LOG", "log"), ("FPC_AUDIT_LOG_MAX_SIZE", "200")]) =
      ([], .ok narrow) := by
  rfl

def ping : Event where
  id := "ping"

/-- The object of a ping at a time. -/
def pingObject (now : Int) : Bytes :=
  0x7b :: (Event.Json.header ping (Calendar.timestamp now) ++ [0x7d])

/-- The log and its volume after some pings. -/
def pinged : Nat → AuditLog FileSystem.Stream × Volume
  | 0 => (narrow, { files := .fresh })
  | n + 1 => logged Volume.disk narrowCrypto n ping (pinged n)

theorem run_pinged :
    Run Volume.disk (narrow, { files := .fresh }) (pinged 2) [pingObject 0, pingObject 1] := by
  have hone : Run Volume.disk (narrow, { files := .fresh }) (pinged 1) [pingObject 0] :=
    .written .fresh rfl (computes_standard _) rfl rfl (by decide +kernel)
  exact .written hone (by decide +kernel) (computes_standard _) rfl rfl (by decide +kernel)

theorem serves_narrow :
    Volume.disk.Serves narrow.path (Volume.shelf narrow.path) (Volume.Sound narrow.path) :=
  Volume.serves ⟨by decide, by decide, by decide, by decide, by decide⟩ (by decide)

theorem newline_not_mem_pings :
    ∀ object ∈ [pingObject 0, pingObject 1], (0x0a : UInt8) ∉ object := by
  decide +kernel

/-- The second of two pings is written behind a rotation. The log itself is then a chain of its
    own iff the first ping is in it. -/
theorem Run.selfContained_iff_first_of_rotation :
    ∃ bytes, Volume.shelf narrow.path (pinged 2).2 0 = some bytes ∧
      ∃ before segment after, [pingObject 0, pingObject 1] = before ++ segment ++ after ∧
        segment ≠ [] ∧ bytes = AuditLog.written narrow.key before segment ∧
        (SelfContained narrow.key bytes ↔ before = []) := by
  have hfile : (Volume.shelf narrow.path (pinged 2).2 0).isSome = true := by decide +kernel
  obtain ⟨bytes, hbytes⟩ := Option.isSome_iff_exists.1 hfile
  obtain ⟨before, segment, after, hobjects, hsegment, hwritten, -, hiff⟩ :=
    run_pinged.selfContained_iff_first create_narrow serves_narrow (Volume.sound_fresh _)
      (Volume.shelf_fresh _) hbytes
  refine ⟨bytes, hbytes, before, segment, after, hobjects, hsegment, hwritten, hiff ?_⟩
  refine fun object hobject => newline_not_mem_pings object ?_
  rw [hobjects]
  exact List.mem_append_left after (List.mem_append_right before hobject)

/-- The log itself, behind that rotation, is no chain of its own, although nothing was refused. -/
theorem Run.not_selfContained_of_rotation :
    ∃ bytes, Run Volume.disk (narrow, { files := .fresh }) (pinged 2) [pingObject 0, pingObject 1] ∧
      (pinged 2).2.console = [] ∧ Volume.shelf narrow.path (pinged 2).2 0 = some bytes ∧
      ¬SelfContained narrow.key bytes := by
  have hlength : (Volume.shelf narrow.path (pinged 2).2 0).map List.length = some 179 := by
    decide +kernel
  obtain ⟨bytes, hbytes, hshort⟩ := Option.map_eq_some_iff.1 hlength
  have hstart : Continued (Volume.shelf narrow.path) (Volume.Sound narrow.path) narrow []
      (narrow, { files := .fresh }) :=
    .fresh (create_fresh create_narrow) (Volume.sound_fresh _) (Volume.shelf_fresh _)
  obtain ⟨after, ⟨before, segment, hobjects, hsegment, rfl⟩, hlast⟩ :=
    (run_pinged.continued hstart serves_narrow).filed 0 bytes hbytes
  rw [hlast rfl, List.append_nil] at hobjects
  refine ⟨_, run_pinged, by decide +kernel, hbytes, fun hself => ?_⟩
  have hfirst := (selfContained_written_iff hsegment fun object hobject =>
    newline_not_mem_pings object (hobjects ▸ List.mem_append_right before hobject)).1 hself
  -- Were nothing before them, the lines would be both, and longer than the file is.
  rw [hfirst, List.nil_append] at hobjects
  rw [hfirst, ← hobjects] at hshort
  have hboth : (AuditLog.written narrow.key [] [pingObject 0, pingObject 1]).length = 358 := by
    decide +kernel
  rw [hboth] at hshort
  exact absurd hshort (by decide)

end AuditLog

end Fingerprint
