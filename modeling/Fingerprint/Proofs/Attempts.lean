import Fingerprint.Proofs.Conduct
import Fingerprint.Proofs.Performance
import Fingerprint.Proofs.Routing

/-!
# How attempts are counted

An attempt has failed if it comes to its result while an authentication is
active, and the result is no match. The lockout counts the failures there were
since the last match, or since its timer has last run out. No more than one
failure beyond the limit is counted that way, so there is always room for them.

All else leaves the count alone: results that nobody waits for, enrollments
and removals, the driver and what becomes of it, and whether those who are
told of an attempt can be told.

* `Performance.isFailure`, `Performance.forgives`;
* `failures`: the count, by what was performed in a run;
* `Record.failed_perform`: what a task does to the count of the lockout;
* `Record.Performs.failed_eq`, `Record.Performs.bounded`: the two agree;
* `Record.counts_failures`.
-/

namespace Fingerprint

namespace Performance

variable {κ : Type}

/-- Whether the active authentication has come to its result, which is no match. -/
def isFailure (p : Performance κ) : Bool :=
  match p.task with
  | .driverEvent (.authenticated _ id _) => p.slots.authenticate.isSome && id == 0
  | _ => false

/-- Whether failures are forgotten: the active authentication has come to a match, or the timer of the
    lockout has run out. -/
def forgives (p : Performance κ) : Bool :=
  match p.task with
  | .driverEvent (.authenticated _ id _) => p.slots.authenticate.isSome && id != 0
  | .lockoutExpired => true
  | _ => false

theorem settles_eq (p : Performance κ) : p.task.settles p.slots = (p.isFailure || p.forgives) := by
  obtain ⟨task, slots⟩ := p
  cases task with
  | driverEvent event =>
    cases event with
    | authenticated device id subject =>
      cases hid : id == 0 <;> simp [Task.settles, isFailure, forgives, hid, bne]
    | _ => rfl
  | _ => rfl

theorem exists_of_isFailure {p : Performance κ} (h : p.isFailure = true) :
    ∃ device subject x, p.task = .driverEvent (.authenticated device 0 subject) ∧ p.slots.authenticate = some x := by
  obtain ⟨task, slots⟩ := p
  cases task with
  | driverEvent event =>
    cases event with
    | authenticated device id subject =>
      obtain ⟨hslot, hid⟩ := Bool.and_eq_true_iff.1 h
      obtain ⟨x, hx⟩ := Option.isSome_iff_exists.1 hslot
      obtain rfl := beq_iff_eq.1 hid
      exact ⟨device, subject, x, rfl, hx⟩
    | _ => cases h
  | _ => cases h

end Performance

variable {ω κ : Type}

/-- The failures in a run since they were last forgotten. -/
def failures (done : List (Performance κ)) : Nat :=
  (done.reverse.takeWhile fun p => !p.forgives).countP Performance.isFailure

theorem failures_append_singleton (done : List (Performance κ)) (p : Performance κ) :
    failures (done ++ [p]) = if p.forgives then 0 else if p.isFailure then failures done + 1 else failures done := by
  rw [failures, List.reverse_append, List.reverse_singleton, List.singleton_append, List.takeWhile_cons]
  cases p.forgives with
  | true => rfl
  | false =>
    simp only [Bool.not_false, if_true, List.countP_cons, Bool.false_eq_true, if_false]
    split <;> rfl

/-- Where there is a limit, there is room for one failure beyond it. -/
theorem Lockout.toNat_add_one_lt {limit : UInt32} (hlimit : limit + 1 ≠ 0) : limit.toNat + 1 < UInt32.size := by
  have hsize := limit.toNat_lt_size
  have hne : limit.toNat ≠ UInt32.size - 1 := by
    intro heq
    refine hlimit ?_
    rw [← UInt32.toNat_inj, UInt32.toNat_add, heq]
    rfl
  omega

namespace Record

variable {host : Host ω κ} {record : Record host} {sparing : Prop} {done : List (Performance κ)} {s s' : System ω κ}

/-- A task that has nothing to do with attempts leaves the lockout alone. -/
theorem lockout_perform (record : Record host) {task : Task κ} (h : task.settles s.slots = false) :
    ((host.perform task).run s).2.lockout = s.lockout :=
  Acts.lockout_eq record (Host.acts_perform record h)

/-- A failure is counted, whoever can be told of it, and a match or the timer makes an end of the
    count. -/
theorem failed_perform (hs : (s.view record.history).Sound) (task : Task κ) :
    ((host.perform task).run s).2.lockout.failed =
      if Performance.forgives ⟨task, s.slots⟩ then 0
      else if Performance.isFailure ⟨task, s.slots⟩ then s.lockout.failed + 1 else s.lockout.failed := by
  cases hsettles : task.settles s.slots with
  | false =>
    have heq := Performance.settles_eq ⟨task, s.slots⟩
    rw [hsettles, eq_comm, Bool.or_eq_false_iff] at heq
    rw [record.lockout_perform hsettles, heq.1, heq.2]
    rfl
  | true =>
    cases task with
    | driverEvent event =>
      cases event with
      | authenticated device id subject =>
        have hslot : s.slots.authenticate.isSome := hsettles
        obtain ⟨_, -, hfailed⟩ := record.yields_dispatch_authenticated _ hs hslot device id subject s rfl
        refine hfailed.trans ?_
        by_cases hid : id = 0 <;> simp [Performance.forgives, Performance.isFailure, hslot, hid, System.view]
      | _ => cases hsettles
    | lockoutExpired => rfl
    | _ => cases hsettles

/-- The lockout counts the failures of a run from the start. -/
theorem Performs.failed_eq (h : record.Performs sparing done s s') (hs : s.view record.history = {}) :
    s'.lockout.failed = UInt32.ofNat (failures done) := by
  induction h with
  | nothing => exact congrArg (fun v : View κ => v.lockout.failed) hs
  | performed h task ih =>
    rw [failed_perform (h.reachable (.fresh hs)).sound, failures_append_singleton, ih hs]
    split
    · rfl
    · split
      · exact (UInt32.ofNat_add _ _).symm
      · rfl
  | stopped _ ih =>
    have hacts : host.Conducts False host.stopPendingOperations := Host.pervasive_conducts.coarse.stopPendingOperations
    rw [Acts.lockout_eq record (hacts _), ih hs]
  | elsewhere _ hnoted _ ih =>
    rw [← ih hs]
    exact congrArg Lockout.failed hnoted.lockout_eq

/-- A failure beyond the limit locks authentication, and then nothing is active that could fail. -/
theorem Performs.bounded (h : record.Performs sparing done s s') (hs : s.view record.history = {})
    (hlimit : host.setup.lockout.maxFailedAttempts + 1 ≠ 0) :
    failures done ≤ host.setup.lockout.maxFailedAttempts.toNat + 1 ∧
      (host.setup.lockout.maxFailedAttempts.toNat < failures done → s'.slots.authenticate = none) := by
  have hroom := Lockout.toNat_add_one_lt hlimit
  induction h with
  | nothing => exact ⟨Nat.zero_le _, fun hover => absurd hover (Nat.not_lt_zero _)⟩
  | @performed done s s' h task ih =>
    obtain ⟨hbound, hvacant⟩ := ih hs
    rw [failures_append_singleton]
    cases hforgives : Performance.forgives ⟨task, s'.slots⟩ with
    | true => exact ⟨Nat.zero_le _, fun hover => absurd hover (Nat.not_lt_zero _)⟩
    | false =>
      cases hfailure : Performance.isFailure ⟨task, s'.slots⟩ with
      | true =>
        -- Something was active that could fail, so the limit is not yet passed.
        obtain ⟨device, subject, x, rfl, hslot⟩ := Performance.exists_of_isFailure hfailure
        have hwithin : failures done ≤ host.setup.lockout.maxFailedAttempts.toNat :=
          Nat.not_lt.1 fun hover => Option.some_ne_none x (hslot.symm.trans (hvacant hover))
        refine ⟨Nat.succ_le_succ hwithin, fun _ => ?_⟩
        exact record.authenticate_eq_none (h.reachable (.fresh hs)).sound hslot device 0 subject
      | false =>
        refine ⟨hbound, fun hover => ?_⟩
        have hsettles : task.settles s'.slots = false := by
          rw [Performance.settles_eq ⟨task, s'.slots⟩, hfailure, hforgives]
          rfl
        have hlocked : s'.lockout.isLocked host.setup.lockout := by
          rw [Lockout.isLocked, h.failed_eq hs, decide_eq_true_iff, UInt32.lt_iff_toNat_lt,
            UInt32.toNat_ofNat_of_lt' (Nat.lt_of_le_of_lt hbound hroom)]
          exact hover
        exact Acts.slot_eq_none record (Host.acts_perform record hsettles) (fun hnot => hnot hlocked) (hvacant hover)
  | stopped _ ih =>
    obtain ⟨hbound, hvacant⟩ := ih hs
    have hacts : host.Conducts False host.stopPendingOperations := Host.pervasive_conducts.coarse.stopPendingOperations
    exact ⟨hbound, fun hover => Acts.slot_eq_none record (hacts _) id (hvacant hover)⟩
  | elsewhere _ hnoted _ ih =>
    obtain ⟨hbound, hvacant⟩ := ih hs
    exact ⟨hbound, fun hover => (congrArg Slots.authenticate hnoted.slots_eq).trans (hvacant hover)⟩

/-- Whatever is done is a run in which some tasks are performed. In every state that a run leads to
    from the start, the lockout has counted the failures there were since they were last forgotten;
    unless there is no limit, that is their very number. And every task that is neither a failure
    nor such as to forgive leaves the lockout as it is. -/
theorem counts_failures (record : Record host) (hs : s.view record.history = {}) :
    (∀ {α : Type} {op : Op ω κ α}, host.Use op → ∀ s, ∃ done, record.Performs False done s (op.run s).2) ∧
      ∀ done s', record.Performs False done s s' →
        s'.lockout.failed = UInt32.ofNat (failures done) ∧
        (host.setup.lockout.maxFailedAttempts + 1 ≠ 0 → s'.lockout.failed.toNat = failures done) ∧
        ∀ task, Performance.isFailure ⟨task, s'.slots⟩ = false → Performance.forgives ⟨task, s'.slots⟩ = false →
          ((host.perform task).run s').2.lockout = s'.lockout := by
  refine ⟨fun hop => record.performs_use nofun hop, fun done s' h => ?_⟩
  refine ⟨h.failed_eq hs, fun hlimit => ?_, fun task hfailure hforgives => ?_⟩
  · have hbound := (h.bounded hs hlimit).1
    have hsize := Lockout.toNat_add_one_lt hlimit
    rw [h.failed_eq hs, UInt32.toNat_ofNat_of_lt' (Nat.lt_of_le_of_lt hbound hsize)]
  · refine record.lockout_perform ?_
    rw [Performance.settles_eq ⟨task, s'.slots⟩, hfailure, hforgives]
    rfl

/-- Two failures are forgotten with a match, and another one is counted after that. A result that nobody
    waits for is not. -/
theorem counts_failures_of_match :
    let tasks : List (Task Empty) :=
      [.startAuthentication 1 (some "a") {}, .driverEvent (.authenticated 1 0 0), .driverEvent (.authenticated 1 0 0),
        .startAuthentication 1 none {}, .driverEvent (.authenticated 1 0 0),
        .startAuthentication 1 (some "a") {}, .driverEvent (.authenticated 1 7 0),
        .startAuthentication 1 (some "a") {}, .driverEvent (.authenticated 1 0 0)]
    let done := Ledger.performances {} Ledger.deaf tasks { world := [] }
    failures (done.take 6) = 2 ∧ failures done = 1 ∧
      (Ledger.perform {} Ledger.deaf tasks).lockout.failed.toNat = failures done := by
  intro tasks done
  have hcounts := (counts_failures (Ledger.record {} Ledger.deaf) rfl).2 done _ (Ledger.performs_foldl {} Ledger.deaf tasks _)
  exact ⟨by decide, by decide, hcounts.2.1 (by decide)⟩

end Record

end Fingerprint
