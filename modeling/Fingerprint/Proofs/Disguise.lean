import Mathlib.Data.List.Forall2
import Mathlib.Logic.Function.Basic
import Fingerprint.Execution
import Fingerprint.Proofs.Roster

/-!
# Callers in disguise

The same state with other tokens for the callers: those of the sessions, of the
registrations and of the tasks that wait. Two callers never get the same token,
and nobody remains nobody. The tasks of clients, which may know of callers as
well, are exchanged with them.

To look up what belongs to a caller is no different in disguise, nor is what
the queue does with its tasks.

* `Disguise`: other tokens for callers;
* `System.disguise`: a state in disguise, within another world;
* `Liveness.register_disguise` and others, on the table of registrations;
* `TaskQueue.pop_map`, `Lockout.recordFailure_map`, on the queue.
-/

namespace Fingerprint

/-- Other tokens for callers, and other tasks for those of clients. -/
structure Disguise (κ κ' : Type) where
  caller : CallerToken → CallerToken
  client : κ → κ'
  injective : Function.Injective caller
  /-- Nobody remains nobody. -/
  nobody : caller 0 = 0

variable {ω ω' κ κ' : Type} (ρ : Disguise κ κ')

namespace Disguise

/-- Everybody as they are. -/
protected def id (κ : Type) : Disguise κ κ := ⟨fun caller => caller, fun task => task, fun _ _ h => h, rfl⟩

theorem caller_eq_zero_iff {caller : CallerToken} : ρ.caller caller = 0 ↔ caller = 0 :=
  ⟨fun h => ρ.injective (h.trans ρ.nobody.symm), fun h => h ▸ ρ.nobody⟩

theorem caller_bne (caller other : CallerToken) : (ρ.caller caller != ρ.caller other) = (caller != other) := by
  rw [Bool.eq_iff_iff, bne_iff_ne, bne_iff_ne, ρ.injective.ne_iff]

theorem caller_beq (caller other : CallerToken) : (ρ.caller caller == ρ.caller other) = (caller == other) := by
  rw [Bool.eq_iff_iff, beq_iff_eq, beq_iff_eq, ρ.injective.eq_iff]

end Disguise

/-! ## Sessions -/

/-- A handle in disguise. -/
def Registration.disguise (r : Registration) : Registration := { r with caller := ρ.caller r.caller }

/-- A session in disguise. -/
def Session.disguise (x : Session) : Session :=
  { x with caller := ρ.caller x.caller, registration := x.registration.disguise ρ }

namespace Slots

/-- The slots with their sessions in disguise. -/
def disguise (slots : Slots) : Slots where
  enroll := slots.enroll.map (·.disguise ρ)
  authenticate := slots.authenticate.map (·.disguise ρ)
  remove := slots.remove.map (·.disguise ρ)

theorem get_disguise (slots : Slots) (kind : SessionKind) :
    (slots.disguise ρ).get kind = (slots.get kind).map (·.disguise ρ) := by
  cases kind <;> rfl

theorem set_disguise (slots : Slots) (kind : SessionKind) (x : Option Session) :
    (slots.disguise ρ).set kind (x.map (·.disguise ρ)) = (slots.set kind x).disguise ρ := by
  cases kind <;> rfl

end Slots

/-! ## Registrations -/

/-- What is done at the death of a caller, in disguise. -/
def DeathAction.disguise : DeathAction κ → DeathAction κ'
  | endSession kind id => .endSession kind id
  | client task => .client (ρ.client task)

/-- An entry in disguise. -/
def Watch.disguise (watch : Watch (DeathAction κ)) : Watch (DeathAction κ') :=
  ⟨watch.id, ρ.caller watch.caller, watch.onDeath.map (·.disguise ρ)⟩

namespace Liveness

/-- The table with its entries in disguise. -/
def disguise (table : Liveness (DeathAction κ)) : Liveness (DeathAction κ') :=
  ⟨table.entries.map (·.disguise ρ), table.nextId⟩

variable (table : Liveness (DeathAction κ))

theorem register_disguise (caller : CallerToken) (onDeath : Option (DeathAction κ)) :
    (table.disguise ρ).register (ρ.caller caller) (onDeath.map (·.disguise ρ)) =
      (table.register caller onDeath).map fun made => (made.1.disguise ρ, made.2.disguise ρ) := by
  by_cases hcaller : caller = 0
  · rw [register, register, if_pos hcaller, if_pos (ρ.caller_eq_zero_iff.2 hcaller)]
    rfl
  · rw [register, register, if_neg hcaller, if_neg (ρ.caller_eq_zero_iff.not.2 hcaller)]
    simp only [disguise, Except.map, List.map_append]
    rfl

theorem unregister_disguise (id : Nat) : (table.disguise ρ).unregister id = (table.unregister id).disguise ρ := by
  simp only [unregister, disguise, List.filter_map]
  rfl

theorem find?_disguise (id : Nat) : (table.disguise ρ).find? id = (table.find? id).map (·.disguise ρ) := by
  simp only [find?, disguise, List.find?_map]
  rfl

/-- Nobody else's entries are taken for those of a caller. -/
theorem entriesOf_disguise (caller : CallerToken) :
    (table.disguise ρ).entriesOf (ρ.caller caller) = table.entriesOf caller := by
  simp only [entriesOf, disguise, List.filter_map, List.map_map, Function.comp_def, Watch.disguise, ρ.caller_beq]

theorem isRegistered_disguise (caller : CallerToken) :
    (table.disguise ρ).isRegistered (ρ.caller caller) = table.isRegistered caller := by
  simp only [isRegistered, disguise, List.any_map, Function.comp_def, Watch.disguise, ρ.caller_beq]

theorem releaseSession_disguise (x : Option Session) :
    Host.releaseSession (x.map (·.disguise ρ)) (table.disguise ρ) = (Host.releaseSession x table).disguise ρ := by
  cases x with
  | none => rfl
  | some x =>
    have hid : (x.disguise ρ).registration.id = x.registration.id := rfl
    simp only [Option.map_some, Host.releaseSession, Registration.release, hid]
    cases x.registration.id with
    | none => rfl
    | some id => exact table.unregister_disguise ρ id

end Liveness

/-! ## The queue -/

/-- A task in disguise. -/
def Task.disguise : Task κ → Task κ'
  | startEnrollment caller sink request => .startEnrollment (ρ.caller caller) sink request
  | startAuthentication caller sink request => .startAuthentication (ρ.caller caller) sink request
  | startRemove caller sink request => .startRemove (ρ.caller caller) sink request
  | cancel kind caller => .cancel kind (ρ.caller caller)
  | rename subject id label => .rename subject id label
  | begin subject => .begin subject
  | applySubject subject => .applySubject subject
  | driverEvent event => .driverEvent event
  | callerDied caller => .callerDied (ρ.caller caller)
  | driverDied generation => .driverDied generation
  | lockoutExpired => .lockoutExpired
  | client task => .client (ρ.client task)

namespace TaskQueue

variable {τ τ' : Type} (f : τ → τ') (q : TaskQueue τ)

theorem pop_map (now : Int) : (q.map f).pop now = ((q.pop now).1.map f, (q.pop now).2.map f) := by
  refine Prod.ext ?_ (map_pop f q now).symm
  rw [pop, pop, ← map_promote]
  cases hready : (q.promote now).ready with
  | nil => simp only [map, hready, List.map_nil, Option.map_none]
  | cons => simp only [map, hready, List.map_cons, Option.map_some]

theorem postDelayed_map (now delay : Int) (task : τ) :
    (q.map f).postDelayed now delay (f task) =
      ((q.postDelayed now delay task).1, (q.postDelayed now delay task).2.map f) := by
  refine Prod.ext ?_ (map_postDelayed f q now delay task).symm
  have hstopping : (q.map f).stopping = q.stopping := rfl
  rw [postDelayed, postDelayed, hstopping]
  split <;> rfl

theorem start_map : (q.map f).start = q.start.map f := by
  have hstarted : (q.map f).started = q.started := rfl
  have hstopping : (q.map f).stopping = q.stopping := rfl
  rw [start, start, hstarted, hstopping]
  split <;> rfl

theorem stop_map (thread : Thread) : (q.map f).stop thread = (q.stop thread).map f := rfl

end TaskQueue

/-- It makes no difference to the lockout what the queue holds besides its timer. -/
theorem Lockout.recordFailure_map {τ τ' : Type} (f : τ → τ') (lockout : Lockout) (settings : Settings) (now : Int)
    (expiry : τ) (q : TaskQueue τ) :
    lockout.recordFailure settings now (f expiry) (q.map f) =
      ((lockout.recordFailure settings now expiry q).1, (lockout.recordFailure settings now expiry q).2.1,
        (lockout.recordFailure settings now expiry q).2.2.map f) := by
  have hcancel (lockout : Lockout) : lockout.cancelTimer (q.map f) = (lockout.cancelTimer q).map f := by
    rw [cancelTimer, cancelTimer]
    split
    · rfl
    · exact (TaskQueue.map_cancel ..).symm
  simp only [recordFailure, hcancel, TaskQueue.postDelayed_map]
  split <;> rfl

/-! ## The system -/

/-- A state in disguise, within another world. -/
def System.disguise (world : ω') (s : System ω κ) : System ω' κ' where
  clock := s.clock
  thread := s.thread
  queue := s.queue.map (Task.disguise ρ)
  liveness := s.liveness.disguise ρ
  lockout := s.lockout
  connection := s.connection
  slots := s.slots.disguise ρ
  nextSession := s.nextSession
  detached := s.detached
  speaker := s.speaker
  stranded := s.stranded
  world

namespace System

variable (world : ω') (s : System ω κ)

@[simp] theorem disguise_clock : (s.disguise ρ world).clock = s.clock := rfl

@[simp] theorem disguise_thread : (s.disguise ρ world).thread = s.thread := rfl

@[simp] theorem disguise_queue : (s.disguise ρ world).queue = s.queue.map (Task.disguise ρ) := rfl

@[simp] theorem disguise_liveness : (s.disguise ρ world).liveness = s.liveness.disguise ρ := rfl

@[simp] theorem disguise_lockout : (s.disguise ρ world).lockout = s.lockout := rfl

@[simp] theorem disguise_connection : (s.disguise ρ world).connection = s.connection := rfl

@[simp] theorem disguise_slots : (s.disguise ρ world).slots = s.slots.disguise ρ := rfl

@[simp] theorem disguise_nextSession : (s.disguise ρ world).nextSession = s.nextSession := rfl

@[simp] theorem disguise_detached : (s.disguise ρ world).detached = s.detached := rfl

end System

/-! ## Everybody as they are -/

theorem TaskQueue.map_id {τ : Type} (q : TaskQueue τ) : q.map id = q := by
  have hdelayed : (fun d : Delayed τ => d.map id) = id := rfl
  rw [map, hdelayed, List.map_id, List.map_id]

theorem Task.disguise_id : Task.disguise (.id κ) = id := funext fun task => by cases task <;> rfl

theorem Watch.disguise_id (watch : Watch (DeathAction κ)) : watch.disguise (.id κ) = watch := by
  obtain ⟨id, caller, onDeath⟩ := watch
  rcases onDeath with _ | _ | _ <;> rfl

theorem Liveness.disguise_id (table : Liveness (DeathAction κ)) : table.disguise (.id κ) = table := by
  simp only [disguise, Watch.disguise_id, List.map_id']

theorem Slots.disguise_id (slots : Slots) : slots.disguise (.id κ) = slots := by
  obtain ⟨_ | _, _ | _, _ | _⟩ := slots <;> rfl

/-- In no disguise a state differs in its world alone. -/
theorem System.disguise_id (world : ω) (s : System ω κ) : s.disguise (.id κ) world = { s with world } := by
  rw [disguise, Task.disguise_id, TaskQueue.map_id, Liveness.disguise_id, Slots.disguise_id]

/-! ## Events -/

/-- A field in disguise: only in a caller token does it differ. -/
inductive Field.Disguised : Field → Field → Prop
  | same (field : Field) : Disguised field field
  | caller (token : CallerToken) : Disguised (.caller token) (.caller (ρ.caller token))

/-- An event in disguise: only in caller tokens does it differ. -/
structure Event.Disguised (event event' : Event) : Prop where
  category : event'.category = event.category
  severity : event'.severity = event.severity
  id : event'.id = event.id
  message : event'.message = event.message
  fields : List.Forall₂ (Field.Disguised ρ) event.fields event'.fields

variable {ρ}

/-- Where no caller is named, there is no difference. -/
theorem Event.Disguised.same (event : Event) : event.Disguised ρ event :=
  ⟨rfl, rfl, rfl, rfl, List.forall₂_same.2 fun field _ => .same field⟩

/-- In no disguise an event is the same. -/
theorem Event.Disguised.eq {event event' : Event} (h : event.Disguised (.id κ) event') : event' = event := by
  have hfield (field field' : Field) (h : field.Disguised (.id κ) field') : field = field' := by cases h <;> rfl
  obtain ⟨category, severity, id, message, fields⟩ := event
  obtain ⟨category', severity', id', message', fields'⟩ := event'
  obtain ⟨rfl, rfl, rfl, rfl, hfields⟩ := h
  obtain rfl : fields = fields' := List.forall₂_eq_eq_eq ▸ hfields.imp hfield
  rfl

/-- What is shown of a field is the same in disguise. -/
theorem Field.Disguised.shown {field field' : Field} (h : field.Disguised ρ field') :
    field'.key = field.key ∧ field'.privacy = field.privacy ∧ field'.numeric = field.numeric ∧
      (field.privacy ≠ .hash → field'.value = field.value) := by
  cases h with
  | same => exact ⟨rfl, rfl, rfl, fun _ => rfl⟩
  | caller => exact ⟨rfl, rfl, rfl, fun hprivacy => absurd rfl hprivacy⟩

end Fingerprint
