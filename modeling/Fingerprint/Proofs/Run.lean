import Fingerprint.Proofs.Dispatcher
import Fingerprint.Proofs.Starting
import Fingerprint.Service

/-!
# Runs

A run of the coordinator: its tasks are performed, in any order and at any
time, what is pending is stopped, and in between goes on what concerns no
session. The queue, the service and the driver's reports are among the
latter.

* `Task.Concerns`: the sessions that a task may concern;
* `Record.Step`, `Record.Runs`, `Record.Reachable`;
* `Record.Reachable.episodes`: a run is a sequence of episodes;
* `Record.Reachable.invariant`: what episodes keep holds along every run.
-/

namespace Fingerprint

variable {ω κ α β : Type} {host : Host ω κ}

/-- The sessions that a task may concern while some are in their slots: the one that it starts, those
    that are in its way, and otherwise those that it is about. -/
def Task.Concerns (slots : Slots) (x : Session) : Task κ → Prop
  | startEnrollment caller sink _ =>
    x.IsNew .enroll caller sink ∨ x.kind ≠ .remove ∧ slots.get x.kind = some x
  | startAuthentication caller sink _ =>
    x.IsNew .authenticate caller sink ∨ x.kind ≠ .remove ∧ slots.get x.kind = some x
  | startRemove caller sink _ =>
    x.IsNew .remove caller sink ∨ x.kind = .remove ∧ slots.get x.kind = some x
  | cancel kind caller => x.kind = kind ∧ slots.get x.kind = some x ∧ x.caller = caller
  | driverEvent event => x.kind ∈ event.kinds ∧ slots.get x.kind = some x
  | callerDied caller => slots.get x.kind = some x ∧ x.caller = caller
  | rename .. | begin _ | applySubject _ | driverDied _ | lockoutExpired | client _ => False

/-- Whether a session may leave its slot by a task without the driver being asked to give up its
    operation. -/
def Task.MayDrop : Task κ → Prop
  | driverEvent event => event.MayDrop
  | callerDied _ => True
  | _ => False

namespace Record

variable (record : Record host) (v : View κ)

/-! ## Tasks -/

theorem along_applySubject (subject : Int32) :
    record.Along View.Kept v (host.applySubject subject) := by
  refine (record.along_answer v (.provideDirectory (host.storagePath subject)) rfl).kept.bind
    fun reason v₁ => ?_
  cases reason with
  | some reason => exact (record.yields_publish_note v₁ _ rfl).along fun _ v₂ h₂ => h₂.kept
  | none =>
    refine (record.yields_setActiveSubject v₁ subject _).thenAlong (fun _ _ h => h) fun _ v₂ _ => ?_
    exact ensures_pure (.refl v₂)

theorem along_begin (subject : Int32) : record.Along View.Kept v (host.begin subject) := by
  refine (record.yields_acquire v).thenAlong (fun _ _ h => h.2.1) fun handle v₁ _ => ?_
  split
  · exact (record.yields_publish_note v₁ _ rfl).thenAlong (fun _ _ h => h.kept) fun _ v₂ _ =>
      record.along_applySubject v₂ subject
  · exact record.along_applySubject v₁ subject

/-- Whatever a task does is a sequence of episodes, of sessions that the task may concern, and
    thorough unless it may drop them. -/
theorem along_perform (hv : v.Sound) (task : Task κ) :
    record.Along (EpisodesOf (task.Concerns v.slots) task.MayDrop) v (host.perform task) := by
  have hkept {P : Session → Prop} {dropped : Prop} {op : Op ω κ Unit} (h : record.Along View.Kept v op) :
      record.Along (EpisodesOf P dropped) v op :=
    Ensures.mono h fun _ _ h => .single (.noted h.1)
  cases task with
  | startEnrollment caller sink request =>
    exact record.along_startEnrollment v hv caller sink request
      (fun x hkind hslot => .inr ⟨hkind, hslot⟩) fun x => .inl
  | startAuthentication caller sink request =>
    exact record.along_startAuthentication v hv caller sink request
      (fun x hkind hslot => .inr ⟨hkind, hslot⟩) fun x => .inl
  | startRemove caller sink request =>
    exact record.along_startRemove v hv caller sink request
      (fun x hkind hslot => .inr ⟨hkind, hslot⟩) fun x => .inl
  | cancel kind caller =>
    refine (record.yields_cancel v hv kind caller).along fun _ v' h => ?_
    rcases h with h | ⟨x, v₁, hslot, hcaller, hparting, hover, rfl⟩
    · exact .single (.noted h.1)
    · obtain rfl := hv.sorted kind x hslot
      exact .single (.parted ⟨rfl, hslot, hcaller⟩ hslot hparting fun _ _ _ => hover)
  | rename subject id label =>
    refine ensures_ite (fun _ => ?_) fun _ => ensures_pure .refl
    exact hkept (record.along_answer v (.storeRename subject id label) rfl).kept
  | begin subject => exact hkept (record.along_begin v subject)
  | applySubject subject => exact hkept (record.along_applySubject v subject)
  | driverEvent event => exact (record.yields_dispatch v hv event).along fun _ _ h => h
  | callerDied caller => exact record.along_callerDied v hv caller
  | driverDied generation =>
    exact (record.yields_driverDied v generation).along fun _ _ h => .single (.noted h)
  | lockoutExpired => exact (record.yields_lockoutExpired v).along fun _ _ h => h.mono (fun _ => id) id
  | client task => exact hkept (record.ensures_client v task)

/-! ## Runs -/

/-- What happens in one step of a run. -/
inductive Step : System ω κ → System ω κ → Prop
  | performed (task : Task κ) (s : System ω κ) : Step s ((host.perform task).run s).2
  | stopped (s : System ω κ) : Step s (host.stopPendingOperations.run s).2
  /-- Something that concerns no session, on the queue, in the service or around it. -/
  | elsewhere {s s' : System ω κ} (h : (s.view record.history).Noted (s'.view record.history)) :
      Step s s'

/-- What happens in a run, step by step. -/
abbrev Runs : System ω κ → System ω κ → Prop := Relation.ReflTransGen record.Step

/-- The states that runs lead to from one in which nothing has happened so far. -/
inductive Reachable : System ω κ → Prop
  | fresh {s : System ω κ} (h : s.view record.history = {}) : Reachable s
  | step {s s' : System ω κ} (h : Reachable s) (hstep : record.Step s s') : Reachable s'

variable {record}

theorem Step.episodes {s s' : System ω κ} (h : record.Step s s')
    (hs : (s.view record.history).Sound) :
    Episodes (s.view record.history) (s'.view record.history) := by
  cases h with
  | performed task => exact (record.along_perform _ hs task s rfl).episodes
  | stopped =>
    obtain ⟨_, -, hepisodes, -⟩ :=
      record.yields_stopPendingOperations _ hs (P := fun _ => True) (fun _ _ _ => trivial) s rfl
    exact hepisodes.episodes
  | elsewhere h => exact .single (.noted h)

/-- A run is a sequence of episodes. -/
theorem Reachable.episodes {s : System ω κ} (h : record.Reachable s) :
    Episodes {} (s.view record.history) := by
  induction h with
  | fresh h => rw [h]
  | step _ hstep ih => exact ih.trans (hstep.episodes (ih.sound .fresh))

/-- What holds at first, and is kept by every episode, holds in every state that runs lead to. -/
theorem Reachable.invariant {P : View κ → Prop} {s : System ω κ} (h : record.Reachable s)
    (fresh : P {}) (hepisode : ∀ v v', Episode v v' → P v → P v') : P (s.view record.history) := by
  have hepisodes := h.episodes
  generalize s.view record.history = v at hepisodes
  induction hepisodes with
  | refl => exact fresh
  | tail _ hlast ih => exact hepisode _ _ hlast ih

theorem Reachable.sound {s : System ω κ} (h : record.Reachable s) : (s.view record.history).Sound :=
  h.invariant .fresh fun _ _ => Episode.sound

theorem Reachable.runs {s s' : System ω κ} (h : record.Reachable s) (hruns : record.Runs s s') :
    record.Reachable s' := by
  induction hruns with
  | refl => exact h
  | tail _ hstep ih => exact ih.step hstep

end Record

end Fingerprint
