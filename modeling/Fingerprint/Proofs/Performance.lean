import Fingerprint.Proofs.Service

/-!
# What is performed in a run

A run with the tasks that are performed in it, one after the other, each with
what the slots held when its turn came. What goes on in between concerns no
session; and it may be asked for besides that meanwhile nobody changes the
store, which is then up to the tasks.

Every way in which the coordinator is used is such a run.

* `Performance`: a task that is performed;
* `changes`: the changes that the store was asked for;
* `Record.SparesStore`: the hosts that leave the store to the coordinator;
* `Record.Performs`: a run, and what is performed in it;
* `Record.performs_use`.
-/

namespace Fingerprint

/-- A task that is performed, and what the slots hold when its turn comes. -/
structure Performance (κ : Type) where
  task : Task κ
  slots : Slots

/-- The change that the store is asked for. -/
def Entry.change? : Entry → Option Call
  | called call .. => if call.isMutation then some call else none
  | _ => none

/-- The changes that the store was asked for, oldest first. -/
def changes (history : List Entry) : List Call := history.filterMap Entry.change?

theorem changes_append (history more : List Entry) : changes (history ++ more) = changes history ++ changes more :=
  List.filterMap_append

variable {ω κ α β : Type} {host : Host ω κ}

namespace Record

/-- Whoever answers a call or runs a client's task has no change made to the store besides. -/
structure SparesStore (record : Record host) : Prop where
  answer : ∀ (call : Call) (s : System ω κ), changes (record.history ((host.answer call).run s).2.world) =
    changes (record.history s.world) ++ if call.isMutation then [call] else []
  client : ∀ (task : κ) (s : System ω κ),
    changes (record.history ((host.client task).run s).2.world) = changes (record.history s.world)

/-- From one state to another, the store was asked for no change. -/
def Spared (record : Record host) (s s' : System ω κ) : Prop :=
  changes (record.history s'.world) = changes (record.history s.world)

theorem Spared.trans {record : Record host} {s s' s'' : System ω κ} (h : record.Spared s s')
    (h' : record.Spared s' s'') : record.Spared s s'' :=
  Eq.trans h' h

theorem spared_published (record : Record host) (event : Event) (s : System ω κ) :
    record.Spared s { s with world := host.observe event s } := by
  rw [Spared, record.observe, changes_append]
  exact List.append_nil _

theorem SparesStore.spared_answer {record : Record host} (hspares : record.SparesStore) {call : Call}
    (h : call.isMutation = false) : (host.answer call).Follows record.Spared := by
  intro s
  rw [Spared, hspares.answer, h]
  exact List.append_nil _

/-- All that is composed of other things spares the store. -/
theorem SparesStore.pervasive {record : Record host} (hspares : record.SparesStore) :
    host.Pervasive (Op.Follows record.Spared) (Op.Follows record.Spared) :=
  Host.pervasive_follows (fun _ => rfl) .trans record.spared_published
    (fun h => hspares.spared_answer (Call.isMutation_of_isRoutine h)) (fun _ _ _ _ _ => rfl) fun _ _ _ => rfl

/-! ## Runs with their tasks -/

/-- A run from one state to another, and what is performed in it, in order. Where sparing is asked for,
    the store is asked for no change in between. -/
inductive Performs (record : Record host) (sparing : Prop) :
    List (Performance κ) → System ω κ → System ω κ → Prop
  | nothing (s : System ω κ) : Performs record sparing [] s s
  | performed {done : List (Performance κ)} {s s' : System ω κ} (h : Performs record sparing done s s')
      (task : Task κ) : Performs record sparing (done ++ [⟨task, s'.slots⟩]) s ((host.perform task).run s').2
  | stopped {done : List (Performance κ)} {s s' : System ω κ} (h : Performs record sparing done s s') :
      Performs record sparing done s (host.stopPendingOperations.run s').2
  /-- Something that concerns no session, on the queue, in the service or around it. -/
  | elsewhere {done : List (Performance κ)} {s s' s'' : System ω κ} (h : Performs record sparing done s s')
      (hnoted : (s'.view record.history).Noted (s''.view record.history)) (hspared : sparing → record.Spared s' s'') :
      Performs record sparing done s s''

namespace Performs

variable {record : Record host} {sparing : Prop} {done more : List (Performance κ)} {s s' s'' : System ω κ}

theorem trans (h : record.Performs sparing done s s') (h' : record.Performs sparing more s' s'') :
    record.Performs sparing (done ++ more) s s'' := by
  induction h' with
  | nothing => rwa [List.append_nil]
  | performed _ task ih =>
    rw [← List.append_assoc]
    exact (ih h).performed task
  | stopped _ ih => exact (ih h).stopped
  | elsewhere _ hnoted hspared ih => exact (ih h).elsewhere hnoted hspared

/-- A state that such a run leads to is reached. -/
theorem reachable (h : record.Performs sparing done s s') (hs : record.Reachable s) : record.Reachable s' := by
  induction h with
  | nothing => exact hs
  | performed _ task ih => exact (ih hs).step (.performed task _)
  | stopped _ ih => exact (ih hs).step (.stopped _)
  | elsewhere _ hnoted _ ih => exact (ih hs).step (.elsewhere hnoted)

end Performs

/-! ## Uses -/

variable {record : Record host} {sparing : Prop} {s s' : System ω κ} {op : Op ω κ α}

/-- What concerns no session, and asks for no change of the store, is a run in which nothing is
    performed. -/
theorem performs_of_kept (hkept : ∀ v, record.Along View.Kept v op) (hspared : sparing → op.Follows record.Spared) :
    op.Follows fun s s' => ∃ done, record.Performs sparing done s s' :=
  fun s => ⟨[], .elsewhere (.nothing s) (hkept _ s rfl).1 fun h => hspared h s⟩

theorem performs_of_view_eq (h : s'.view record.history = s.view record.history) :
    ∃ done, record.Performs sparing done s s' := by
  have hhistory : record.history s'.world = record.history s.world := congrArg View.history h
  exact ⟨[], .elsewhere (.nothing s) (h ▸ .refl _) fun _ => congrArg changes hhistory⟩

/-- Runs with their tasks go through whatever uses are made of. -/
theorem carries_performs (record : Record host) (hspares : sparing → record.SparesStore) :
    host.Carries fun s s' => ∃ done, record.Performs sparing done s s' where
  refl s := ⟨[], .nothing s⟩
  trans := by
    rintro s s' s'' ⟨done, h⟩ ⟨more, h'⟩
    exact ⟨done ++ more, h.trans h'⟩
  published {event} hevent := by
    have hkept (v : View κ) : record.Along View.Kept v (host.publish event) :=
      (record.yields_publish_note v event hevent).along fun _ _ h => h.kept
    exact performs_of_kept hkept fun _ => record.spared_published event
  answered hcall :=
    performs_of_kept (fun v => (record.along_answer v _ (Call.isForSession_of_isEnquiry hcall)).kept)
      fun h => (hspares h).spared_answer (Call.isMutation_of_isEnquiry hcall)
  performed task s := ⟨_, .performed (.nothing s) task⟩
  preEnroll := performs_of_kept record.along_preEnroll fun h =>
    (hspares h).pervasive.coarse.query _ fun _ => (hspares h).pervasive.answer rfl
  authenticatorId := performs_of_kept record.along_authenticatorId fun h =>
    (hspares h).pervasive.coarse.query _ fun _ => (hspares h).pervasive.answer rfl
  posted _ _ := performs_of_view_eq rfl
  managed _ _ _ _ _ := performs_of_view_eq rfl
  stranded _ := performs_of_view_eq rfl

/-- Whatever callers, the driver and the machine do, and those who run what is on the queue, is a run
    in which some tasks are performed. -/
theorem performs_use (record : Record host) (hspares : sparing → record.SparesStore) (hop : host.Use op)
    (s : System ω κ) : ∃ done, record.Performs sparing done s (op.run s).2 :=
  (record.carries_performs hspares).follows_use hop s

end Record

namespace Ledger

variable (setup : Setup) (rule : (call : Call) → Except Fault call.Reply)

/-- What is performed when tasks are performed one after the other. -/
def performances : List (Task Empty) → System (List Entry) Empty → List (Performance Empty)
  | [], _ => []
  | task :: tasks, s => ⟨task, s.slots⟩ :: performances tasks (((Ledger.host setup rule).perform task).run s).2

theorem performs_foldl {sparing : Prop} (tasks : List (Task Empty)) (s : System (List Entry) Empty) :
    (Ledger.record setup rule).Performs sparing (performances setup rule tasks s) s
      (tasks.foldl (fun s task => (((Ledger.host setup rule).perform task).run s).2) s) := by
  induction tasks generalizing s with
  | nil => exact .nothing s
  | cons task tasks ih => exact (Record.Performs.performed (.nothing s) task).trans (ih _)

/-- The ledger has no change of the store in it but those that were asked for. -/
theorem sparesStore : (Ledger.record setup rule).SparesStore where
  answer call s := by
    rw [run_answer]
    change changes (s.world ++ [_]) = _
    rw [changes_append]
    cases h : call.isMutation <;> simp [changes, Entry.change?, h] <;> rfl
  client task := task.elim

end Ledger

end Fingerprint
