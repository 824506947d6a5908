import Fingerprint.Proofs.Notification
import Fingerprint.Proofs.Performance
import Fingerprint.Proofs.Routing

/-!
# How templates are kept

The store is asked to add a template with the last result of an enrollment, for
the subject of the session, and to remove one when the driver tells of it, for
the subject of the session if there is one. Besides, a caller may have one
renamed. Nothing else changes the store, whether those who are called fail or
not.

With its last result a session leaves its slot. So a session completes at most
once, and one that has left its slot for another reason never does.

* `Performance.completed?`: the session whose enrollment is complete with a task;
* `Performance.change?`: the change that a task asks the store for;
* `Record.SparesStore.changes_perform`: no task asks for any other;
* `Record.Performs.completed_once`, `Record.Performs.completed_never`;
* `Record.Reachable.keeps_books`.
-/

namespace Fingerprint

namespace Performance

variable {κ : Type}

/-- The session whose enrollment is complete with a task. -/
def completed? (p : Performance κ) : Option Session :=
  match p.task with
  | .driverEvent (.enrollResult _ _ _ remaining) => if remaining = 0 then p.slots.enroll else none
  | _ => none

/-- The change that a task asks the store for. -/
def change? (p : Performance κ) : Option Call :=
  match p.task with
  | .driverEvent (.enrollResult _ id _ _) => p.completed?.map fun x => .storeAdd x.subject id
  | .driverEvent (.removed _ id subject) =>
    if id = 0 then none else some (.storeRemove ((p.slots.remove.map (·.subject)).getD subject) id)
  | .rename subject id label => some (.storeRename subject id label)
  | _ => none

/-- What a task asks the store for, if there is one. -/
def asked (p : Performance κ) (setup : Setup) : List Call := if setup.hasTemplates then p.change?.toList else []

theorem exists_of_completed {p : Performance κ} {x : Session} (h : p.completed? = some x) :
    ∃ device id subject, p.task = .driverEvent (.enrollResult device id subject 0) ∧ p.slots.enroll = some x := by
  obtain ⟨task, slots⟩ := p
  cases task with
  | driverEvent event =>
    cases event with
    | enrollResult device id subject remaining =>
      obtain ⟨rfl, hslot⟩ := Option.ite_none_right_eq_some.1 h
      exact ⟨device, id, subject, rfl, hslot⟩
    | _ => cases h
  | _ => cases h

end Performance

variable {ω κ α β : Type} {host : Host ω κ}

namespace Record

variable {record : Record host} {s s' : System ω κ}

/-! ## What the store is asked for -/

/-- Whatever an operation ends with, it has asked the store for these changes, and no others. -/
def Asks (record : Record host) (calls : List Call) (op : Op ω κ α) : Prop :=
  ∀ s, changes (record.history (op.run s).2.world) = changes (record.history s.world) ++ calls

theorem asks_nil_iff {op : Op ω κ α} : record.Asks [] op ↔ op.Follows record.Spared := by
  simp [Asks, Op.Follows, Spared]

theorem Asks.bind {calls : List Call} {op : Op ω κ α} {f : α → Op ω κ β} (h : record.Asks calls op)
    (hf : ∀ a, (f a).Follows record.Spared) : record.Asks calls (op >>= f) := by
  intro s
  have hop := h s
  rw [Op.run_bind]
  rcases hrun : op.run s with ⟨fault | a, s'⟩ <;> rw [hrun] at hop
  · exact hop
  · exact Eq.trans (hf a s') hop

/-- What comes before in all cases, and spares the store, makes no difference. -/
theorem Asks.after {calls : List Call} {op : Op ω κ α} {f : α → Op ω κ β} (h : op.Returns record.Spared)
    (hf : ∀ a, record.Asks calls (f a)) : record.Asks calls (op >>= f) := by
  intro s
  obtain ⟨a, ha⟩ := h.ok s
  have hop := h.follows s
  rw [Op.run_bind_of_ok ha, hf a, hop]

theorem spared_recordFailure : host.recordFailure.Follows record.Spared := by
  intro s
  obtain ⟨result, -, lockout, -, hview⟩ := record.yields_recordFailure (s.view record.history) s rfl
  have hhistory : record.history ((host.recordFailure).run s).2.world = _ := congrArg View.history hview
  rw [Spared, hhistory]
  split
  · change changes (record.history s.world ++ [_]) = _
    rw [changes_append]
    exact List.append_nil _
  · rfl

namespace SparesStore

variable (hspares : record.SparesStore)

include hspares

theorem asks_answer {call : Call} (h : call.isMutation) : record.Asks [call] (host.answer call) := by
  intro s
  rw [hspares.answer, if_pos h]

theorem asks_bestEffort {calls : List Call} {request : Op ω κ Unit} (h : record.Asks calls request) (id : Bytes)
    (fields : List Field) : record.Asks calls (host.bestEffort request id fields) := by
  have hattempt : record.Asks calls request.attempt := h
  refine hattempt.bind fun outcome => ?_
  cases outcome with
  | ok => exact hspares.pervasive.pure ()
  | error fault => exact hspares.pervasive.publish _

theorem asks_addTemplate (subject : Int32) (id : UInt32) :
    record.Asks (if host.setup.hasTemplates then [.storeAdd subject id] else []) (host.addTemplate subject id) := by
  unfold Host.addTemplate
  split
  · exact hspares.asks_bestEffort (hspares.asks_answer rfl) _ _
  · exact asks_nil_iff.2 (hspares.pervasive.pure ())

theorem asks_removeTemplate (subject : Int32) (id : UInt32) :
    record.Asks (if host.setup.hasTemplates then [.storeRemove subject id] else [])
      (host.removeTemplate subject id) := by
  unfold Host.removeTemplate
  split
  · exact hspares.asks_bestEffort (hspares.asks_answer rfl) _ _
  · exact asks_nil_iff.2 (hspares.pervasive.pure ())

theorem spared_slotNew (kind : SessionKind) (caller : CallerToken) (sink : Option SinkName) (subject : Int32) :
    (Host.slotNew kind caller sink subject : Op ω κ Unit).Follows record.Spared :=
  hspares.pervasive.coarse.slotNew
    (fun _ => Host.follows_register (R := record.Spared) (fun _ => rfl) (fun _ _ => rfl) caller _) fun _ _ => rfl

/-- The template is added whether feedback was given or not, and whether the sink has taken the result. -/
theorem changes_dispatchEnrollResult (device : UInt64) (id : UInt32) (subject remaining : Int32) (s : System ω κ) :
    changes (record.history ((host.dispatchEnrollResult device id subject remaining).run s).2.world) =
      changes (record.history s.world) ++
        if host.setup.hasTemplates then
          ((if remaining = 0 then s.slots.enroll else none).map fun x => Call.storeAdd x.subject id).toList
        else [] := by
  have hspared := hspares.pervasive.coarse
  rw [Host.dispatchEnrollResult, Op.run_bind, Host.run_active, Slots.get]
  cases s.slots.enroll with
  | none =>
    simp only [ite_self, Option.map_none, Option.toList_none, List.append_nil]
    rfl
  | some x =>
    have hend (outcome : SessionOutcome) : Op.Follows record.Spared (do
        if outcome = .done then
          if remaining = 0 then host.removeSession .enroll x.id else host.finish x) :=
      hspared.ite (hspared.ite (hspared.removeSession _ _) (hspared.finish x)) (hspared.pure ())
    have hsend : record.Asks
        (if host.setup.hasTemplates then
          ((if remaining = 0 then some x else none).map fun x => Call.storeAdd x.subject id).toList
        else [])
        (do
          let outcome ← host.send x (.enrollResult device id subject remaining)
          if remaining = 0 then host.addTemplate x.subject id
          if outcome = .done then
            if remaining = 0 then host.removeSession .enroll x.id else host.finish x) := by
      refine .after (hspares.pervasive.returns.coarse.send x _) fun outcome => ?_
      by_cases hremaining : remaining = 0
      · simp only [hremaining, if_true] at hend ⊢
        exact (hspares.asks_addTemplate x.subject id).bind fun _ => hend outcome
      · simp only [hremaining, if_false, Option.map_none, Option.toList_none, ite_self] at hend ⊢
        exact asks_nil_iff.2 (hend outcome)
    dsimp only
    split
    · exact Asks.after hspares.pervasive.returns.coarse.feedbackSuccess (fun _ => hsend) s
    · exact hsend s

/-- The template is removed before the session is told of it. -/
theorem changes_dispatchRemoved (device : UInt64) (id : UInt32) (subject : Int32) (s : System ω κ) :
    changes (record.history ((host.dispatchRemoved device id subject).run s).2.world) =
      changes (record.history s.world) ++
        if host.setup.hasTemplates then
          (if id = 0 then none
            else some (Call.storeRemove ((s.slots.remove.map (·.subject)).getD subject) id)).toList
        else [] := by
  have hspared := hspares.pervasive.coarse
  have htold (x : Session) : Op.Follows record.Spared (do
      if (← host.send x (.removed device id subject)) = .done then host.removeSession .remove x.id) :=
    hspared.bind (hspared.send x _) fun _ => hspared.ite (hspared.removeSession _ _) (hspared.pure ())
  rw [Host.dispatchRemoved, Op.run_bind, Host.run_active, Slots.get]
  by_cases hid : id = 0
  · simp only [hid, bne_self_eq_false, Bool.false_eq_true, if_false, if_true, Option.toList_none, ite_self] at htold ⊢
    refine asks_nil_iff.2 ?_ s
    cases s.slots.remove with
    | none => exact hspared.pure ()
    | some x => exact htold x
  · simp only [hid, bne_iff_ne, ne_eq, not_false_eq_true, if_true, if_false, Option.toList_some] at htold ⊢
    refine (hspares.asks_removeTemplate _ id).bind (fun _ => ?_) s
    cases s.slots.remove with
    | none => exact hspared.pure ()
    | some x => exact htold x

/-- Whatever a task ends with, it has asked the store for its own change, and no other. -/
theorem changes_perform (task : Task κ) (s : System ω κ) :
    changes (record.history ((host.perform task).run s).2.world) =
      changes (record.history s.world) ++ Performance.asked ⟨task, s.slots⟩ host.setup := by
  have hspared := hspares.pervasive.coarse
  have hanswer {call : Call} (h : call.isMutation = false) := hspares.spared_answer h
  have hfollows (hneeds : task.Needs host (Op.Follows record.Spared) (Op.Follows record.Spared))
      (hnone : Performance.change? ⟨task, s.slots⟩ = none) :
      changes (record.history ((host.perform task).run s).2.world) =
        changes (record.history s.world) ++ Performance.asked ⟨task, s.slots⟩ host.setup := by
    rw [Performance.asked, hnone, Option.toList_none, ite_self]
    exact asks_nil_iff.2 (hspared.perform hneeds) s
  cases task with
  | startEnrollment | startRemove => exact hfollows (hspares.spared_slotNew _ _ _ _) rfl
  | startAuthentication => exact hfollows ⟨hspares.spared_slotNew _ _ _ _, fun _ => hanswer rfl⟩ rfl
  | begin | applySubject => exact hfollows (fun _ => hanswer rfl) rfl
  | callerDied => exact hfollows (hspared.runWatches hspares.client) rfl
  | lockoutExpired => exact hfollows (fun s => record.spared_published _ { s with lockout := Lockout.expire }) rfl
  | client task => exact hfollows (hspares.client task) rfl
  | cancel | driverDied => exact hfollows trivial rfl
  | rename subject id label =>
    rw [Host.perform, Performance.asked]
    cases host.setup.hasTemplates with
    | true => exact hspares.answer (.storeRename subject id label) s
    | false => exact (List.append_nil _).symm
  | driverEvent event =>
    -- Where an event comes from is noted first.
    obtain ⟨world, hcheck⟩ := host.run_checkDevice event s
    have hsame : changes (record.history world) = changes (record.history s.world) := by
      have hnoted := hspared.checkDevice event s
      rwa [hcheck] at hnoted
    have hbehind {op : Op ω κ Unit} (hop : host.dispatch event = host.checkDevice event >>= fun _ => op) :
        (host.perform (.driverEvent event)).run s = op.run { s with world } := by
      change (host.dispatch event).run s = _
      rw [hop, Op.run_bind, hcheck]
    cases event with
    | enrollResult device id subject remaining =>
      rw [hbehind rfl, hspares.changes_dispatchEnrollResult, ← hsame]
      rfl
    | removed device id subject =>
      rw [hbehind rfl, hspares.changes_dispatchRemoved, ← hsame]
      rfl
    | authenticated => exact hfollows ⟨spared_recordFailure, fun _ => rfl⟩ rfl
    | acquired | error | enumerate => exact hfollows trivial rfl

/-- In the course of a run the store is asked for what the tasks ask for. -/
theorem changes_performs {done : List (Performance κ)} (h : record.Performs True done s s') :
    changes (record.history s'.world) = changes (record.history s.world) ++ done.flatMap (·.asked host.setup) := by
  induction h with
  | nothing => exact (List.append_nil _).symm
  | performed _ task ih =>
    rw [hspares.changes_perform, ih, List.flatMap_append, List.flatMap_singleton, List.append_assoc]
  | stopped _ ih => exact Eq.trans (hspares.pervasive.coarse.stopPendingOperations _) ih
  | elsewhere _ _ hspared ih => exact Eq.trans (hspared trivial) ih

end SparesStore

/-! ## Sessions that complete -/

/-- A session that is no longer in its slot does not get it again. -/
theorem Step.stays_away (h : record.Step s s') (hs : record.Reachable s) {x : Session} (hid : x.id < s.nextSession)
    (hslot : s.slots.get x.kind ≠ some x) : x.id < s'.nextSession ∧ s'.slots.get x.kind ≠ some x :=
  Episodes.stays_away (h.episodes hs.sound) hid hslot

/-- Who completes is in its slot. -/
theorem Reachable.slot_of_completed (hs : record.Reachable s) {task : Task κ} {x : Session}
    (h : Performance.completed? ⟨task, s.slots⟩ = some x) : s.slots.get x.kind = some x := by
  obtain ⟨-, -, -, -, hslot⟩ := Performance.exists_of_completed h
  rw [hs.sound.sorted .enroll x hslot]
  exact hslot

namespace Performs

variable {sparing : Prop} {done : List (Performance κ)} {x : Session}

/-- A session that has left its slot never completes. -/
theorem completed_never (h : record.Performs sparing done s s') (hs : record.Reachable s) (hid : x.id < s.nextSession)
    (hslot : s.slots.get x.kind ≠ some x) :
    (∀ p ∈ done, p.completed? ≠ some x) ∧ x.id < s'.nextSession ∧ s'.slots.get x.kind ≠ some x := by
  induction h with
  | nothing => exact ⟨fun _ hp => absurd hp List.not_mem_nil, hid, hslot⟩
  | performed h task ih =>
    obtain ⟨hnever, hid', haway⟩ := ih hs hid hslot
    have hreached := h.reachable hs
    refine ⟨List.forall_mem_append.2 ⟨hnever, List.forall_mem_singleton.2 fun hcompleted => ?_⟩,
      Step.stays_away (.performed task _) hreached hid' haway⟩
    exact haway (hreached.slot_of_completed hcompleted)
  | stopped h ih =>
    obtain ⟨hnever, hid', haway⟩ := ih hs hid hslot
    exact ⟨hnever, Step.stays_away (.stopped _) (h.reachable hs) hid' haway⟩
  | elsewhere h hnoted _ ih =>
    obtain ⟨hnever, hid', haway⟩ := ih hs hid hslot
    exact ⟨hnever, Step.stays_away (.elsewhere hnoted) (h.reachable hs) hid' haway⟩

/-- A session completes at most once, and has left its slot after that. -/
theorem completed_once (h : record.Performs sparing done s s') (hs : record.Reachable s) (x : Session) :
    done.countP (·.completed? = some x) = 0 ∨
      done.countP (·.completed? = some x) = 1 ∧ x.id < s'.nextSession ∧ s'.slots.get x.kind ≠ some x := by
  induction h with
  | nothing => exact .inl rfl
  | @performed done s s' h task ih =>
    have hreached := h.reachable hs
    rw [List.countP_append]
    by_cases hcompleted : Performance.completed? ⟨task, s'.slots⟩ = some x
    · have hslot := hreached.slot_of_completed hcompleted
      obtain ⟨device, id, subject, rfl, henroll⟩ := Performance.exists_of_completed hcompleted
      -- It has not completed before, since it is in its slot.
      have hnever := (ih hs).resolve_right fun hbefore => hbefore.2.2 hslot
      have hstep : record.Step s' _ := .performed (.driverEvent (.enrollResult device id subject 0)) s'
      have hvacant := record.enroll_eq_none hreached.sound henroll device id subject
      refine .inr ⟨by simp [hnever, hcompleted], ?_, ?_⟩
      · exact Nat.lt_of_lt_of_le (hreached.sound.numbered _ x hslot)
          (Episodes.nextSession_le (hstep.episodes hreached.sound))
      · rw [hreached.sound.sorted .enroll x henroll]
        exact fun hget => Option.some_ne_none x (hget.symm.trans hvacant)
    · rw [List.countP_singleton, if_neg (by simpa using hcompleted)]
      exact (ih hs).imp_right fun ⟨hone, hid, haway⟩ => ⟨hone, Step.stays_away (.performed task _) hreached hid haway⟩
  | stopped h ih =>
    exact (ih hs).imp_right fun ⟨hone, hid, haway⟩ =>
      ⟨hone, Step.stays_away (.stopped _) (h.reachable hs) hid haway⟩
  | elsewhere h hnoted _ ih =>
    exact (ih hs).imp_right fun ⟨hone, hid, haway⟩ =>
      ⟨hone, Step.stays_away (.elsewhere hnoted) (h.reachable hs) hid haway⟩

end Performs

/-- Whatever is done is a run in which some tasks are performed. In the course of it the store is asked
    for the changes that these tasks ask for, and no others. Each session completes at most once,
    and one that had its slot before and has it no longer never does. -/
theorem Reachable.keeps_books (hspares : record.SparesStore) (hs : record.Reachable s) :
    (∀ {α : Type} {op : Op ω κ α}, host.Use op → ∀ s, ∃ done, record.Performs True done s (op.run s).2) ∧
      ∀ done s', record.Performs True done s s' →
        changes (record.history s'.world) = changes (record.history s.world) ++ done.flatMap (·.asked host.setup) ∧
        (∀ x, done.countP (·.completed? = some x) ≤ 1) ∧
        ∀ x : Session, x.Slotted (record.history s.world) → s.slots.get x.kind ≠ some x →
          ∀ p ∈ done, p.completed? ≠ some x := by
  refine ⟨fun hop => record.performs_use (fun _ => hspares) hop, fun done s' h => ⟨hspares.changes_performs h, ?_, ?_⟩⟩
  · intro x
    rcases h.completed_once hs x with hnever | ⟨honce, -⟩
    · exact Nat.le_trans (Nat.le_of_eq hnever) (Nat.zero_le 1)
    · exact Nat.le_of_eq honce
  · exact fun x hslotted hslot => (h.completed_never hs (hs.chronicled.older x hslotted) hslot).1

/-- A session whose caller has died never completes. The next one does so once, for its own subject, and
    the template is removed for the subject that is told, as there is no session for that. -/
theorem Reachable.keeps_books_of_death :
    let x : Session := ⟨0, .enroll, 1, some "a", 7, ⟨some 1, 1⟩⟩
    let s := Ledger.perform {} Ledger.obliging [.startEnrollment 1 (some "a") { subject := 7 }, .callerDied 1]
    let tasks : List (Task Empty) :=
      [.driverEvent (.enrollResult 1 5 9 0), .startEnrollment 2 (some "b") { subject := 8 },
        .driverEvent (.enrollResult 1 6 9 2), .driverEvent (.enrollResult 1 6 9 0),
        .driverEvent (.enrollResult 1 6 9 0), .driverEvent (.removed 1 6 9)]
    let done := Ledger.performances {} Ledger.obliging tasks s
    let s' := tasks.foldl (fun s task => (((Ledger.host {} Ledger.obliging).perform task).run s).2) s
    changes s'.world = [.storeAdd 8 6, .storeRemove 9 6] ∧ x.Slotted s.world ∧ s.slots.get x.kind ≠ some x ∧
      ∀ p ∈ done, p.completed? ≠ some x := by
  intro x s tasks done s'
  have hslotted : x.Slotted s.world := by
    unfold Session.Slotted
    decide
  have hslot : s.slots.get x.kind ≠ some x := by decide
  have hkept := Reachable.keeps_books (Ledger.sparesStore {} Ledger.obliging)
    (Ledger.reachable_perform {} Ledger.obliging [.startEnrollment 1 (some "a") { subject := 7 }, .callerDied 1])
  obtain ⟨hchanges, -, hnever⟩ := hkept.2 done s' (Ledger.performs_foldl {} Ledger.obliging tasks s)
  have hasked : changes s.world ++ done.flatMap (·.asked {}) = [.storeAdd 8 6, .storeRemove 9 6] := by decide
  simp only [Ledger.record, id_eq] at hchanges
  exact ⟨hchanges.trans hasked, hslotted, hslot, hnever x hslotted hslot⟩

end Record

end Fingerprint
