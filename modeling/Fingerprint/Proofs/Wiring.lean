import Fingerprint.Proofs.Acquisition
import Fingerprint.Proofs.Composition
import Fingerprint.Proofs.Run

/-!
# The connection in the course of a run

While a driver is being acquired, the connection is on its way from one settled
state to the next, and is nothing that could be said much about. What is
requested of it as a whole has it change in moves. So does every operation, as
the coordinator never touches the connection but by requests. Neither do those
who turn to the coordinator while they are called, nor its clients; that much is
asked of a host.

Hence whatever goes on, the connection is settled between two operations. The
device is closed where there is no driver, for one thing.

* `Host.Rewired`: the connection has changed in moves;
* `Host.SparesConnection`: the hosts that leave it to the coordinator;
* `Host.SparesConnection.coarse`, `Host.SparesConnection.perform`: then every task has it change in moves;
* `Record.Wired`: the states that are reached in this way;
* `Record.Wired.exists_settled`.
-/

namespace Fingerprint

variable {ω κ α : Type} {host : Host ω κ} {s s' s'' : System ω κ}

namespace Host

/-- From one state to another, the connection has changed in moves. -/
def Rewired (host : Host ω κ) (s s' : System ω κ) : Prop :=
  ∃ timeline, Moves host.setup.hasEventSink s.connection timeline s'.connection

/-- Sinks that turn to the coordinator before they return, and clients, change the connection in moves at
    most. All others who are called leave it alone. -/
structure SparesConnection (host : Host ω κ) : Prop where
  sink (name : SinkName) (callback : Callback) : (host.answer (.sink name callback)).Follows host.Rewired
  client (task : κ) : (host.client task).Follows host.Rewired

namespace Rewired

theorem of_eq (h : s'.connection = s.connection) : host.Rewired s s' := ⟨[], h ▸ .refl⟩

theorem refl (s : System ω κ) : host.Rewired s s := .of_eq rfl

theorem trans (h : host.Rewired s s') (h' : host.Rewired s' s'') : host.Rewired s s'' := by
  obtain ⟨timeline, hmoves⟩ := h
  obtain ⟨more, hmore⟩ := h'
  exact ⟨timeline ++ more, hmoves.trans hmore⟩

end Rewired

theorem rewired_request (journal : Journal host) {op : Op ω κ α} {asks : List Happening}
    (hop : host.Request op asks) : op.Follows host.Rewired := by
  intro s
  obtain ⟨_, -, hmoves⟩ := journal.moves_request hop s
  exact ⟨_, hmoves⟩

theorem rewired_handleDriverDied (generation : Nat) : (host.handleDriverDied generation).Follows host.Rewired := by
  intro s
  rw [handleDriverDied, Op.run_get_bind]
  dsimp only
  split
  · next hdeath =>
    have hheld : s.connection.handle ≠ none := by
      rw [Bool.and_eq_true, Option.isSome_iff_ne_none] at hdeath
      exact hdeath.2
    exact ⟨_, .single (.lost hheld)⟩
  · exact .refl s

theorem rewired_recordFailure (record : Record host) : host.recordFailure.Follows host.Rewired := by
  intro s
  obtain ⟨_, -, _, -, hview⟩ := record.yields_recordFailure _ s rfl
  have hconnection := congrArg View.connection hview
  split at hconnection
  · exact .of_eq hconnection
  · exact .of_eq hconnection

namespace SparesConnection

variable (hspares : host.SparesConnection) (record : Record host) (journal : Journal host)

include hspares record

theorem answer (call : Call) : (host.answer call).Follows host.Rewired := by
  intro s
  cases hsink : call.isSink with
  | true =>
    cases call with
    | sink name callback => exact hspares.sink name callback s
    | _ => cases hsink
  | false =>
    obtain ⟨entries, -, hlogged⟩ := (record.answer call s).2 hsink
    exact .of_eq (congrArg View.connection hlogged)

include journal

/-- All that is composed of requests has the connection change in moves. -/
theorem coarse : host.Coarse (Op.Follows host.Rewired) (Op.Follows host.Rewired) where
  toComposable := composable_follows .refl .trans (fun _ _ => .of_eq rfl) fun _ => hspares.answer record _
  acquire := rewired_request journal .acquire
  setActiveSubject subject storage := rewired_request journal (.setActiveSubject subject storage)
  handleDriverDied := rewired_handleDriverDied
  changed _ _ _ := .of_eq rfl
  vacated _ _ _ := .of_eq rfl

theorem perform (task : Task κ) : (host.perform task).Follows host.Rewired := by
  have hcoarse := hspares.coarse record journal
  -- A new session concerns the slots and the registrations only.
  have hslot (kind caller sink subject) : (slotNew kind caller sink subject : Op ω κ Unit).Follows host.Rewired :=
    hcoarse.slotNew (fun _ => follows_register .refl (fun _ _ => .of_eq rfl) caller _) fun _ _ => .of_eq rfl
  exact hcoarse.perform_of_all (fun _ => hspares.answer record _) hslot (rewired_recordFailure record)
    (fun _ => .of_eq rfl) (fun _ => .of_eq rfl) hspares.client task

end SparesConnection

end Host

namespace Record

/-! ## States that are reached -/

/-- The states that are reached from one in which nothing has happened so far: tasks are performed, what is
    pending is stopped, sessions are stopped at the wish of their callers, and in between goes on what
    concerns no session, and has the connection change in moves. -/
inductive Wired (record : Record host) : System ω κ → Prop
  | fresh {s : System ω κ} (h : s.view record.history = {}) : Wired record s
  | performed {s : System ω κ} (h : Wired record s) (task : Task κ) : Wired record ((host.perform task).run s).2
  | stopped {s : System ω κ} (h : Wired record s) : Wired record (host.stopPendingOperations.run s).2
  | ended {s : System ω κ} (h : Wired record s) (kind : SessionKind) (caller : CallerToken) (notify : Bool) :
      Wired record ((host.stopSession kind caller notify).run s).2
  | elsewhere {s s' : System ω κ} (h : Wired record s)
      (hnoted : (s.view record.history).Noted (s'.view record.history)) (hrewired : host.Rewired s s') :
      Wired record s'

variable {record : Record host}

namespace Wired

theorem sound (h : record.Wired s) : (s.view record.history).Sound := by
  induction h with
  | fresh h =>
    rw [h]
    exact .fresh
  | performed _ task ih => exact ((Step.performed task _).episodes ih).sound ih
  | stopped _ ih => exact ((Step.stopped _).episodes ih).sound ih
  | ended _ kind caller notify ih =>
    obtain ⟨_, -, hsound⟩ := record.sound_stopSession _ ih kind caller notify _ rfl
    exact hsound
  | elsewhere _ hnoted _ ih => exact ih.framed hnoted.framed

section

variable (hspares : host.SparesConnection) (journal : Journal host)

include hspares journal

/-- Each step is one more change in moves. -/
theorem exists_moves (h : record.Wired s) :
    ∃ timeline, Moves host.setup.hasEventSink {} timeline s.connection := by
  have hcoarse := hspares.coarse record journal
  have hmore {s s' : System ω κ} (h : ∃ timeline, Moves host.setup.hasEventSink {} timeline s.connection)
      (hrewired : host.Rewired s s') : ∃ timeline, Moves host.setup.hasEventSink {} timeline s'.connection := by
    obtain ⟨timeline, hmoves⟩ := h
    obtain ⟨more, hmoves'⟩ := hrewired
    exact ⟨timeline ++ more, hmoves.trans hmoves'⟩
  induction h with
  | @fresh s h =>
    -- A view in which nothing has happened has the first connection in it.
    have hconnection : s.connection = {} := congrArg View.connection h
    rw [hconnection]
    exact ⟨[], .refl⟩
  | performed _ task ih => exact hmore ih (hspares.perform record journal task _)
  | stopped _ ih => exact hmore ih (hcoarse.stopPendingOperations _)
  | ended _ kind caller notify ih => exact hmore ih (hcoarse.stopSession kind caller notify _)
  | elsewhere _ _ hrewired ih => exact hmore ih hrewired

/-- The connection knows what has happened. -/
theorem exists_settled (h : record.Wired s) :
    ∃ timeline, Settled host.setup.hasEventSink timeline s.connection := by
  obtain ⟨timeline, hmoves⟩ := h.exists_moves hspares journal
  exact ⟨timeline, .moves hmoves⟩

end

end Wired

end Record

end Fingerprint
