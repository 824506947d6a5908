import Fingerprint.Proofs.Calm
import Fingerprint.Proofs.Ledger
import Fingerprint.Proofs.Roster
import Fingerprint.Proofs.Usage

/-!
# Nothing moves after a stop

A queue that was stopped takes no task and lets none start, and that is never
undone. All that the coordinator does for its sessions it does in tasks. So once
the service was stopped, sessions, registrations and the lockout stay as they
are for good, no sink is called, the store is not changed, and no driver is
asked to begin anything or to give anything up, in whichever way the coordinator
is used.

What callers wait for is done at once then, on their own threads. A driver may
be acquired for that, and one that is acquired is told the subject. One that is
connected already is told none any more.

Whoever is called may use the coordinator before the answer is given, as
everybody else may. So the argument goes by the number of calls: those that are
made before a call is answered are fewer than those that are made with it.

* `Chronicle`, `Chronicle.Tells`: what is known of a host;
* `Chronicle.Turn`, `Chronicle.Course`: what may happen;
* `Chronicle.Rests`, `Chronicle.Still`: what it means that nothing moves;
* `Chronicle.Within`, `Chronicle.still_use`: however the coordinator is used, nothing moves as long as
  fewer than some number of calls are made;
* `Chronicle.Tells.standstill`: nor does it for any number.
-/

namespace Fingerprint

open TaskQueue (Deed)

variable {ω κ α β : Type} {host : Host ω κ} {s s' s'' : System ω κ}

namespace Call

/-- Whether a call may be made while a caller waits for an answer: the policy is asked, or what the store
    holds, or a driver for a number; and a driver may have to be acquired first. No sink is called then,
    no driver is to begin an operation or to give one up, and the store is not to change. -/
def isForQuery : Call → Bool
  | checkPermission .. | canUseSensor .. | storeList _ => true
  | driver _ .preEnroll | driver _ .authenticatorId => true
  | acquire | driver _ (.linkToDeath _) | driver _ .init | driver _ .openHal | driver _ (.setActiveSubject ..) => true
  | _ => false

/-- Whether a driver is told a subject. -/
def tellsSubject : Call → Bool
  | driver _ (.setActiveSubject ..) => true
  | _ => false

theorem isForQuery_of_isEnquiry {call : Call} (h : call.isEnquiry) : call.isForQuery := by
  cases call <;> first | rfl | cases h

theorem isForSession_of_isForQuery {call : Call} (h : call.isForQuery) : call.isForSession = false := by
  cases call with
  | driver handle call => cases call <;> first | rfl | cases h
  | _ => first | rfl | cases h

theorem isMutation_of_isForQuery {call : Call} (h : call.isForQuery) : call.isMutation = false := by
  cases call <;> first | rfl | cases h

theorem tellsSubject_of_isEnquiry {call : Call} (h : call.isEnquiry) : call.tellsSubject = false := by
  cases call <;> first | rfl | cases h

end Call

/-- Whatever is done to a queue that was stopped, it stays so. -/
theorem TaskQueue.stopping_act {τ : Type} {q : TaskQueue τ} (h : q.stopping = true) (now : Int) (deed : Deed τ) :
    (Deed.act (q, now) deed).1.stopping = true := by
  cases deed with
  | post task => rwa [Deed.act, TaskQueue.post, if_pos h]
  | postDelayed delay task => rwa [Deed.act, stopping_postDelayed]
  | cancel id => rwa [Deed.act, stopping_cancel]
  | stop thread => rfl
  | advance later => exact h
  | pop => rwa [Deed.act, stopping_pop]
  | mark executing => exact h

theorem TaskQueue.stopping_foldl {τ : Type} {moment : TaskQueue τ × Int} {deeds : List (Deed τ)}
    (h : moment.1.stopping = true) : (deeds.foldl Deed.act moment).1.stopping = true := by
  induction deeds generalizing moment with
  | nil => exact h
  | cons deed deeds ih => exact ih (stopping_act h moment.2 deed)

theorem TaskQueue.stopping_start {τ : Type} {q : TaskQueue τ} (h : q.stopping = true) : q.start.stopping = true := by
  rwa [start, if_pos (by rw [h, Bool.or_true])]

/-- What is known of the world around the coordinator: which calls were made, oldest first, and what
    the store holds. -/
structure Chronicle (ω : Type) where
  calls : ω → List Call
  store : ω → TemplateStore

namespace Chronicle

variable (chronicle : Chronicle ω)

/-! ## What may happen -/

/-- Something happens around the coordinator. -/
inductive Turn (host : Host ω κ) : System ω κ → System ω κ → Prop
  | used {α : Type} {op : Op ω κ α} (h : host.Use op) (s : System ω κ) : Turn host s (op.run s).2
  /-- Something is done to the queue, or to its clock. -/
  | did (deed : Deed (Task κ)) (s : System ω κ) :
      Turn host s { s with queue := (Deed.act s.moment deed).1, clock := (Deed.act s.moment deed).2 }
  /-- Another thread runs, or the host does something for itself. -/
  | elsewhere {s : System ω κ} {world : ω} (thread : Thread) (hcalls : chronicle.calls world = chronicle.calls s.world)
      (hstore : chronicle.store world = chronicle.store s.world) : Turn host s { s with thread, world }

/-- What may happen, one thing after the other. -/
abbrev Course (host : Host ω κ) : System ω κ → System ω κ → Prop := Relation.ReflTransGen (chronicle.Turn host)

/-- A chronicle tells what becomes of a host once the queue was stopped. As the use of the coordinator may
    come down to answers of the same host, what is said of them by courses has to be grounded: that is what
    `kept` is for. -/
structure Tells (host : Host ω κ) : Prop where
  calls_observe (event : Event) (s : System ω κ) :
    chronicle.calls (host.observe event s) = chronicle.calls s.world
  store_observe (event : Event) (s : System ω κ) :
    chronicle.store (host.observe event s) = chronicle.store s.world
  /-- A call is entered. Before it is answered, the coordinator may be used. -/
  answer (call : Call) {s : System ω κ} (h : s.queue.stopping = true) :
    ∃ world, chronicle.calls world = chronicle.calls s.world ++ [call] ∧
      (call.isMutation = false → chronicle.store world = chronicle.store s.world) ∧
      chronicle.Course host { s with world } ((host.answer call).run s).2
  /-- Whoever answers leaves the queue stopped, and no call is taken out. -/
  kept (call : Call) {s : System ω κ} (h : s.queue.stopping = true) :
    ((host.answer call).run s).2.queue.stopping = true ∧
      chronicle.calls s.world ++ [call] <+: chronicle.calls ((host.answer call).run s).2.world

/-! ## What stays as it is -/

/-- All calls that were made from one state to another are such. -/
def Made (P : Call → Prop) (s s' : System ω κ) : Prop :=
  ∃ more, chronicle.calls s'.world = chronicle.calls s.world ++ more ∧ ∀ call ∈ more, P call

/-- Nothing has moved from one state to another. -/
structure Rests (s s' : System ω κ) : Prop where
  slots : s'.slots = s.slots
  liveness : s'.liveness = s.liveness
  lockout : s'.lockout = s.lockout
  store : chronicle.store s'.world = chronicle.store s.world
  calls : chronicle.Made (·.isForQuery) s s'

/-- Nothing has moved, and if there was a driver, it still is there and no driver was told a subject. -/
structure Still (s s' : System ω κ) : Prop extends chronicle.Rests s s' where
  handle : ∀ handle, s.connection.handle = some handle → s'.connection.handle = some handle
  subject : s.connection.handle.isSome → chronicle.Made (·.tellsSubject = false) s s'

variable {chronicle}

theorem Made.of_eq {P : Call → Prop} (h : chronicle.calls s'.world = chronicle.calls s.world) :
    chronicle.Made P s s' :=
  ⟨[], by rw [h, List.append_nil], nofun⟩

theorem Made.trans {P : Call → Prop} (h : chronicle.Made P s s') (h' : chronicle.Made P s' s'') :
    chronicle.Made P s s'' := by
  obtain ⟨calls, hcalls, hP⟩ := h
  obtain ⟨more, hmore, hP'⟩ := h'
  exact ⟨calls ++ more, by rw [hmore, hcalls, List.append_assoc], List.forall_mem_append.2 ⟨hP, hP'⟩⟩

theorem Made.mono {P P' : Call → Prop} (h : chronicle.Made P s s') (hP : ∀ call, P call → P' call) :
    chronicle.Made P' s s' := by
  obtain ⟨calls, hcalls, hmade⟩ := h
  exact ⟨calls, hcalls, fun call hcall => hP call (hmade call hcall)⟩

theorem Rests.refl (s : System ω κ) : chronicle.Rests s s := ⟨rfl, rfl, rfl, rfl, .of_eq rfl⟩

theorem Rests.trans (h : chronicle.Rests s s') (h' : chronicle.Rests s' s'') : chronicle.Rests s s'' where
  slots := h'.slots.trans h.slots
  liveness := h'.liveness.trans h.liveness
  lockout := h'.lockout.trans h.lockout
  store := h'.store.trans h.store
  calls := h.calls.trans h'.calls

theorem Still.refl (s : System ω κ) : chronicle.Still s s := ⟨.refl s, fun _ h => h, fun _ => .of_eq rfl⟩

theorem Still.trans (h : chronicle.Still s s') (h' : chronicle.Still s' s'') : chronicle.Still s s'' where
  toRests := h.toRests.trans h'.toRests
  handle handle hhandle := h'.handle handle (h.handle handle hhandle)
  subject hconnected := by
    refine (h.subject hconnected).trans (h'.subject ?_)
    obtain ⟨handle, hhandle⟩ := Option.isSome_iff_exists.1 hconnected
    rw [h.handle handle hhandle]
    rfl

/-- Where there was no driver, one may have been acquired. -/
theorem Rests.still (h : chronicle.Rests s s') (hhandle : s.connection.handle = none) : chronicle.Still s s' where
  toRests := h
  handle handle hsome := by
    rw [hhandle] at hsome
    cases hsome
  subject hconnected := by
    rw [hhandle] at hconnected
    cases hconnected

/-- Where all that is kept by the coordinator is the same, and the host has done no more than what
    it does for itself, nothing has moved. -/
theorem Still.of_eq (hslots : s'.slots = s.slots) (hliveness : s'.liveness = s.liveness)
    (hlockout : s'.lockout = s.lockout) (hconnection : s'.connection = s.connection)
    (hcalls : chronicle.calls s'.world = chronicle.calls s.world)
    (hstore : chronicle.store s'.world = chronicle.store s.world) : chronicle.Still s s' where
  slots := hslots
  liveness := hliveness
  lockout := hlockout
  store := hstore
  calls := .of_eq hcalls
  handle _ h := by rw [hconnection, h]
  subject _ := .of_eq hcalls

/-! ## A number of calls -/

variable (chronicle) in
/-- From a state in which the queue was stopped it stays so, and if fewer than `k` calls are made, the
    states are related. -/
def Within (R : System ω κ → System ω κ → Prop) (k : Nat) (s s' : System ω κ) : Prop :=
  s.queue.stopping = true → s'.queue.stopping = true ∧ chronicle.calls s.world <+: chronicle.calls s'.world ∧
    ((chronicle.calls s'.world).length < (chronicle.calls s.world).length + k → R s s')

namespace Within

variable {R : System ω κ → System ω κ → Prop} {k : Nat}

theorem of_eq (hqueue : s'.queue = s.queue) (hcalls : chronicle.calls s'.world = chronicle.calls s.world)
    (h : R s s') : chronicle.Within R k s s' :=
  fun hstopped => ⟨hqueue ▸ hstopped, hcalls ▸ List.prefix_refl _, fun _ => h⟩

/-- Fewer calls are made on each part of the way than on the whole. -/
theorem trans (htrans : ∀ {s s' s''}, R s s' → R s' s'' → R s s'') (h : chronicle.Within R k s s')
    (h' : chronicle.Within R k s' s'') : chronicle.Within R k s s'' := by
  intro hstopped
  obtain ⟨hstopped', hcalls, hR⟩ := h hstopped
  obtain ⟨hstopped'', hcalls', hR'⟩ := h' hstopped'
  refine ⟨hstopped'', hcalls.trans hcalls', fun hlength => ?_⟩
  have hle := hcalls.length_le
  have hle' := hcalls'.length_le
  exact htrans (hR (by omega)) (hR' (by omega))

theorem mono {R' : System ω κ → System ω κ → Prop} (h : chronicle.Within R k s s') (hR : R s s' → R' s s') :
    chronicle.Within R' k s s' := by
  intro hstopped
  obtain ⟨hstopped', hcalls, hlater⟩ := h hstopped
  exact ⟨hstopped', hcalls, fun hlength => hR (hlater hlength)⟩

end Within

/-! ## What is done at once -/

variable (chronicle) in
/-- What there is to be said of answers while fewer than `k` calls are made: nothing moves. A driver that
    is told a subject counts for that only where none was connected. -/
structure Answers (host : Host ω κ) (k : Nat) : Prop where
  rests {call : Call} (h : call.isForQuery) : (host.answer call).Follows (chronicle.Within chronicle.Rests k)
  still {call : Call} (h : call.isForQuery) (hsubject : call.tellsSubject = false) :
    (host.answer call).Follows (chronicle.Within chronicle.Still k)

/-- What the connection holds may change. -/
theorem rests_onConnection (f : Connection → Connection) (k : Nat) :
    (Host.onConnection f : Op ω κ Unit).Follows (chronicle.Within chronicle.Rests k) :=
  fun _ => .of_eq rfl rfl ⟨rfl, rfl, rfl, rfl, .of_eq rfl⟩

section Answers

variable {k : Nat} (htells : chronicle.Tells host) (hanswers : chronicle.Answers host k)

include htells hanswers

theorem passes_rests : host.Passes (chronicle.Within chronicle.Rests k) where
  refl s := .of_eq rfl rfl (.refl s)
  trans := .trans .trans
  published {event} _ s :=
    .of_eq rfl (htells.calls_observe event s)
      ⟨rfl, rfl, rfl, htells.store_observe event s, .of_eq (htells.calls_observe event s)⟩
  answered h := hanswers.rests (Call.isForQuery_of_isEnquiry h)

theorem passes_still : host.Passes (chronicle.Within chronicle.Still k) where
  refl s := .of_eq rfl rfl (.refl s)
  trans := .trans .trans
  published {event} _ s :=
    .of_eq rfl (htells.calls_observe event s)
      (.of_eq rfl rfl rfl rfl (htells.calls_observe event s) (htells.store_observe event s))
  answered h := hanswers.still (Call.isForQuery_of_isEnquiry h) (Call.tellsSubject_of_isEnquiry h)

theorem rests_reapply (handle : Handle) : (host.reapply handle).Follows (chronicle.Within chronicle.Rests k) := by
  have hpasses := passes_rests htells hanswers
  refine hpasses.get_bind fun s => ?_
  cases s.connection.activeSubject with
  | none => exact hpasses.pure ()
  | some active =>
    refine hpasses.bind ?_ fun status => rests_onConnection _ _
    exact hpasses.bind (hpasses.guarded _ (hanswers.rests rfl)) fun reply => hpasses.judge _ reply

theorem rests_openDevice (handle : Handle) : (host.openDevice handle).Follows (chronicle.Within chronicle.Rests k) := by
  have hpasses := passes_rests htells hanswers
  have hopen : Op.Follows (chronicle.Within chronicle.Rests k) (do
      let device ← host.driver handle .openHal
      Host.onConnection ({ · with device }) : Op ω κ Unit) :=
    hpasses.bind (hanswers.rests rfl) fun device => rests_onConnection _ _
  exact hpasses.ite (hpasses.bind (hanswers.rests rfl) fun _ => hopen) hopen

theorem rests_connect (handle : Handle) (generation : Nat) :
    (host.connect handle generation).Follows (chronicle.Within chronicle.Rests k) := by
  have hpasses := passes_rests htells hanswers
  refine hpasses.attempt_bind (hanswers.rests rfl) fun outcome => ?_
  cases outcome with
  | error fault => exact hpasses.bind (hpasses.publish rfl) fun _ => hpasses.pure _
  | ok _ =>
    refine hpasses.attempt_bind (rests_openDevice htells hanswers handle) fun outcome => ?_
    cases outcome with
    | error fault =>
      exact hpasses.bind (hpasses.publish rfl) fun _ => hpasses.bind (rests_onConnection _ _) fun _ => hpasses.pure _
    | ok _ =>
      refine hpasses.bind (rests_onConnection _ _) fun _ => hpasses.get_bind fun s => ?_
      have hrest : Op.Follows (chronicle.Within chronicle.Rests k) (do
          host.publish (Host.connectedEvent generation s.connection.device)
          host.reapply handle
          return true : Op ω κ Bool) :=
        hpasses.bind (hpasses.publish rfl) fun _ =>
          hpasses.bind (rests_reapply htells hanswers handle) fun _ => hpasses.pure _
      exact hpasses.ite (hpasses.bind (hpasses.publish rfl) fun _ => hrest) hrest

/-- A driver is told a subject only where there was none before. -/
theorem still_acquire : host.acquire.Follows (chronicle.Within chronicle.Still k) := by
  have hpasses := passes_rests htells hanswers
  have hacquire : host.acquire.Follows (chronicle.Within chronicle.Rests k) := by
    refine hpasses.get_bind fun s => ?_
    cases s.connection.handle with
    | some handle => exact hpasses.pure _
    | none =>
      refine hpasses.ite (hpasses.pure _) (hpasses.attempt_bind (hanswers.rests rfl) fun outcome => ?_)
      rcases outcome with fault | _ | handle
      · exact hpasses.bind (hpasses.publish rfl) fun _ => hpasses.pure _
      · exact hpasses.pure _
      · refine hpasses.get_bind fun s => hpasses.bind (rests_onConnection _ _) fun _ => ?_
        refine hpasses.bind (rests_connect htells hanswers handle _) fun connected => ?_
        exact hpasses.ite (hpasses.get_bind fun _ => hpasses.pure _) (hpasses.pure _)
  intro s
  cases hhandle : s.connection.handle with
  | some handle =>
    rw [host.run_acquire_of_handle hhandle]
    exact .of_eq rfl rfl (.refl s)
  | none => exact (hacquire s).mono fun h => h.still hhandle

theorem still_query (operation : Bytes) {ask : Handle → Op ω κ UInt64}
    (hask : ∀ handle, (ask handle).Follows (chronicle.Within chronicle.Still k)) :
    (host.query operation ask).Follows (chronicle.Within chronicle.Still k) := by
  have hpasses := passes_still htells hanswers
  have hrequest : (host.request operation ask).Follows (chronicle.Within chronicle.Still k) := by
    refine hpasses.bind (still_acquire htells hanswers) fun found => ?_
    cases found with
    | none => exact hpasses.bind (hpasses.bind (hpasses.publish rfl) fun _ => hpasses.pure _) fun _ => hpasses.pure _
    | some handle => exact hpasses.guarded operation (hask handle)
  refine hpasses.bind hrequest fun reply => ?_
  cases reply <;> exact hpasses.pure _

end Answers

/-! ## Uses of a queue that was stopped -/

section Uses

variable {k : Nat}

theorem still_managed (s : System ω κ) {queue : TaskQueue (Task κ)} (thread : Thread) (detached : Bool)
    (h : s.queue.stopping = true → queue.stopping = true) :
    chronicle.Within chronicle.Still k s { s with queue, thread, detached } :=
  fun hstopped => ⟨h hstopped, List.prefix_refl _, fun _ => .of_eq rfl rfl rfl rfl rfl rfl⟩

/-- A queue that was stopped drops what is posted. -/
theorem still_post (task : Task κ) : (Op.post task : Op ω κ Unit).Follows (chronicle.Within chronicle.Still k) :=
  fun s => still_managed s s.thread s.detached fun h => TaskQueue.stopping_act h s.clock (.post task)

theorem still_startQueue : (Host.startQueue : Op ω κ Unit).Follows (chronicle.Within chronicle.Still k) :=
  fun s => still_managed s s.thread s.detached TaskQueue.stopping_start

theorem still_stopService : (Host.stopService : Op ω κ Unit).Follows (chronicle.Within chronicle.Still k) :=
  fun s => still_managed s s.thread true fun _ => rfl

theorem still_runPending : host.runPending.Follows (chronicle.Within chronicle.Still k) := by
  intro s hstopped
  have hrun : (host.runPending.run s).2 = s := by
    change (host.engine.runPending host.patience s).2 = s
    cases host.patience with
    | zero => rfl
    | succ room => rw [Host.runPending_of_stopping hstopped]
  rw [hrun]
  exact Within.of_eq rfl rfl (.refl s) hstopped

theorem still_work : host.work.Follows (chronicle.Within chronicle.Still k) := by
  intro s hstopped
  have hrun : (host.work.run s).2 = s := by
    rw [Host.work, Host.workThrough, Op.run_get_bind, TaskQueue.running, hstopped, Bool.not_true, Bool.and_false]
    rfl
  rw [hrun]
  exact Within.of_eq rfl rfl (.refl s) hstopped

/-- Where no thread runs what is on the queue, nobody waits for it. -/
theorem still_invoke {op : Op ω κ α} (hop : op.Follows (chronicle.Within chronicle.Still k)) :
    (host.invoke op).Follows (chronicle.Within chronicle.Still k) := by
  intro s hstopped
  have hrun : (host.invoke op).run s = op.run s := by
    rw [Host.invoke, Op.run_bind]
    change ((get : Op ω κ (System ω κ)) >>= _ : Op ω κ α).run s = _
    rw [Op.run_get_bind, TaskQueue.running, hstopped, Bool.not_true, Bool.and_false, Bool.not_false, Bool.or_true,
      if_pos rfl]
  rw [hrun]
  exact hop s hstopped

variable (htells : chronicle.Tells host) (hanswers : chronicle.Answers host k)

include htells hanswers

/-- However the coordinator is used, nothing moves. -/
theorem still_use {op : Op ω κ α} (hop : host.Use op) : op.Follows (chronicle.Within chronicle.Still k) := by
  have hpasses := passes_still htells hanswers
  cases hop with
  | served call =>
    exact hpasses.follows_serve (fun _ => still_post _) still_invoke
      (still_query htells hanswers _ fun _ => hanswers.still rfl rfl)
      (still_query htells hanswers _ fun _ => hanswers.still rfl rfl) call
  | reported | linkDied => exact hpasses.get_bind fun _ => hpasses.ite (still_post _) (hpasses.pure ())
  | callerDied | subjectChanged => exact still_post _
  | started subject =>
    refine hpasses.bind (still_post _) fun _ => hpasses.ite ?_ (hpasses.publish rfl)
    exact hpasses.bind still_startQueue fun _ => hpasses.publish rfl
  | stopped => exact still_stopService
  | ranPending => exact still_runPending
  | worked => exact still_work

theorem still_turn (h : chronicle.Turn host s s') : chronicle.Within chronicle.Still k s s' := by
  cases h with
  | used hop => exact still_use htells hanswers hop s
  | did deed =>
    exact fun hstopped =>
      ⟨TaskQueue.stopping_act hstopped s.clock deed, List.prefix_refl _, fun _ => .of_eq rfl rfl rfl rfl rfl rfl⟩
  | elsewhere thread hcalls hstore => exact .of_eq rfl hcalls (.of_eq rfl rfl rfl rfl hcalls hstore)

theorem still_course (h : chronicle.Course host s s') : chronicle.Within chronicle.Still k s s' := by
  induction h with
  | refl => exact .of_eq rfl rfl (.refl s)
  | tail _ hturn ih => exact ih.trans .trans (still_turn htells hanswers hturn)

end Uses

/-! ## Any number of calls -/

theorem Rests.entered {call : Call} {world : ω} (hquery : call.isForQuery)
    (hcalls : chronicle.calls world = chronicle.calls s.world ++ [call])
    (hstore : chronicle.store world = chronicle.store s.world) : chronicle.Rests s { s with world } :=
  ⟨rfl, rfl, rfl, hstore, [call], hcalls, by simpa using hquery⟩

theorem Still.entered {call : Call} {world : ω} (hquery : call.isForQuery) (hsubject : call.tellsSubject = false)
    (hcalls : chronicle.calls world = chronicle.calls s.world ++ [call])
    (hstore : chronicle.store world = chronicle.store s.world) : chronicle.Still s { s with world } where
  toRests := .entered hquery hcalls hstore
  handle _ hhandle := hhandle
  subject _ := ⟨[call], hcalls, by simpa using hsubject⟩

namespace Tells

variable (htells : chronicle.Tells host) {k : Nat}

include htells

/-- With the call itself, no fewer than one call is made. -/
theorem answers_zero : chronicle.Answers host 0 := by
  have hanswer (R : System ω κ → System ω κ → Prop) (call : Call) :
      (host.answer call).Follows (chronicle.Within R 0) := by
    intro s hstopped
    obtain ⟨hstopped', hcalls⟩ := htells.kept call hstopped
    refine ⟨hstopped', (List.prefix_append _ _).trans hcalls, fun hlength => ?_⟩
    have hle := hcalls.length_le
    rw [List.length_append] at hle
    omega
  exact ⟨fun _ => hanswer _ _, fun _ _ => hanswer _ _⟩

/-- One call is made first, and then those that are made before it is answered, which are fewer. -/
theorem within_answer (hanswers : chronicle.Answers host k) {call : Call} {R : System ω κ → System ω κ → Prop}
    (hentered : ∀ {s : System ω κ} {world : ω}, chronicle.calls world = chronicle.calls s.world ++ [call] →
      (call.isMutation = false → chronicle.store world = chronicle.store s.world) → R s { s with world })
    (htrans : ∀ {s s' s'' : System ω κ}, R s s' → chronicle.Still s' s'' → R s s'') :
    (host.answer call).Follows (chronicle.Within R (k + 1)) := by
  intro s hstopped
  obtain ⟨world, hcalls, hstore, hcourse⟩ := htells.answer call hstopped
  obtain ⟨hstopped', hprefix, hstill⟩ := still_course htells hanswers hcourse hstopped
  refine ⟨hstopped', (hcalls ▸ List.prefix_append _ _).trans hprefix, fun hlength => ?_⟩
  refine htrans (hentered hcalls hstore) (hstill ?_)
  change _ < (chronicle.calls world).length + k
  rw [hcalls, List.length_append, List.length_singleton]
  omega

theorem answers (k : Nat) : chronicle.Answers host k := by
  induction k with
  | zero => exact htells.answers_zero
  | succ k ih =>
    refine ⟨fun hquery => htells.within_answer ih (fun hcalls hstore => ?_) fun h h' => h.trans h'.toRests,
      fun hquery hsubject => htells.within_answer ih (fun hcalls hstore => ?_) .trans⟩
    · exact .entered hquery hcalls (hstore (Call.isMutation_of_isForQuery hquery))
    · exact .entered hquery hsubject hcalls (hstore (Call.isMutation_of_isForQuery hquery))

/-- Once the queue was stopped, whatever happens leaves it so, and moves nothing. -/
theorem still_of_course (h : chronicle.Course host s s') (hstopped : s.queue.stopping = true) :
    s'.queue.stopping = true ∧ chronicle.Still s s' := by
  obtain ⟨hstopped', -, hstill⟩ :=
    still_course htells (htells.answers ((chronicle.calls s'.world).length + 1)) h hstopped
  exact ⟨hstopped', hstill (by omega)⟩

/-- The service is stopped, and the tasks that run meanwhile come to their end, which do to the queue what
    can be done to it. From then on nothing moves, whatever happens, and no call is for a session or
    changes the store. -/
theorem standstill {s₀ s₁ s₂ s₃ : System ω κ} {deeds : List (Deed (Task κ))}
    (hended : s₁.moment = deeds.foldl Deed.act ((Host.stopService : Op ω κ Unit).run s₀).2.moment)
    (hlater : chronicle.Course host s₁ s₂) (h : chronicle.Course host s₂ s₃) :
    chronicle.Still s₂ s₃ ∧
      chronicle.Made (fun call => call.isForSession = false ∧ call.isMutation = false) s₂ s₃ := by
  have hstopped : s₁.queue.stopping = true := by
    change s₁.moment.1.stopping = true
    rw [hended]
    exact TaskQueue.stopping_foldl rfl
  obtain ⟨hstopped', -⟩ := htells.still_of_course hlater hstopped
  obtain ⟨-, hstill⟩ := htells.still_of_course h hstopped'
  exact ⟨hstill, hstill.calls.mono fun call hquery =>
    ⟨Call.isForSession_of_isForQuery hquery, Call.isMutation_of_isForQuery hquery⟩⟩

end Tells

/-! ## A restless policy -/

/-- What a host takes down, and what it has in store. -/
structure Diary where
  calls : List Call := []
  store : TemplateStore := {}

/-- A call is taken down, and the store does what it says. -/
def Diary.enter (diary : Diary) (call : Call) : Diary where
  calls := diary.calls ++ [call]
  store := match call with
    | .storeAdd subject id => diary.store.add subject id
    | .storeRemove subject id => diary.store.remove subject id
    | .storeRename subject id label => diary.store.rename subject id label
    | _ => diary.store

def ofDiary : Chronicle Diary := ⟨Diary.calls, Diary.store⟩

/-- A host that accepts everything, and tolerates no failure. While its policy is asked, a caller dies. -/
def restless : Host Diary Empty where
  setup := { lockout := ⟨0, 10⟩ }
  answer call := do
    modify fun s => { s with world := s.world.enter call }
    if call.isForPolicy then Host.notifyCallerDied 7
    Op.settle (Ledger.obliging call)
  observe _ s := s.world
  client task := nomatch task
  patience := 9

theorem run_answer_restless (call : Call) (s : System Diary Empty) :
    ((restless.answer call).run s).2 =
      if call.isForPolicy then ((Host.notifyCallerDied 7).run { s with world := s.world.enter call }).2
      else { s with world := s.world.enter call } := by
  cases call with
  | driver handle call => cases call <;> rfl
  | _ => rfl

theorem tells_ofDiary : ofDiary.Tells restless where
  calls_observe _ _ := rfl
  store_observe _ _ := rfl
  answer call s _ := by
    refine ⟨s.world.enter call, rfl, fun hmutation => ?_, ?_⟩
    · cases call <;> first | rfl | cases hmutation
    · rw [run_answer_restless]
      split
      · exact .single (.used (.callerDied _) _)
      · exact .refl
  kept call s hstopped := by
    rw [run_answer_restless]
    split
    · exact ⟨TaskQueue.stopping_act hstopped s.clock (.post _), List.prefix_refl _⟩
    · exact ⟨hstopped, List.prefix_refl _⟩

/-- Somebody authenticates, and has asked for a renaming. Meanwhile the caller has died. -/
def busy : System Diary Empty :=
  ((do
    restless.perform (.startAuthentication 7 (some "sink") { subject := 3 })
    restless.serve (.rename 7 3 5 "thumb") : Op Diary Empty Unit).run { world := {} }).2

/-- The service was stopped by a task that was about to count a failure, and has done so since. -/
def silenced : System Diary Empty :=
  (restless.recordFailure.run ((Host.stopService : Op Diary Empty Unit).run busy).2).2

/-- The driver tells a match, time goes by, the service is started again and what is on the queue is to be
    run, and somebody waits for an answer. Still the session and the lockout stay, and the driver is asked
    for a number only. -/
theorem standstill_of_restless_policy : ∃ s₂ s₃ : System Diary Empty,
    busy.queue.ready = [.callerDied 7, .rename 3 5 "thumb"] ∧ ofDiary.Course restless silenced s₂ ∧
      ofDiary.Course restless s₂ s₃ ∧ ofDiary.Still s₂ s₃ ∧ s₃.slots.authenticate.map (·.caller) = some 7 ∧
      s₃.clock = 20 ∧ s₃.lockout.lockedUntil = some 10 ∧
      s₃.world.calls = s₂.world.calls ++ [.checkPermission 9 .manage, .driver 0 .preEnroll] := by
  have hended : silenced.moment = [Deed.postDelayed 10 .lockoutExpired].foldl Deed.act
      ((Host.stopService : Op Diary Empty Unit).run busy).2.moment := rfl
  let s₂ : System Diary Empty := { ((Host.report (.authenticated 1 5 3)).run silenced).2 with clock := 20 }
  have hlater : ofDiary.Course restless silenced s₂ :=
    .tail (.single (.used (.reported (.authenticated 1 5 3)) silenced)) (.did (.advance 20) _)
  have h : ofDiary.Course restless s₂ _ :=
    .tail (.tail (.single (.used (.started 3) s₂)) (.used .ranPending _)) (.used (.served (.preEnroll 9)) _)
  obtain ⟨hstill, -⟩ := tells_ofDiary.standstill hended hlater h
  exact ⟨s₂, _, by decide, hlater, h, hstill, by decide, by decide, by decide, by decide⟩

end Chronicle

end Fingerprint
