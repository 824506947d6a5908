import Fingerprint.Proofs.Heedless
import Fingerprint.Proofs.Privacy

/-!
# Helpers make no difference

Two systems are used in the same way, and all who take part do the same in
both, but for the store and the feedback: these may succeed in one system and
fail in the other, at any call and with any fault, or be there in one of them
only.

Then all is the same in both, but for what is in the store and what is told of
the failures. Whoever asks the store directly may get another answer, of course,
and a renaming may fail in one system only, which is reported.

* `Event.Slight`, `Entry.Slight`: what is told of the failures, and what helpers are asked;
* `Entry.SameBut`: two histories that differ in that alone;
* `Host.Unobtrusive`: helpers that leave everybody else alone;
* `Host.SameButHelpers`: two hosts that differ in their helpers;
* `Host.SameButHelpers.twin`: if the helpers are not heeded, the hosts are twins;
* `Host.SameButHelpers.makes_no_difference`.
-/

namespace Fingerprint

variable {ω κ α : Type}

/-! ## What makes no difference -/

/-- Whether it is the store or the feedback that is called. -/
def Call.isForHelpers : Call → Bool
  | storeAdd .. | storeRemove .. | storeRename .. | storeList _ | feedbackSuccess | feedbackError => true
  | _ => false

/-- The warnings about a store or a feedback that fails. -/
def Host.helperWarnings : List Bytes := ["template_add_failed", "template_remove_failed", "feedback_failed"]

/-- What is told of helpers that fail: the warnings about them, and the reports of tasks that have ended
    with a fault that is excused. -/
inductive Event.Slight (excused : Fault → Prop) : Event → Prop
  | warned {id : Bytes} (hid : id ∈ Host.helperWarnings) (fault : Fault) (fields : List Field) :
    Slight excused (Host.dispatchWarning id fault.message fields)
  | reported {fault : Fault} (h : excused fault) : Slight excused (Host.taskFailedEvent fault)

/-- What helpers were asked, and what was told of their failures. -/
inductive Entry.Slight (excused : Fault → Prop) : Entry → Prop
  | asked {call : Call} (hcall : call.isForHelpers) (outcome : Except Fault call.Reply) (slots : Slots)
    (speaker : Option Nat) : Slight excused (.called call outcome slots speaker)
  | told {event : Event} (hevent : event.Slight excused) (slots : Slots) : Slight excused (.published event slots)

/-- Whether it is the driver or a sink that was called. -/
def Entry.isOutward : Entry → Bool
  | called (.driver ..) .. | called (.sink ..) .. => true
  | _ => false

theorem Entry.Slight.isOutward_eq_false {excused : Fault → Prop} {entry : Entry} (h : entry.Slight excused) :
    entry.isOutward = false := by
  cases h with
  | told => rfl
  | @asked call hcall => cases call <;> first | rfl | cases hcall

/-- Two histories are the same, in whatever one looks at that does not have a property. -/
def Entry.SameBut (P : Entry → Prop) (history history' : List Entry) : Prop :=
  ∀ keep : Entry → Bool, (∀ entry, P entry → keep entry = false) → history'.filter keep = history.filter keep

namespace Entry.SameBut

variable {P : Entry → Prop} {history history' : List Entry}

theorem symm (h : SameBut P history history') : SameBut P history' history := fun keep hkeep => (h keep hkeep).symm

/-- The same happens in both. -/
theorem concat (h : SameBut P history history') (entry : Entry) :
    SameBut P (history ++ [entry]) (history' ++ [entry]) := fun keep hkeep => by
  rw [List.filter_append, List.filter_append, h keep hkeep]

/-- Something happens in one of them that makes no difference. -/
theorem concat_left (h : SameBut P history history') {entry : Entry} (hentry : P entry) :
    SameBut P (history ++ [entry]) history' := fun keep hkeep => by
  rw [List.filter_append, h keep hkeep, List.filter_cons_of_neg (by simp [hkeep entry hentry]), List.filter_nil,
    List.append_nil]

end Entry.SameBut

/-! ## Hosts and their helpers -/

variable {host host' : Host ω κ}

/-- Two worlds are related, and so far the same has happened in them, but for what is slight. -/
def Host.Transcript.SameBut (transcript : host.Transcript) (transcript' : host'.Transcript)
    (excused : Fault → Prop) (V : ω → ω → Prop) (world world' : ω) : Prop :=
  V world world' ∧ Entry.SameBut (Entry.Slight excused) (transcript.history world) (transcript'.history world')

/-- The helpers of a host leave everybody else alone: they may return or fail, and nobody takes notice, neither of
    that nor of what is told of it. Renamings fail with faults that are excused. What is meant by everybody
    else is how the world is related to that of another host. -/
structure Host.Unobtrusive (transcript : host.Transcript) (transcript' : host'.Transcript) (excused : Fault → Prop)
    (V : ω → ω → Prop) : Prop where
  observe {event : Event} (hevent : event.Slight excused) {s : System ω κ} {world' : ω} (h : V s.world world') :
    V (host.observe event s) world'
  answer {call : Call} (hcall : call.isForHelpers) {s : System ω κ} {world' : ω}
    (h : transcript.SameBut transcript' excused V s.world world') :
    ∃ world, ((host.answer call).run s).2 = { s with world } ∧ transcript.SameBut transcript' excused V world world'
  excuse {subject : Int32} {id : UInt32} {label : Bytes} {s : System ω κ} {fault : Fault}
    (h : ((host.answer (.storeRename subject id label)).run s).1 = .error fault) : excused fault

/-- Two hosts that differ in their helpers: these may be there or not, and may fail or not. -/
structure Host.SameButHelpers (transcript : host.Transcript) (transcript' : host'.Transcript)
    (excused : Fault → Prop) (V : ω → ω → Prop) : Prop where
  setup : { host'.setup with hasTemplates := true, hasFeedback := true } =
    { host.setup with hasTemplates := true, hasFeedback := true }
  patience : host'.patience = host.patience
  observe (event : Event) {s : System ω κ} {world' : ω} (h : V s.world world') :
    V (host.observe event s) (host'.observe event { s with world := world' })
  answer (call : Call) (hcall : call.isForHelpers = false) :
    (host.answer call).Likewise (.id κ) (transcript.SameBut transcript' excused V) (host'.answer call)
  client (task : κ) :
    (host.client task).Likewise (.id κ) (transcript.SameBut transcript' excused V) (host'.client task)
  unobtrusive : host.Unobtrusive transcript transcript' excused V
  unobtrusive' : host'.Unobtrusive transcript' transcript excused (flip V)

/-! ## What goes unnoticed -/

/-- An operation changes the world alone, and in a way that makes no difference. -/
def Op.Unnoticed (W : ω → ω → Prop) (op : Op ω κ α) : Prop :=
  ∀ s world', W s.world world' → ∃ world, (op.run s).2 = { s with world } ∧ W world world'

theorem Op.Unnoticed.pure {W : ω → ω → Prop} (a : α) : (Pure.pure a : Op ω κ α).Unnoticed W :=
  fun s _ h => ⟨s.world, rfl, h⟩

theorem Op.Unnoticed.either {W : ω → ω → Prop} {c : Prop} [Decidable c] {op op' : Op ω κ α} (h : op.Unnoticed W)
    (h' : op'.Unnoticed W) : (if c then op else op').Unnoticed W := by
  split
  · exact h
  · exact h'

/-- To make something else of the result changes nothing more. -/
theorem Op.run_map_snd {β : Type} (op : Op ω κ α) (f : α → β) (s : System ω κ) :
    ((op >>= fun a => pure (f a)).run s).2 = (op.run s).2 := by
  rw [Op.run_bind]
  rcases op.run s with ⟨_ | _, _⟩ <;> rfl

theorem Op.Unnoticed.map {β : Type} {W : ω → ω → Prop} {op : Op ω κ α} (h : op.Unnoticed W) (f : α → β) :
    (op >>= fun a => Pure.pure (f a)).Unnoticed W := by
  intro s world' hworld
  rw [Op.run_map_snd]
  exact h s world' hworld

/-- Two operations leave states that differ in their worlds alone, and these are related. -/
def Op.Concur {β : Type} (W : ω → ω → Prop) (op : Op ω κ α) (op' : Op ω κ β) : Prop :=
  ∀ s s' : System ω κ, s.Disguised (.id κ) W s' → System.Disguised (.id κ) W (op.run s).2 (op'.run s').2

theorem Op.Concur.map {β γ δ : Type} {W : ω → ω → Prop} {op : Op ω κ α} {op' : Op ω κ β} (h : op.Concur W op')
    (f : α → γ) (f' : β → δ) : (op >>= fun a => pure (f a)).Concur W (op' >>= fun b => pure (f' b)) := by
  intro s s' hs
  rw [Op.run_map_snd, Op.run_map_snd]
  exact h s s' hs

/-- After results that are the same. -/
theorem Op.Parallel.concur {β γ : Type} {W : ω → ω → Prop} {op op' : Op ω κ α} (h : op.Likewise (.id κ) W op')
    {f : α → Op ω κ β} {f' : α → Op ω κ γ} (hf : ∀ a, (f a).Concur W (f' a)) :
    (op >>= f).Concur W (op' >>= f') := by
  intro s s' hs
  obtain ⟨hagree, hafter⟩ := h s s' hs
  rw [Op.run_bind, Op.run_bind]
  rcases hrun : op.run s with ⟨outcome, t⟩
  rcases hrun' : op'.run s' with ⟨outcome', t'⟩
  rw [hrun, hrun'] at hagree hafter
  cases hagree with
  | ok ha => exact ha ▸ hf _ t t' hafter
  | error fault => exact hafter

/-- Two operations that go unnoticed, each on its side, have the same effect. -/
theorem Op.Unnoticed.concur {W : ω → ω → Prop} {op op' : Op ω κ α} (h : op.Unnoticed W)
    (h' : op'.Unnoticed (flip W)) : op.Concur W op' := by
  intro s s' hs
  obtain ⟨world', hworld, rfl⟩ := System.disguised_id_iff.1 hs
  obtain ⟨world, hrun, hkept⟩ := h s world' hworld
  obtain ⟨world'', hrun', hkept'⟩ := h' { s with world := world' } world hkept
  rw [hrun, hrun']
  exact System.disguised_id_iff.2 ⟨world'', hkept', rfl⟩

/-- They do the same if they never fail. -/
theorem Op.Unnoticed.likewise_both {W : ω → ω → Prop} {op op' : Op ω κ Unit} (h : op.Unnoticed W)
    (h' : op'.Unnoticed (flip W)) (hsure : op.Sure) (hsure' : op'.Sure) : op.Likewise (.id κ) W op' := by
  intro s s' hs
  rw [hsure s, hsure' s']
  exact ⟨.ok rfl, h.concur h' s s' hs⟩

/-! ## Helpers -/

theorem Host.perform_rename_of_store (h : host.setup.hasTemplates = true) {subject : Int32} {id : UInt32}
    {label : Bytes} : host.perform (.rename subject id label) = host.answer (.storeRename subject id label) :=
  if_pos h

theorem Host.perform_rename_of_no_store (h : ¬host.setup.hasTemplates = true) {subject : Int32} {id : UInt32}
    {label : Bytes} : host.perform (.rename subject id label) = pure () :=
  if_neg h

namespace Host.Unobtrusive

variable {transcript : host.Transcript} {transcript' : host'.Transcript} {excused : Fault → Prop} {V : ω → ω → Prop}
  (h : host.Unobtrusive transcript transcript' excused V)

include h

theorem unnoticed_publish {event : Event} (hevent : event.Slight excused) :
    (host.publish event).Unnoticed (transcript.SameBut transcript' excused V) := by
  intro s world' hworld
  refine ⟨_, rfl, h.observe hevent hworld.1, ?_⟩
  rw [transcript.observe]
  exact hworld.2.concat_left (.told hevent s.slots)

theorem unnoticed_bestEffort {request : Op ω κ Unit}
    (hrequest : request.Unnoticed (transcript.SameBut transcript' excused V)) {id : Bytes}
    (hid : id ∈ helperWarnings) (fields : List Field) :
    (host.bestEffort request id fields).Unnoticed (transcript.SameBut transcript' excused V) := by
  intro s world' hworld
  obtain ⟨world, hrun, hkept⟩ := hrequest s world' hworld
  rw [bestEffort, Op.run_bind, Op.run_attempt, hrun]
  cases (request.run s).1 with
  | ok => exact ⟨world, rfl, hkept⟩
  | error fault => exact h.unnoticed_publish (.warned hid fault fields) { s with world } world' hkept

theorem unnoticed_answer {call : Call} (hcall : call.isForHelpers) :
    (host.answer call).Unnoticed (transcript.SameBut transcript' excused V) := fun _ _ => h.answer hcall

/-- What is asked of a helper that may be absent goes unnoticed. -/
theorem unnoticed_request (there : Bool) {request : Op ω κ Unit}
    (hrequest : request.Unnoticed (transcript.SameBut transcript' excused V)) {id : Bytes}
    (hid : id ∈ helperWarnings) (fields : List Field) :
    (if there then host.bestEffort request id fields else pure () : Op ω κ Unit).Unnoticed
      (transcript.SameBut transcript' excused V) :=
  (h.unnoticed_bestEffort hrequest hid fields).either (.pure ())

theorem unnoticed_addTemplate (subject : Int32) (id : UInt32) :
    (host.addTemplate subject id).Unnoticed (transcript.SameBut transcript' excused V) :=
  h.unnoticed_request _ (h.unnoticed_answer rfl) (by decide) _

theorem unnoticed_removeTemplate (subject : Int32) (id : UInt32) :
    (host.removeTemplate subject id).Unnoticed (transcript.SameBut transcript' excused V) :=
  h.unnoticed_request _ (h.unnoticed_answer rfl) (by decide) _

theorem unnoticed_feedbackSuccess :
    host.feedbackSuccess.Unnoticed (transcript.SameBut transcript' excused V) :=
  h.unnoticed_request _ (h.unnoticed_answer rfl) (by decide) _

theorem unnoticed_feedbackError :
    host.feedbackError.Unnoticed (transcript.SameBut transcript' excused V) :=
  h.unnoticed_request _ (h.unnoticed_answer rfl) (by decide) _

theorem unnoticed_listTemplates (subject : Int32) :
    (host.listTemplates subject).Unnoticed (transcript.SameBut transcript' excused V) := by
  unfold listTemplates
  exact .either (.pure []) (h.unnoticed_answer rfl)

theorem unnoticed_rename (subject : Int32) (id : UInt32) (label : Bytes) :
    (host.perform (.rename subject id label)).Unnoticed (transcript.SameBut transcript' excused V) := by
  by_cases hstore : host.setup.hasTemplates = true
  · rw [perform_rename_of_store hstore]
    exact h.unnoticed_answer rfl
  · rw [perform_rename_of_no_store hstore]
    exact .pure ()

/-- What a caller asks the store for. -/
theorem unnoticed_execute {call : ServiceCall} (hcall : call.asksStore) :
    (host.execute call).Unnoticed (transcript.SameBut transcript' excused V) := by
  cases call with
  | enrolledTemplates caller subject => exact h.unnoticed_listTemplates subject
  | hasEnrolledTemplates caller subject => exact (h.unnoticed_listTemplates subject).map fun list => !list.isEmpty
  | _ => cases hcall

/-- A renaming that fails is reported. -/
theorem unnoticed_runTask (subject : Int32) (id : UInt32) (label : Bytes) :
    (host.runTask (.rename subject id label)).Unnoticed (transcript.SameBut transcript' excused V) := by
  intro s world' hworld
  obtain ⟨world, hrun, hkept⟩ := h.unnoticed_rename subject id label s world' hworld
  rw [runTask, Op.run_bind, Op.run_attempt, hrun]
  cases houtcome : ((host.perform (.rename subject id label)).run s).1 with
  | ok => exact ⟨world, rfl, hkept⟩
  | error fault =>
    refine h.unnoticed_publish (.reported ?_) { s with world } world' hkept
    by_cases hstore : host.setup.hasTemplates = true
    · rw [perform_rename_of_store hstore] at houtcome
      exact h.excuse houtcome
    · rw [perform_rename_of_no_store hstore] at houtcome
      cases houtcome

end Host.Unobtrusive

/-! ## The hosts side by side -/

theorem Occasion.disguise_id (occasion : Occasion κ) : occasion.disguise (.id κ) = occasion := by
  cases occasion with
  | served call => cases call <;> rfl
  | performed task | posted task => exact congrArg _ (congrFun Task.disguise_id task)
  | delayed ms task => exact congrArg _ (congrFun Task.disguise_id task)
  | registered caller onDeath => exact congrArg _ (congrFun Option.map_id onDeath)
  | _ => rfl

namespace Host.SameButHelpers

variable {transcript : host.Transcript} {transcript' : host'.Transcript} {excused : Fault → Prop} {V : ω → ω → Prop}
  (h : host.SameButHelpers transcript transcript' excused V)

include h

theorem publish (event : Event) :
    (host.publish event).Likewise (.id κ) (transcript.SameBut transcript' excused V) (host'.publish event) := by
  refine .modified fun s s' hs => ?_
  obtain ⟨world', hworld, rfl⟩ := System.disguised_id_iff.1 hs
  refine System.disguised_id_iff.2 ⟨_, ⟨h.observe event hworld.1, ?_⟩, rfl⟩
  rw [transcript.observe, transcript'.observe]
  exact hworld.2.concat _

omit h in
/-- The same seen from the other side. -/
theorem flip_sameBut (transcript : host.Transcript) (transcript' : host'.Transcript) (excused : Fault → Prop)
    (V : ω → ω → Prop) :
    transcript'.SameBut transcript excused (flip V) = flip (transcript.SameBut transcript' excused V) :=
  funext fun _ => funext fun _ => propext ⟨fun h => ⟨h.1, h.2.symm⟩, fun h => ⟨h.1, h.2.symm⟩⟩

/-- If their helpers are not heeded, the hosts are twins. -/
theorem twin : host.heedless.Twin host'.heedless (.id κ) (transcript.SameBut transcript' excused V) := by
  have hhere := h.unobtrusive
  have hthere := h.unobtrusive'
  have hflip := flip_sameBut transcript transcript' excused V
  exact {
    setup := h.setup
    publish := fun hevent => by
      obtain rfl := hevent.eq
      exact h.publish _
    answer := fun call hcall => by
      cases call with
      | acquire => exact h.answer .acquire rfl
      | driver handle call => exact h.answer (.driver handle call) rfl
      | provideDirectory path => exact h.answer (.provideDirectory path) rfl
      | storeRename subject id label =>
        -- The report of a renaming that fails is part of what is not heeded.
        exact (hhere.unnoticed_runTask subject id label).likewise_both
          (hflip ▸ hthere.unnoticed_runTask subject id label) (host.sure_runTask _) (host'.sure_runTask _)
      | storeList subject => exact .result []
      | _ => cases hcall
    device := fun _ => rfl
    sink := fun name callback device hdevice => by
      rw [← hdevice, callback.fromDevice_device]
      exact h.answer (.sink name callback) rfl
    addTemplate := fun subject id => by
      rw [heedless_addTemplate, heedless_addTemplate]
      exact (hhere.unnoticed_addTemplate subject id).likewise_both (hflip ▸ hthere.unnoticed_addTemplate subject id)
        (host.sure_addTemplate _ _) (host'.sure_addTemplate _ _)
    removeTemplate := fun subject id => by
      rw [heedless_removeTemplate, heedless_removeTemplate]
      exact (hhere.unnoticed_removeTemplate subject id).likewise_both
        (hflip ▸ hthere.unnoticed_removeTemplate subject id) (host.sure_removeTemplate _ _)
        (host'.sure_removeTemplate _ _)
    feedbackSuccess := by
      rw [heedless_feedbackSuccess, heedless_feedbackSuccess]
      exact hhere.unnoticed_feedbackSuccess.likewise_both (hflip ▸ hthere.unnoticed_feedbackSuccess)
        host.sure_feedbackSuccess host'.sure_feedbackSuccess
    feedbackError := by
      rw [heedless_feedbackError, heedless_feedbackError]
      exact hhere.unnoticed_feedbackError.likewise_both (hflip ▸ hthere.unnoticed_feedbackError)
        host.sure_feedbackError host'.sure_feedbackError
    patience := h.patience
    checkPermission := fun caller permission => h.answer (.checkPermission caller permission) rfl
    canUseSensor := fun caller package => h.answer (.canUseSensor caller package) rfl
    client := h.client }

/-- To ask the store directly makes no difference, but for the answer. -/
theorem concur_serve {call : ServiceCall} (hcall : call.asksStore) :
    (host.serve call).Concur (transcript.SameBut transcript' excused V) (host'.serve call) := by
  have hgate : (host.gate call).Likewise (.id κ) (transcript.SameBut transcript' excused V) (host'.gate call) := by
    have hdisguise : call.disguise (.id κ) = call := by cases call <;> rfl
    have hgate := h.twin.gate call
    rwa [hdisguise] at hgate
  rw [serve_eq, serve_eq]
  refine hgate.concur fun admitted => ?_
  cases admitted with
  | false => exact fun _ _ hs => hs
  | true =>
    exact (h.unobtrusive.unnoticed_execute hcall).concur
      (flip_sameBut transcript transcript' excused V ▸ h.unobtrusive'.unnoticed_execute hcall)

/-- Whatever is not asked of the store directly comes to the same. -/
theorem meet {occasion : Occasion κ} (hasks : occasion.asksStore = false) :
    (host.meet occasion).Likewise (.id κ) (transcript.SameBut transcript' excused V) (host'.meet occasion) := by
  have hmeet := h.twin.meet occasion
  rwa [occasion.disguise_id, heedless_meet host hasks, heedless_meet host' hasks] at hmeet

/-- Whatever the occasion, it leads to the same. -/
theorem concur_meet (occasion : Occasion κ) :
    (host.meet occasion).Concur (transcript.SameBut transcript' excused V) (host'.meet occasion) := by
  cases hasks : occasion.asksStore with
  | false => exact fun s s' hs => (h.meet hasks s s' hs).2
  | true =>
    cases occasion with
    | served call => exact (h.concur_serve hasks).map call.answer call.answer
    | performed task =>
      cases task with
      | rename subject id label =>
        have hrenamed := (h.unobtrusive.unnoticed_rename subject id label).concur
          (flip_sameBut transcript transcript' excused V ▸ h.unobtrusive'.unnoticed_rename subject id label)
        exact hrenamed.map (fun _ => Answer.nothing) fun _ => Answer.nothing
      | _ => cases hasks
    | _ => cases hasks

theorem course (occasions : List (Occasion κ)) {s s' : System ω κ}
    (hs : s.Disguised (.id κ) (transcript.SameBut transcript' excused V) s') :
    System.Disguised (.id κ) (transcript.SameBut transcript' excused V) (host.course occasions s).2
      (host'.course occasions s').2 ∧
    ∀ (n : Nat) (occasion : Occasion κ), occasions[n]? = some occasion → occasion.asksStore = false →
      (host'.course occasions s').1[n]? = (host.course occasions s).1[n]? := by
  -- Answers may differ on the way, but the states stay alike, and that is all that the rest depends on.
  induction occasions generalizing s s' with
  | nil => exact ⟨hs, fun n occasion hn => absurd hn (by simp)⟩
  | cons first rest ih =>
    obtain ⟨hend, hanswers⟩ := ih (h.concur_meet first s s' hs)
    refine ⟨hend, fun n occasion hn hasks => ?_⟩
    cases n with
    | zero =>
      obtain rfl : first = occasion := Option.some.inj hn
      exact congrArg some (Op.agree_eq_iff.1 (h.meet hasks s s' hs).1).symm
    | succ n => exact hanswers n occasion hn hasks

/-- Whether the store and the feedback are there or not, and whether they fail or not, at any call and with any
    fault: whatever happens, in whatever order, leads to the same state but for the world. There the same
    has happened, but for what helpers were asked and what is told of their failures; so the same was asked
    of the driver and of sinks, in the same order. Whoever does not ask the store directly gets the
    same answer. -/
theorem makes_no_difference (s : System ω κ) (world : ω) (hworld : V s.world world)
    (hsame : Entry.SameBut (Entry.Slight excused) (transcript.history s.world) (transcript'.history world))
    (occasions : List (Occasion κ)) :
    ∃ world', V (host.course occasions s).2.world world' ∧
      (host'.course occasions { s with world }).2 = { (host.course occasions s).2 with world := world' } ∧
      Entry.SameBut (Entry.Slight excused) (transcript.history (host.course occasions s).2.world)
        (transcript'.history world') ∧
      (transcript'.history world').filter Entry.isOutward =
        (transcript.history (host.course occasions s).2.world).filter Entry.isOutward ∧
      ∀ (n : Nat) (occasion : Occasion κ), occasions[n]? = some occasion → occasion.asksStore = false →
        (host'.course occasions { s with world }).1[n]? = (host.course occasions s).1[n]? := by
  obtain ⟨hend, hanswers⟩ := h.course occasions (System.disguised_id_iff.2 ⟨world, ⟨hworld, hsame⟩, rfl⟩)
  obtain ⟨world', ⟨hkept, hhappened⟩, heq⟩ := System.disguised_id_iff.1 hend
  exact ⟨world', hkept, heq, hhappened, hhappened _ fun _ => Entry.Slight.isOutward_eq_false, hanswers⟩

end Host.SameButHelpers

/-! ## Ledgers -/

namespace Ledger

variable {setup setup' : Setup} {rule rule' : (call : Call) → Except Fault call.Reply} {excused : Fault → Prop}

/-- The helpers of a ledger are unobtrusive, whatever its rule says of them. -/
theorem unobtrusive {V : List Entry → List Entry → Prop} (hV : ∀ world world', V world world')
    (hrename : ∀ subject id label fault,
      rule (.storeRename subject id label) = (.error fault : Except Fault Unit) → excused fault) :
    Host.Unobtrusive (record setup rule).transcript (record setup' rule').transcript excused V where
  observe _ _ _ _ := hV _ _
  answer {call} hcall {s world'} h := by
    rw [run_answer]
    exact ⟨_, rfl, hV _ _, h.2.concat_left (.asked hcall _ s.slots s.speaker)⟩
  excuse {subject id label s fault} h := by
    rw [run_answer] at h
    exact hrename subject id label fault h

/-- Two ledgers whose rules say the same of all but the helpers. -/
theorem sameButHelpers
    (hsetup : { setup' with hasTemplates := true, hasFeedback := true } =
      { setup with hasTemplates := true, hasFeedback := true })
    (hrule : ∀ call, call.isForHelpers = false → rule' call = rule call)
    (hrename : ∀ subject id label fault,
      rule (.storeRename subject id label) = (.error fault : Except Fault Unit) → excused fault)
    (hrename' : ∀ subject id label fault,
      rule' (.storeRename subject id label) = (.error fault : Except Fault Unit) → excused fault) :
    Host.SameButHelpers (record setup rule).transcript (record setup' rule').transcript excused
      (fun _ _ => True) where
  setup := hsetup
  patience := rfl
  observe _ _ _ _ := trivial
  answer call hcall := by
    change Op.Likewise (.id Empty) _ (answer rule call) (answer rule' call)
    rw [answer, answer, hrule call hcall]
    refine .settled _ fun s world hs => ⟨trivial, ?_⟩
    rw [System.disguise_id]
    exact hs.2.concat _
  client task := task.elim
  unobtrusive := unobtrusive (fun _ _ => trivial) hrename
  unobtrusive' := unobtrusive (fun _ _ => trivial) hrename'

/-- The store takes no template and gives none up. -/
def barred : (call : Call) → Except Fault call.Reply
  | .storeAdd .. => .error (.plain "full")
  | .storeRemove .. => .error (.plain "locked")
  | call => obliging call

end Ledger

/-- Whether an event with that name was told. -/
def Entry.tells (id : Bytes) : Entry → Bool
  | published event _ => event.id == id
  | _ => false

/-- A caller enrolls, fails to authenticate, and has the template removed. In one system all goes well, in
    the other there is no feedback and the store fails. -/
theorem Host.SameButHelpers.makes_no_difference_of_barred_store :
    let occasions : List (Occasion Empty) :=
      [.served (.enroll 1 (some "a") { subject := 7 }), .drained, .reported (.enrollResult 1 5 7 0), .drained,
        .served (.authenticate 1 (some "a") { subject := 7 } "bank"), .drained, .reported (.authenticated 1 0 7),
        .drained, .performed (.startRemove 1 (some "a") { id := 5, subject := 7 }), .reported (.removed 1 5 7), .drained]
    let s := ((Ledger.host {} Ledger.obliging).course occasions { world := [] }).2
    let s' := ((Ledger.host { hasFeedback := false } Ledger.barred).course occasions { world := [] }).2
    s' = { s with world := s'.world } ∧ s'.world.filter Entry.isOutward = s.world.filter Entry.isOutward ∧
      (s.world.filter Entry.isOutward).length = 10 ∧ s.lockout.failed = 1 ∧
      s.world.countP (·.tells "template_add_failed") = 0 ∧ s'.world.countP (·.tells "template_add_failed") = 1 := by
  intro occasions s s'
  have hsame : Host.SameButHelpers (Ledger.record {} Ledger.obliging).transcript
      (Ledger.record { hasFeedback := false } Ledger.barred).transcript (fun _ => False) fun _ _ => True := by
    refine Ledger.sameButHelpers rfl (fun call hcall => ?_) (fun _ _ _ _ h => ?_) fun _ _ _ _ h => ?_
    · cases call <;> first | rfl | cases hcall
    · cases h
    · cases h
  obtain ⟨world', -, heq, -, hsame, -⟩ :=
    hsame.makes_no_difference { world := [] } [] trivial (fun _ _ => rfl) occasions
  obtain rfl : s'.world = world' := congrArg System.world heq
  exact ⟨heq, hsame, by decide +kernel, by decide +kernel, by decide +kernel, by decide +kernel⟩

end Fingerprint
