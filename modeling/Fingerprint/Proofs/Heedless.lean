import Fingerprint.Proofs.Occasion

/-!
# Helpers that are not heeded

The store and the feedback help the coordinator, which does not depend on
them: a failure to add or to take out a template, or to give feedback, is told
of and makes no difference otherwise. So one can as well think of that as
what the helpers do themselves. Then there always is a store and a feedback,
both never fail, and the coordinator hears nothing from them.

What a caller asks the store for directly is not meant here.

* `Op.Sure`: operations that never fail;
* `Host.heedless`: the host whose helpers do what is done when they fail;
* `Occasion.asksStore`: what is asked of the store directly;
* `Host.heedless_meet`: all else comes to the same with it.
-/

namespace Fingerprint

variable {ω κ α : Type}

/-- An operation never fails. -/
def Op.Sure (op : Op ω κ Unit) : Prop := ∀ s, (op.run s).1 = .ok ()

namespace Host

variable (host : Host ω κ)

/-! ## What never fails -/

theorem sure_bestEffort (request : Op ω κ Unit) (id : Bytes) (fields : List Field) :
    (host.bestEffort request id fields).Sure := by
  intro s
  rw [bestEffort, Op.run_bind, Op.run_attempt]
  cases (request.run s).1 <;> rfl

theorem sure_runTask (task : Task κ) : (host.runTask task).Sure := by
  intro s
  rw [runTask, Op.run_bind, Op.run_attempt]
  cases ((host.perform task).run s).1 <;> rfl

/-- Nothing is told of what does not fail. -/
theorem bestEffort_eq_of_sure {request : Op ω κ Unit} (h : request.Sure) (id : Bytes) (fields : List Field) :
    host.bestEffort request id fields = request := by
  refine ExceptT.ext (funext fun s => ?_)
  rw [bestEffort, Op.run_bind, Op.run_attempt, h s]
  exact Prod.ext (h s).symm rfl

theorem runTask_eq_of_sure {task : Task κ} (h : (host.perform task).Sure) : host.runTask task = host.perform task := by
  refine ExceptT.ext (funext fun s => ?_)
  rw [runTask, Op.run_bind, Op.run_attempt, h s]
  exact Prod.ext (h s).symm rfl

/-- Nor does what is asked of a helper that may be absent. -/
theorem sure_request (there : Bool) (request : Op ω κ Unit) (id : Bytes) (fields : List Field) :
    (if there then host.bestEffort request id fields else pure () : Op ω κ Unit).Sure := by
  split
  · exact host.sure_bestEffort _ _ _
  · exact fun _ => rfl

theorem sure_addTemplate (subject : Int32) (id : UInt32) : (host.addTemplate subject id).Sure :=
  host.sure_request _ _ _ _

theorem sure_removeTemplate (subject : Int32) (id : UInt32) : (host.removeTemplate subject id).Sure :=
  host.sure_request _ _ _ _

theorem sure_feedbackSuccess : host.feedbackSuccess.Sure := host.sure_request _ _ _ _

theorem sure_feedbackError : host.feedbackError.Sure := host.sure_request _ _ _ _

/-! ## The heedless host -/

/-- The host whose helpers do by themselves what is done when they are absent or fail. -/
def heedless : Host ω κ where
  setup := { host.setup with hasTemplates := true, hasFeedback := true }
  answer
    | .storeAdd subject id => host.addTemplate subject id
    | .storeRemove subject id => host.removeTemplate subject id
    | .storeRename subject id label => host.runTask (.rename subject id label)
    | .storeList _ => pure ([] : List Template)
    | .feedbackSuccess => host.feedbackSuccess
    | .feedbackError => host.feedbackError
    | .acquire => host.answer .acquire
    | .driver handle call => host.answer (.driver handle call)
    | .sink name callback => host.answer (.sink name callback)
    | .checkPermission caller permission => host.answer (.checkPermission caller permission)
    | .canUseSensor caller package => host.answer (.canUseSensor caller package)
    | .provideDirectory path => host.answer (.provideDirectory path)
  observe := host.observe
  client := host.client
  patience := host.patience

theorem heedless_addTemplate (subject : Int32) (id : UInt32) :
    host.heedless.addTemplate subject id = host.addTemplate subject id :=
  host.heedless.bestEffort_eq_of_sure (host.sure_addTemplate subject id) _ _

theorem heedless_removeTemplate (subject : Int32) (id : UInt32) :
    host.heedless.removeTemplate subject id = host.removeTemplate subject id :=
  host.heedless.bestEffort_eq_of_sure (host.sure_removeTemplate subject id) _ _

theorem heedless_feedbackSuccess : host.heedless.feedbackSuccess = host.feedbackSuccess :=
  host.heedless.bestEffort_eq_of_sure host.sure_feedbackSuccess _ _

theorem heedless_feedbackError : host.heedless.feedbackError = host.feedbackError :=
  host.heedless.bestEffort_eq_of_sure host.sure_feedbackError _ _

/-- What becomes of events of the driver is the same. -/
theorem heedless_dispatch (event : DriverEvent) : host.heedless.dispatch event = host.dispatch event := by
  cases event with
  | enrollResult device id subject remaining =>
    simp only [dispatch, dispatchEnrollResult, heedless_addTemplate, heedless_feedbackSuccess]
    rfl
  | authenticated device id subject =>
    simp only [dispatch, dispatchAuthenticated, heedless_feedbackError, heedless_feedbackSuccess]
    rfl
  | removed device id subject =>
    simp only [dispatch, dispatchRemoved, heedless_removeTemplate]
    rfl
  | acquired | error | enumerate => rfl

theorem heedless_runWatches (ids : List Nat) : host.heedless.runWatches ids = host.runWatches ids := by
  induction ids with
  | nil => rfl
  | cons id rest ih =>
    rw [runWatches, runWatches, ih]
    rfl

theorem heedless_runTask (task : Task κ) : host.heedless.runTask task = host.runTask task := by
  cases task with
  | rename subject id label =>
    -- The heedless store has told of its failure already.
    have hsure : (host.heedless.perform (.rename subject id label)).Sure := host.sure_runTask _
    exact host.heedless.runTask_eq_of_sure hsure
  | driverEvent event =>
    simp only [runTask, perform, heedless_dispatch]
    rfl
  | callerDied caller =>
    simp only [runTask, perform, callerDied, heedless_runWatches]
    rfl
  | startEnrollment | startAuthentication | startRemove | cancel | begin | applySubject | driverDied
  | lockoutExpired | client => rfl

/-! ## The queue -/

theorem heedless_engine : host.heedless.engine = host.engine := by
  simp only [engine, heedless_runTask]

theorem heedless_runPending : host.heedless.runPending = host.runPending := by
  rw [runPending, runPending, heedless_engine]
  rfl

theorem heedless_workThrough (room : Nat) : host.heedless.workThrough room = host.workThrough room := by
  rw [workThrough, workThrough, heedless_engine]

theorem heedless_invoke (op : Op ω κ α) : host.heedless.invoke op = host.invoke op := by
  simp only [invoke, heedless_workThrough]

end Host

/-! ## Occasions -/

/-- Whether a caller asks for what is in the store. -/
def ServiceCall.asksStore : ServiceCall → Bool
  | enrolledTemplates .. | hasEnrolledTemplates .. => true
  | _ => false

/-- Whether somebody asks the store for something directly. -/
def Occasion.asksStore : Occasion κ → Bool
  | served call => call.asksStore
  | performed (.rename ..) => true
  | _ => false

namespace Host

variable (host : Host ω κ)

theorem heedless_gate (call : ServiceCall) : host.heedless.gate call = host.gate call := rfl

theorem heedless_execute {call : ServiceCall} (h : call.asksStore = false) :
    host.heedless.execute call = host.execute call := by
  cases call with
  | preEnroll => exact host.heedless_invoke host.preEnroll
  | authenticatorId => exact host.heedless_invoke host.authenticatorId
  | isHardwareDetected => exact host.heedless_invoke _
  | enrolledTemplates | hasEnrolledTemplates => cases h
  | enroll | cancelEnrollment | authenticate | cancelAuthentication | remove | rename => rfl

/-- Whatever is not asked of the store directly comes to the same. -/
theorem heedless_meet {occasion : Occasion κ} (h : occasion.asksStore = false) :
    host.heedless.meet occasion = host.meet occasion := by
  cases occasion with
  | served call =>
    rw [meet, meet, serve_eq, serve_eq, heedless_gate, heedless_execute host h]
  | performed task =>
    cases task with
    | rename => cases h
    | driverEvent event =>
      simp only [meet, perform, heedless_dispatch]
    | callerDied caller =>
      simp only [meet, perform, callerDied, heedless_runWatches]
      rfl
    | startEnrollment | startAuthentication | startRemove | cancel | begin | applySubject | driverDied
    | lockoutExpired | client => rfl
  | drained =>
    simp only [meet, heedless_runPending]
  | worked =>
    simp only [meet, work, heedless_workThrough]
    rfl
  | stoppedPending | stopped | registered | released | sought | posted | delayed | reported | linkDied
  | callerDied | subjectChanged | advanced | started | ended => rfl

end Host

end Fingerprint
