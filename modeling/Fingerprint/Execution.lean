import Fingerprint.Dispatcher
import Fingerprint.Path

/-!
# Running tasks

What the tasks on the queue do, and the ways in which they are run: all that
are due on the calling thread, or on the queue's own thread. A task that ends
with a fault is reported, and the next one runs.

* `Host.perform`: what a task does;
* `Host.runPending`, `Host.work`: run what is due;
* `Host.invoke`: runs an operation on the queue and waits for its result.
-/

namespace Fingerprint

namespace Host

variable {ω κ : Type} (host : Host ω κ)

/-! ## Subjects -/

/-- Where the templates of a subject are kept. -/
def storagePath (subject : Int32) : Bytes :=
  Path.join (Path.join (Path.join host.setup.dataRoot "users") (Bytes.ofInt subject.toInt)) "fpdata"

/-- What is told about a directory that is not to be had. -/
def directoryFailedEvent (path reason : Bytes) : Event where
  severity := .error
  id := "template_directory_failed"
  message := Message.storageDirectoryFailed
  fields := [.hashed "path" path, .text "error" reason]

/-- Makes the directory of a subject if need be, and tells the driver the subject. -/
def applySubject (subject : Int32) : Op ω κ Unit := do
  let path := host.storagePath subject
  match ← host.answer (.provideDirectory path) with
  | some reason => host.publish (directoryFailedEvent path reason)
  | none => let _ ← host.setActiveSubject subject path

/-- What is told about a start without a driver. -/
def degradedEvent : Event where
  category := .lifecycle
  severity := .warning
  id := "service_start_degraded"
  message := Message.driverUnavailable

/-- What the queue does to start the service. -/
def begin (subject : Int32) : Op ω κ Unit := do
  if (← host.acquire).isNone then host.publish degradedEvent
  host.applySubject subject

/-! ## Tasks -/

/-- What a task does. -/
def perform : Task κ → Op ω κ Unit
  | .startEnrollment caller sink request => host.startEnrollment caller sink request
  | .startAuthentication caller sink request => host.startAuthentication caller sink request
  | .startRemove caller sink request => host.startRemove caller sink request
  | .cancel kind caller => host.cancel kind caller
  | .rename subject id label => do
    if host.setup.hasTemplates then host.answer (.storeRename subject id label)
  | .begin subject => host.begin subject
  | .applySubject subject => host.applySubject subject
  | .driverEvent event => host.dispatch event
  | .callerDied caller => host.callerDied caller
  | .driverDied generation => host.driverDied generation
  | .lockoutExpired => host.lockoutExpired
  | .client task => host.client task

/-- What is told about a task that ended with a fault. -/
def taskFailedEvent (fault : Fault) : Event where
  severity := .error
  id := "serial_queue_task_failed"
  message := fault.message
  fields := [.text "exception" (match fault with
    | .coded _ => "fpc::Error"
    | .plain _ => "std::exception")]

/-- Performs a task and reports the fault that it may end with. -/
def runTask (task : Task κ) : Op ω κ Unit := do
  if let .error fault ← (host.perform task).attempt then host.publish (taskFailedEvent fault)

/-- The engine that runs the tasks of the system. -/
def engine : Engine (System ω κ) (Task κ) where
  queue := (·.queue)
  setQueue queue s := { s with queue }
  now := (·.clock)
  thread := (·.thread)
  run task s := ((host.runTask task).run s).2

/-- A task that has failed is reported, and that is all. -/
theorem run_task (task : Task κ) (s : System ω κ) :
    host.engine.run task s = ((host.perform task).run s).2 ∨
      ∃ fault, host.engine.run task s =
        ((host.publish (taskFailedEvent fault)).run ((host.perform task).run s).2).2 := by
  have hrun : host.engine.run task s = ((host.runTask task).run s).2 := rfl
  rw [hrun, runTask, Op.run_bind, Op.run_attempt]
  rcases (host.perform task).run s with ⟨fault | _, s'⟩
  · exact .inr ⟨fault, rfl⟩
  · exact .inl rfl

/-- Runs what is due on the running thread, and counts the tasks. -/
def runPending : Op ω κ Nat := ExceptT.mk fun s =>
  let (count, s) := host.engine.runPending host.patience s
  (.ok count, s)

/-- Runs at most `room` of the tasks that are due on the queue's own thread, if it has
    one. -/
def workThrough (room : Nat) : Op ω κ Unit := do
  if (← get).queue.running then
    Op.onThread .worker (modify fun s => host.engine.work room s)

/-- Runs what is due on the queue's own thread, if it has one. -/
def work : Op ω κ Unit := host.workThrough host.patience

/-- Starts the queue's own thread. -/
def startQueue : Op ω κ Unit := Op.onQueue (·.start)

/-- Stops the queue. -/
def stopQueue : Op ω κ Unit := do
  let thread := (← get).thread
  Op.onQueue (·.stop thread)

/-- Whether the running thread is marked as running tasks. -/
def onQueueThread : Op ω κ Bool := do
  let s ← get
  return s.queue.runsOn s.thread

/-- The queue's own thread ends after a task that has stopped the queue. -/
def endIfStopped : Op ω κ Unit :=
  Op.onQueue fun q => if q.stopping then { q with executing := none } else q

/-- The queue's own thread does what another one waits for. -/
def lend {α : Type} (op : Op ω κ α) : Op ω κ α := do
  let result ← Op.onThread .worker do
    modify fun s => { s with queue := s.queue.promote s.clock }
    op.attempt
  endIfStopped
  Op.settle result

/-- Waits for what never comes. There is a fault for whoever waits on a queue that has dropped what
    he waits for. But it is not told before everybody has let go of the promise of a result, and
    whoever waits holds on to it himself: he waits for good. Here the fault ends what he was doing,
    and nothing after that is of account. -/
def strand {α : Type} : Op ω κ α := do
  modify fun s => { s with stranded := true }
  throw (.coded .queueStopped)

/-- Runs an operation on the queue and waits for its result. That happens at once on a
    thread that is running tasks, or if the queue has no thread of its own; else behind
    the tasks that are ready, on the queue's own thread. That must not be the one that
    waits, and no task ahead may stop the queue. -/
def invoke {α : Type} (op : Op ω κ α) : Op ω κ α := do
  if (← onQueueThread) || !(← get).queue.running then op
  else if (← get).thread = .worker then strand
  else
    host.workThrough (← get).queue.ready.length
    if (← get).queue.running then lend op
    else
      endIfStopped
      strand

end Host

end Fingerprint
