import Fingerprint.Rehearsal.Perform

/-!
# Reports

A rehearsal carries out the steps of a script one after the other, on the
thread of a client. If the queue has a thread of its own, it runs all that is
due behind each step. A step is reported with what it has given or failed
with, what was noted down meanwhile, and the state in which it has left the
system.

* `rehearse`: the reports of a script.
-/

namespace Fingerprint

namespace Rehearsal

/-- What came of a step. -/
structure Report where
  outcome : Except Fault Result
  /-- What was noted down by the thread of the script, oldest first. -/
  notes : List Entry
  /-- What was noted down by the queue's own thread, if it ever had one. -/
  workerNotes : Option (List Entry)
  /-- The state after the step. -/
  system : System Stage Errand

/-- How deep steps may be carried out within steps. -/
def maxDepth : Nat := 1000

/-- Carries out one step, and lets the queue's own thread run what is due. -/
def report (host : Host Stage Errand) (step : Step) (s : System Stage Errand) : Report :=
  let play : Play (Except Fault Result) := do
    let outcome ← (perform host step).attempt
    host.work
    return outcome
  let (outcome, s) := play.run { s with world := { s.world with notes := [], workerNotes := [] } }
  { outcome := match outcome with
      | .ok outcome => outcome
      | .error fault => .error fault
    notes := s.world.notes
    workerNotes := if s.queue.started then some s.world.workerNotes else none
    system := s }

/-- Carries out steps from a state on. -/
def reports (host : Host Stage Errand) : List Step → System Stage Errand → List Report
  | [], _ => []
  | step :: rest, s =>
    let first := report host step s
    first :: reports host rest first.system

/-- Carries out the steps of a script, behind those that set the stage. -/
def rehearse (setup : Setup) (stage : Stage) (settings steps : List Step) : List Report :=
  let host := scripted setup maxDepth
  let start : System Stage Errand := settings.foldl (fun s step => (report host step s).system) { world := stage }
  reports host steps start

end Rehearsal

end Fingerprint
