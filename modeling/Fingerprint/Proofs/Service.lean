import Fingerprint.Proofs.Run
import Fingerprint.Proofs.Usage

/-!
# What callers do

Every way in which the queue and the service are used is a run: the requests
of callers, the running of tasks on either kind of thread, what the driver and
the machine tell, and the start and stop of the service. What holds of all
runs thus holds of everything that callers can do.

* `Record.IsRun`: what an operation does from any state is a run;
* `Record.carries_runs`: runs go through whatever uses are made of.
-/

namespace Fingerprint

variable {ω κ α : Type} {host : Host ω κ}

namespace Record

/-- What an operation does from any state is a run. -/
def IsRun (record : Record host) (op : Op ω κ α) : Prop := ∀ s, record.Runs s (op.run s).2

variable {record : Record host} {op : Op ω κ α}

theorem isRun_of_view_eq {s s' : System ω κ} (h : s'.view record.history = s.view record.history) :
    record.Runs s s' :=
  .single (.elsewhere (h ▸ View.Noted.refl _))

theorem isRun_of_along (h : ∀ v, record.Along View.Kept v op) : record.IsRun op :=
  fun s => .single (.elsewhere (h _ s rfl).1)

theorem along_preEnroll (record : Record host) (v : View κ) : record.Along View.Kept v host.preEnroll :=
  (record.yields_query v fun handle v' =>
    record.along_answer v' (.driver handle .preEnroll) rfl).along fun _ _ h => h

theorem along_authenticatorId (record : Record host) (v : View κ) :
    record.Along View.Kept v host.authenticatorId :=
  (record.yields_query v fun handle v' =>
    record.along_answer v' (.driver handle .authenticatorId) rfl).along fun _ _ h => h

/-- Runs go through whatever uses are made of. -/
theorem carries_runs (record : Record host) : host.Carries record.Runs where
  refl _ := .refl
  trans := .trans
  published h := isRun_of_along fun v => (record.yields_publish_note v _ h).along fun _ _ h => h.kept
  answered h := isRun_of_along fun v => (record.along_answer v _ (Call.isForSession_of_isEnquiry h)).kept
  performed task s := .single (.performed task s)
  preEnroll := isRun_of_along record.along_preEnroll
  authenticatorId := isRun_of_along record.along_authenticatorId
  posted _ _ := isRun_of_view_eq rfl
  managed _ _ _ _ _ := isRun_of_view_eq rfl
  stranded _ := isRun_of_view_eq rfl

theorem isRun_runTask (task : Task κ) : record.IsRun (host.runTask task) := record.carries_runs.runTask task

end Record

end Fingerprint
