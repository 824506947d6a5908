import Fingerprint.Proofs.Run

/-!
# A host that keeps a ledger

The plainest host of which there is a record: its world is the history itself,
and it answers by a rule what it is asked. It has no clients of its own.

* `Ledger.host`, `Ledger.record`;
* `Ledger.obliging`: the rule by which everything is accepted;
* `Ledger.perform`: a run of tasks.
-/

namespace Fingerprint

namespace Ledger

/-- Answers a call by a rule, and enters it in the ledger. -/
def answer (rule : (call : Call) → Except Fault call.Reply) (call : Call) :
    Op (List Entry) Empty call.Reply := do
  modify fun s => { s with world := s.world ++ [.called call (rule call) s.slots s.speaker] }
  Op.settle (rule call)

/-- The host that answers by a rule. -/
def host (setup : Setup) (rule : (call : Call) → Except Fault call.Reply) :
    Host (List Entry) Empty where
  setup
  answer := answer rule
  observe event s := s.world ++ [.published event s.slots]
  client task := nomatch task
  patience := 100

theorem run_answer (setup : Setup) (rule : (call : Call) → Except Fault call.Reply) (call : Call)
    (s : System (List Entry) Empty) :
    ((host setup rule).answer call).run s =
      (rule call, { s with world := s.world ++ [.called call (rule call) s.slots s.speaker] }) :=
  Op.run_settle _ _

/-- What the ledger says. -/
def record (setup : Setup) (rule : (call : Call) → Except Fault call.Reply) :
    Record (host setup rule) where
  history := id
  observe _ _ := rfl
  answer call s := by
    simp only [run_answer]
    exact ⟨.refl _, fun _ => .refl _⟩
  client task := nomatch task

/-- Everything is accepted. The registry hands out one driver, whose device has the number
    one. -/
def obliging : (call : Call) → Except Fault call.Reply
  | .acquire => .ok (some (0 : Handle))
  | .driver _ .openHal => .ok (1 : UInt64)
  | .driver _ .preEnroll | .driver _ .authenticatorId => .ok (0 : UInt64)
  | .driver _ (.linkToDeath _) | .driver _ .init => .ok ()
  | .driver _ (.enroll ..) | .driver _ .cancelEnroll => .ok (0 : Int)
  | .driver _ (.authenticate ..) | .driver _ .cancelAuthenticate => .ok (0 : Int)
  | .driver _ (.remove ..) | .driver _ (.setActiveSubject ..) => .ok (0 : Int)
  | .storeList _ => .ok ([] : List Template)
  | .canUseSensor .. => .ok true
  | .provideDirectory _ => .ok (none : Option Bytes)
  | .sink .. | .storeAdd .. | .storeRemove .. | .storeRename .. => .ok ()
  | .feedbackSuccess | .feedbackError | .checkPermission .. => .ok ()

/-- Everything is accepted, but that no sink takes an acquisition. -/
def deaf : (call : Call) → Except Fault call.Reply
  | .sink _ (.acquired ..) => .error (.plain "unreachable")
  | call => obliging call

/-- Performs tasks one after the other, from the start. -/
def perform (setup : Setup) (rule : (call : Call) → Except Fault call.Reply)
    (tasks : List (Task Empty)) : System (List Entry) Empty :=
  tasks.foldl (fun s task => (((host setup rule).perform task).run s).2) { world := [] }

/-- The tasks performed are a run. -/
theorem reachable_perform (setup : Setup) (rule : (call : Call) → Except Fault call.Reply)
    (tasks : List (Task Empty)) : (record setup rule).Reachable (perform setup rule tasks) := by
  have hfold (s) (h : (record setup rule).Reachable s) : (record setup rule).Reachable
      (tasks.foldl (fun s task => (((host setup rule).perform task).run s).2) s) := by
    induction tasks generalizing s with
    | nil => exact h
    | cons task tasks ih => exact ih _ (h.step (.performed task s))
  exact hfold _ (.fresh rfl)

end Ledger

end Fingerprint
