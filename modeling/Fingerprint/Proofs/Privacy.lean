import Mathlib.Logic.Equiv.Basic
import Fingerprint.Proofs.Ledger
import Fingerprint.Proofs.Twin

/-!
# What is told of callers

Two systems are used in the same way, but that callers have other tokens in one
of them. Policies know the callers by either token, and drivers, sinks and the
store make no difference.

Then all is the same in both: callers get the same answers, and the same is
asked of the driver, of sinks, the store and the feedback. Also the same is
told to observers, up to what is shown under its hash only. So nothing that
observers are shown depends on what token a caller has.

* `Entry.Alike`: what has happened in one system and in the other;
* `Host.Transcript`: all that is told and asked;
* `Host.Counterpart`: hosts that make no difference;
* `Host.Counterpart.keeps_callers_private`.
-/

namespace Fingerprint

variable {ω ω' κ κ' : Type}

/-! ## What is shown -/

/-- What is shown of two fields is the same. Values that are shown under their hashes may differ. -/
structure Field.Alike (field field' : Field) : Prop where
  key : field'.key = field.key
  privacy : field'.privacy = field.privacy
  numeric : field'.numeric = field.numeric
  value (h : field.privacy ≠ .hash) : field'.value = field.value

/-- What is shown of two events is the same. -/
structure Event.Alike (event event' : Event) : Prop where
  category : event'.category = event.category
  severity : event'.severity = event.severity
  id : event'.id = event.id
  message : event'.message = event.message
  fields : List.Forall₂ Field.Alike event.fields event'.fields

/-- Caller tokens are not shown. -/
theorem Event.Disguised.alike {ρ : Disguise κ κ'} {event event' : Event} (h : event.Disguised ρ event') :
    event.Alike event' where
  category := h.category
  severity := h.severity
  id := h.id
  message := h.message
  fields := h.fields.imp fun field field' hfield => by
    obtain ⟨hkey, hprivacy, hnumeric, hvalue⟩ := hfield.shown
    exact ⟨hkey, hprivacy, hnumeric, hvalue⟩

/-- The same has happened in two systems, with callers in disguise in one of them: an event was told of
    which the same is shown, the policy was asked about the caller by either token, or something
    else was asked in the same words. -/
inductive Entry.Alike (ρ : Disguise κ κ') : Entry → Entry → Prop
  | published {event event' : Event} (h : event.Alike event') (slots : Slots) :
    Alike ρ (.published event slots) (.published event' (slots.disguise ρ))
  | called {call : Call} (h : call.isForPolicy = false) (outcome : Except Fault call.Reply) (slots : Slots)
      (speaker : Option Nat) :
    Alike ρ (.called call outcome slots speaker) (.called call outcome (slots.disguise ρ) speaker)
  | checked (caller : CallerToken) (permission : Permission) (outcome : Except Fault Unit) (slots : Slots)
      (speaker : Option Nat) :
    Alike ρ (.called (.checkPermission caller permission) outcome slots speaker)
      (.called (.checkPermission (ρ.caller caller) permission) outcome (slots.disguise ρ) speaker)
  | consulted (caller : CallerToken) (package : Bytes) (outcome : Except Fault Bool) (slots : Slots)
      (speaker : Option Nat) :
    Alike ρ (.called (.canUseSensor caller package) outcome slots speaker)
      (.called (.canUseSensor (ρ.caller caller) package) outcome (slots.disguise ρ) speaker)
  | emitted (event : DriverEvent) : Alike ρ (.emitted event) (.emitted event)

/-! ## Transcripts -/

/-- What the world of a host has of all that is told to observers and asked of collaborators, whatever
    else goes on meanwhile. -/
structure Host.Transcript (host : Host ω κ) where
  history : ω → List Entry
  observe (event : Event) (s : System ω κ) :
    history (host.observe event s) = history s.world ++ [.published event s.slots]
  answer (call : Call) (s : System ω κ) : ∃ before after,
    history ((host.answer call).run s).2.world =
      history s.world ++ before ++ .called call ((host.answer call).run s).1 s.slots s.speaker :: after

/-- A record is a transcript. -/
def Record.transcript {host : Host ω κ} (record : Record host) : host.Transcript where
  history := record.history
  observe := record.observe
  answer call s := by
    obtain ⟨⟨connection, entries, -, hview, -⟩, -⟩ := (record.answer call s).1
    refine ⟨[], entries, (congrArg View.history hview).trans ?_⟩
    rw [List.append_nil]
    exact List.append_assoc ..

variable {host : Host ω κ} {host' : Host ω' κ'}

/-- Two worlds are related, and so far the same has happened in them. -/
def Host.Transcript.Alike (transcript : host.Transcript) (transcript' : host'.Transcript) (ρ : Disguise κ κ')
    (V : ω → ω' → Prop) (world : ω) (world' : ω') : Prop :=
  V world world' ∧ List.Forall₂ (Entry.Alike ρ) (transcript.history world) (transcript'.history world')

/-- Two hosts that make no difference between callers in disguise and others. What they keep for
    themselves is related by `V`. -/
structure Host.Counterpart (transcript : host.Transcript) (transcript' : host'.Transcript) (ρ : Disguise κ κ')
    (V : ω → ω' → Prop) : Prop where
  setup : host'.setup = host.setup
  patience : host'.patience = host.patience
  observe {event event' : Event} {s : System ω κ} {s' : System ω' κ'} (hevent : event.Disguised ρ event')
      (hs : s.Disguised ρ (transcript.Alike transcript' ρ V) s') :
    V (host.observe event s) (host'.observe event' s')
  answer (call : Call) (h : call.isForPolicy = false) :
    (host.answer call).Likewise ρ (transcript.Alike transcript' ρ V) (host'.answer call)
  checkPermission (caller : CallerToken) (permission : Permission) :
    Op.Likewise ρ (transcript.Alike transcript' ρ V) (host.answer (.checkPermission caller permission))
      (host'.answer (.checkPermission (ρ.caller caller) permission))
  canUseSensor (caller : CallerToken) (package : Bytes) :
    Op.Likewise ρ (transcript.Alike transcript' ρ V) (host.answer (.canUseSensor caller package) : Op ω κ Bool)
      (host'.answer (.canUseSensor (ρ.caller caller) package))
  client (task : κ) :
    (host.client task).Likewise ρ (transcript.Alike transcript' ρ V) (host'.client (ρ.client task))

namespace Host.Counterpart

variable {transcript : host.Transcript} {transcript' : host'.Transcript} {ρ : Disguise κ κ'} {V : ω → ω' → Prop}
  (h : Host.Counterpart transcript transcript' ρ V)

include h

/-- The same is told of callers in disguise. -/
theorem publish {event event' : Event} (hevent : event.Disguised ρ event') :
    (host.publish event).Likewise ρ (transcript.Alike transcript' ρ V) (host'.publish event') := by
  refine .modified ?_
  intro s s' hs
  have hkept := h.observe hevent hs
  obtain ⟨world, hworld⟩ := hs
  refine .intro _ ⟨hkept, ?_⟩
  rw [transcript.observe, transcript'.observe]
  exact List.rel_append hworld.2 (.cons (.published hevent.alike s.slots) .nil)

/-- The hosts are twins. -/
theorem twin : host.Twin host' ρ (transcript.Alike transcript' ρ V) where
  toLikeness := .of_answer h.setup h.publish (fun call hcall _ => h.answer call hcall) (fun _ => rfl) fun name callback => by
    rintro _ rfl
    rw [callback.fromDevice_device]
    exact h.answer _ rfl
  patience := h.patience
  checkPermission := h.checkPermission
  canUseSensor := h.canUseSensor
  client := h.client

/-- Whatever happens, in whatever order, the callers get the same answers under other tokens, and what
    has happened is the same but for these. What is shown of the events that were told is the
    same, and so is all that was asked of the driver, of sinks, of the store and of the
    feedback. -/
theorem keeps_callers_private {s : System ω κ} {s' : System ω' κ'}
    (hs : s.Disguised ρ (transcript.Alike transcript' ρ V) s') (occasions : List (Occasion κ)) :
    (host'.course (occasions.map (·.disguise ρ)) s').1 = (host.course occasions s).1 ∧
      ∃ world', V (host.course occasions s).2.world world' ∧
        (host'.course (occasions.map (·.disguise ρ)) s').2 = (host.course occasions s).2.disguise ρ world' ∧
        List.Forall₂ (Entry.Alike ρ) (transcript.history (host.course occasions s).2.world)
          (transcript'.history world') := by
  obtain ⟨hanswers, hend⟩ := h.twin.course occasions hs
  refine ⟨hanswers, ?_⟩
  generalize (host.course occasions s).2 = t at hend ⊢
  generalize (host'.course (occasions.map (·.disguise ρ)) s').2 = t' at hend ⊢
  obtain ⟨world', hkept, halike⟩ := hend
  exact ⟨world', hkept, rfl, halike⟩

end Host.Counterpart

/-! ## An exchange of callers -/

namespace Ledger

/-- Two hosts that answer by rules of which one says of callers in disguise what the other says of the
    callers. -/
theorem counterpart (setup : Setup) {rule rule' : (call : Call) → Except Fault call.Reply} {ρ : Disguise Empty Empty}
    (hrule : ∀ call, call.isForPolicy = false → rule' call = rule call)
    (hcheck : ∀ caller permission,
      rule' (.checkPermission (ρ.caller caller) permission) = rule (.checkPermission caller permission))
    (hallow : ∀ caller package, rule' (.canUseSensor (ρ.caller caller) package) = rule (.canUseSensor caller package)) :
    Host.Counterpart (record setup rule).transcript (record setup rule').transcript ρ fun _ _ => True where
  setup := rfl
  patience := rfl
  observe _ _ := trivial
  answer call hcall := by
    change Op.Likewise ρ _ (answer rule call) (answer rule' call)
    rw [answer, answer, hrule call hcall]
    exact .settled _ fun s _ hs => ⟨trivial, List.rel_append hs.2 (.cons (.called hcall _ s.slots s.speaker) .nil)⟩
  checkPermission caller permission := by
    change Op.Likewise ρ _ (answer rule (.checkPermission caller permission))
      (answer rule' (.checkPermission (ρ.caller caller) permission))
    rw [answer, answer, hcheck]
    exact .settled _ fun s _ hs => ⟨trivial, List.rel_append hs.2 (.cons (.checked _ _ _ s.slots s.speaker) .nil)⟩
  canUseSensor caller package := by
    change Op.Likewise ρ _ (answer rule (.canUseSensor caller package))
      (answer rule' (.canUseSensor (ρ.caller caller) package))
    rw [answer, answer, hallow]
    exact .settled _ fun s _ hs => ⟨trivial, List.rel_append hs.2 (.cons (.consulted _ _ _ s.slots s.speaker) .nil)⟩
  client task := task.elim

/-- Everything is accepted, but that one caller may do nothing. -/
def barring (outsider : CallerToken) : (call : Call) → Except Fault call.Reply
  | .checkPermission caller _ => if caller = outsider then .error (.coded .permissionDenied) else .ok ()
  | call => obliging call

end Ledger

/-- Two callers exchange their tokens. -/
def Disguise.exchange (caller other : CallerToken) (h : caller ≠ 0) (hother : other ≠ 0) : Disguise Empty Empty where
  caller := Equiv.swap caller other
  client := id
  injective := (Equiv.swap caller other).injective
  nobody := Equiv.swap_apply_of_ne_of_ne h.symm hother.symm

/-- One caller enrolls and dies meanwhile, another is not let in. -/
theorem Host.Counterpart.keeps_callers_private_of_exchange :
    let ρ := Disguise.exchange 1 2 (by decide) (by decide)
    let occasions : List (Occasion Empty) :=
      [.served (.enroll 1 (some "a") { subject := 7 }), .served (.enroll 2 (some "b") {}), .drained,
        .reported (.enrollResult 1 5 7 2), .callerDied 1, .drained]
    let s := ((Ledger.host {} (Ledger.barring 2)).course occasions { world := [] }).2
    let run' := (Ledger.host {} (Ledger.barring 1)).course (occasions.map (·.disguise ρ)) { world := [] }
    run'.1 = [.ok .nothing, .error (.coded .permissionDenied), .ok (.count 1), .ok .nothing, .ok .nothing, .ok (.count 2)] ∧
      ∃ world', run'.2 = s.disguise ρ world' ∧ List.Forall₂ (Entry.Alike ρ) s.world world' := by
  intro ρ occasions s run'
  have hcounterpart : Host.Counterpart (Ledger.record {} (Ledger.barring 2)).transcript
      (Ledger.record {} (Ledger.barring 1)).transcript ρ fun _ _ => True := by
    refine Ledger.counterpart {} (fun call hcall => ?_) (fun caller permission => ?_) fun _ _ => rfl
    · cases call <;> first | rfl | cases hcall
    · have hcaller : Equiv.swap (1 : CallerToken) 2 caller = 1 ↔ caller = 2 := by
        rw [Equiv.swap_apply_eq_iff, Equiv.swap_apply_left]
      change (if Equiv.swap (1 : CallerToken) 2 caller = 1 then _ else _) = if caller = 2 then _ else _
      simp only [hcaller]
      rfl
  have hstart : System.Disguised ρ ((Ledger.record {} (Ledger.barring 2)).transcript.Alike
      (Ledger.record {} (Ledger.barring 1)).transcript ρ fun _ _ => True) { world := [] } { world := [] } :=
    .intro [] ⟨trivial, .nil⟩
  obtain ⟨hanswers, world', -, hend, halike⟩ := hcounterpart.keeps_callers_private hstart occasions
  simp only [Record.transcript, Ledger.record, id_eq] at halike
  refine ⟨hanswers.trans ?_, world', hend, halike⟩
  decide +kernel

end Fingerprint
