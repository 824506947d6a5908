import Fingerprint.Execution
import Fingerprint.Proofs.Triple
import Fingerprint.Proofs.View

/-!
# Records

What can be said about the coordinator whatever its host does. The
collaborators of a host may answer as they like, or fail, and post tasks; what
they must not do is have the coordinator start or end sessions before they
return. Of a host that keeps to this, a `Record` is what its world remembers:
the events published, the calls answered and the events that the driver has
told, oldest first, each with what the slots held at the time.

What an operation does is stated on views: `Record.Ensures` says what it ends
with and which view it leaves, from any state of a given view.

* `Record`;
* `Record.Ensures`, `Record.Yields`, and how they go through `bind`.
-/

namespace Fingerprint

/-- What the world of a host remembers, if the host keeps to itself: whoever answers a call
    or runs a client's task leaves alone what belongs to the coordinator, but that a sink
    and a client may have the driver acquired. Meanwhile the driver may tell events, and
    other events may be published. -/
structure Record {ω κ : Type} (host : Host ω κ) where
  history : ω → List Entry
  observe : ∀ (event : Event) (s : System ω κ),
    history (host.observe event s) = history s.world ++ [.published event s.slots]
  answer : ∀ (call : Call) (s : System ω κ),
    let v := (s.view history).log [.called call ((host.answer call).run s).1 s.slots s.speaker]
    let v' := ((host.answer call).run s).2.view history
    v.Kept v' ∧ (call.isSink = false → v.Logged v')
  client : ∀ (task : κ) (s : System ω κ),
    (s.view history).Kept (((host.client task).run s).2.view history)

namespace Record

variable {ω κ α β : Type} {host : Host ω κ} (record : Record host)

/-- From any state of the view `v`, an operation ends with an outcome and a view that
    satisfy `post`. -/
def Ensures (v : View κ) (op : Op ω κ α) (post : Except Fault α → View κ → Prop) : Prop :=
  ∀ s : System ω κ, s.view record.history = v → post (op.run s).1 ((op.run s).2.view record.history)

/-- From any state of the view `v`, an operation ends with a result and a view that
    satisfy `post`. -/
def Yields (v : View κ) (op : Op ω κ α) (post : α → View κ → Prop) : Prop :=
  record.Ensures v op fun outcome v' => ∃ a, outcome = .ok a ∧ post a v'

variable {record} {v : View κ} {op : Op ω κ α}

theorem Ensures.mono {post post' : Except Fault α → View κ → Prop} (h : record.Ensures v op post)
    (hpost : ∀ outcome v', post outcome v' → post' outcome v') : record.Ensures v op post' :=
  Op.Ensures.mono h hpost

theorem Yields.mono {post post' : α → View κ → Prop} (h : record.Yields v op post)
    (hpost : ∀ a v', post a v' → post' a v') : record.Yields v op post' :=
  Op.Yields.mono h hpost

theorem ensures_pure {a : α} {post : Except Fault α → View κ → Prop} (h : post (.ok a) v) :
    record.Ensures v (pure a) post :=
  Op.ensures_pure h

theorem ensures_throw {fault : Fault} {post : Except Fault α → View κ → Prop}
    (h : post (.error fault) v) : record.Ensures v (throw fault) post := by
  rintro s rfl
  exact h

/-- What comes next runs in the view left by what came before, unless that has failed. -/
theorem ensures_bind {f : α → Op ω κ β} {post : Except Fault β → View κ → Prop}
    (h : record.Ensures v op fun outcome v' =>
      match outcome with
      | .ok a => record.Ensures v' (f a) post
      | .error fault => post (.error fault) v') :
    record.Ensures v (op >>= f) post :=
  Op.ensures_bind h

theorem Yields.bind {f : α → Op ω κ β} {mid : α → View κ → Prop}
    {post : Except Fault β → View κ → Prop}
    (h : record.Yields v op mid) (hf : ∀ a v', mid a v' → record.Ensures v' (f a) post) :
    record.Ensures v (op >>= f) post :=
  Op.Yields.bind h hf

theorem yields_pure {a : α} {post : α → View κ → Prop} (h : post a v) :
    record.Yields v (pure a) post :=
  ensures_pure ⟨a, rfl, h⟩

theorem Yields.andThen {f : α → Op ω κ β} {mid : α → View κ → Prop} {post : β → View κ → Prop}
    (h : record.Yields v op mid) (hf : ∀ a v', mid a v' → record.Yields v' (f a) post) :
    record.Yields v (op >>= f) post :=
  h.bind hf

/-- What an operation does that begins by looking at the state. -/
theorem ensures_get {f : System ω κ → Op ω κ β} {post : Except Fault β → View κ → Prop}
    (h : ∀ s, s.view record.history = v → record.Ensures v (f s) post) :
    record.Ensures v (get >>= f) post :=
  Op.ensures_get h

theorem yields_get {f : System ω κ → Op ω κ β} {post : β → View κ → Prop}
    (h : ∀ s, s.view record.history = v → record.Yields v (f s) post) :
    record.Yields v (get >>= f) post :=
  ensures_get h

theorem ensures_modify {f : System ω κ → System ω κ} {post : Except Fault Unit → View κ → Prop}
    (h : ∀ s, s.view record.history = v → post (.ok ()) ((f s).view record.history)) :
    record.Ensures v (modify f) post :=
  Op.ensures_modify h

theorem yields_modify {f : System ω κ → System ω κ} {post : Unit → View κ → Prop}
    (h : ∀ s, s.view record.history = v → post () ((f s).view record.history)) :
    record.Yields v (modify f) post :=
  ensures_modify fun s hs => ⟨(), rfl, h s hs⟩

theorem ensures_ite {c : Prop} [Decidable c] {op' : Op ω κ α}
    {post : Except Fault α → View κ → Prop}
    (h : c → record.Ensures v op post) (h' : ¬c → record.Ensures v op' post) :
    record.Ensures v (if c then op else op') post :=
  Op.ensures_ite h h'

theorem yields_ite {c : Prop} [Decidable c] {op' : Op ω κ α} {post : α → View κ → Prop}
    (h : c → record.Yields v op post) (h' : ¬c → record.Yields v op' post) :
    record.Yields v (if c then op else op') post :=
  ensures_ite h h'

theorem Ensures.attempt {post : Except Fault α → View κ → Prop} (h : record.Ensures v op post) :
    record.Yields v op.attempt post :=
  Op.Ensures.attempt h

theorem Ensures.onBehalfOf {session : Nat} {post : Except Fault α → View κ → Prop}
    (h : record.Ensures { v with speaker := some session } op
      fun outcome v' => post outcome { v' with speaker := v.speaker }) :
    record.Ensures v (op.onBehalfOf session) post := by
  rintro s rfl
  have hop := h { s with speaker := some session } rfl
  have hrun : (op.onBehalfOf session).run s =
      ((op.run { s with speaker := some session }).1,
        { (op.run { s with speaker := some session }).2 with speaker := s.speaker }) :=
    Op.run_settle _ _
  rw [hrun]
  exact hop

theorem yields_publish (record : Record host) (v : View κ) (event : Event) :
    record.Yields v (host.publish event) fun _ v' => v' = v.log [.published event v.slots] := by
  rintro s rfl
  refine ⟨(), rfl, ?_⟩
  change ({ s with world := host.observe event s } : System ω κ).view record.history = _
  simp only [System.view, View.log, record.observe]

theorem ensures_answer (record : Record host) (v : View κ) (call : Call) :
    record.Ensures v (host.answer call) fun outcome v' =>
      (v.log [.called call outcome v.slots v.speaker]).Kept v' ∧
        (call.isSink = false → (v.log [.called call outcome v.slots v.speaker]).Logged v') := by
  rintro s rfl
  exact record.answer call s

theorem ensures_client (record : Record host) (v : View κ) (task : κ) :
    record.Ensures v (host.client task) fun _ v' => v.Kept v' := by
  rintro s rfl
  exact record.client task s

end Record

end Fingerprint
