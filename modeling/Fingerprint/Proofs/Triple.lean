import Fingerprint.System

/-!
# Operations seen through views

Most of what is said of an operation concerns a part of the system only, and
what the world remembers of it. A view maps a state to that part. From any
state of a given view, the operation ends with some outcome, and leaves some
view.

* `Op.Ensures`, `Op.Yields`, and how they go through `bind`.
-/

namespace Fingerprint

namespace Op

variable {ω κ α β V : Type} {view : System ω κ → V}

/-- From any state of the view `v`, an operation ends with an outcome and a view that
    satisfy `post`. -/
def Ensures (view : System ω κ → V) (v : V) (op : Op ω κ α) (post : Except Fault α → V → Prop) : Prop :=
  ∀ s, view s = v → post (op.run s).1 (view (op.run s).2)

/-- From any state of the view `v`, an operation ends with a result and a view that
    satisfy `post`. -/
def Yields (view : System ω κ → V) (v : V) (op : Op ω κ α) (post : α → V → Prop) : Prop :=
  Ensures view v op fun outcome v' => ∃ a, outcome = .ok a ∧ post a v'

variable {v : V} {op : Op ω κ α}

theorem Ensures.mono {post post' : Except Fault α → V → Prop} (h : Ensures view v op post)
    (hpost : ∀ outcome v', post outcome v' → post' outcome v') : Ensures view v op post' :=
  fun s hs => hpost _ _ (h s hs)

theorem Yields.mono {post post' : α → V → Prop} (h : Yields view v op post)
    (hpost : ∀ a v', post a v' → post' a v') : Yields view v op post' := by
  refine Ensures.mono h fun outcome v' => ?_
  rintro ⟨a, rfl, ha⟩
  exact ⟨a, rfl, hpost a v' ha⟩

theorem ensures_pure {a : α} {post : Except Fault α → V → Prop} (h : post (.ok a) v) :
    Ensures view v (pure a) post := by
  rintro s rfl
  exact h

theorem yields_pure {a : α} {post : α → V → Prop} (h : post a v) : Yields view v (pure a) post :=
  ensures_pure ⟨a, rfl, h⟩

/-- What comes next runs in the view left by what came before, unless that has failed. -/
theorem ensures_bind {f : α → Op ω κ β} {post : Except Fault β → V → Prop}
    (h : Ensures view v op fun outcome v' =>
      match outcome with
      | .ok a => Ensures view v' (f a) post
      | .error fault => post (.error fault) v') :
    Ensures view v (op >>= f) post := by
  intro s hs
  have hop := h s hs
  rw [run_bind]
  rcases hrun : op.run s with ⟨fault | a, s'⟩
  · simpa [hrun] using hop
  · rw [hrun] at hop
    exact hop s' rfl

theorem Yields.bind {f : α → Op ω κ β} {mid : α → V → Prop} {post : Except Fault β → V → Prop}
    (h : Yields view v op mid) (hf : ∀ a v', mid a v' → Ensures view v' (f a) post) :
    Ensures view v (op >>= f) post := by
  refine ensures_bind (Ensures.mono h fun outcome v' => ?_)
  rintro ⟨a, rfl, ha⟩
  exact hf a v' ha

theorem Yields.andThen {f : α → Op ω κ β} {mid : α → V → Prop} {post : β → V → Prop}
    (h : Yields view v op mid) (hf : ∀ a v', mid a v' → Yields view v' (f a) post) :
    Yields view v (op >>= f) post :=
  h.bind hf

/-- What an operation does that begins by looking at the state. -/
theorem ensures_get {f : System ω κ → Op ω κ β} {post : Except Fault β → V → Prop}
    (h : ∀ s, view s = v → Ensures view v (f s) post) : Ensures view v (get >>= f) post :=
  fun s hs => h s hs s hs

theorem ensures_modify {f : System ω κ → System ω κ} {post : Except Fault Unit → V → Prop}
    (h : ∀ s, view s = v → post (.ok ()) (view (f s))) : Ensures view v (modify f) post :=
  fun s hs => h s hs

theorem ensures_ite {c : Prop} [Decidable c] {op' : Op ω κ α} {post : Except Fault α → V → Prop}
    (h : c → Ensures view v op post) (h' : ¬c → Ensures view v op' post) :
    Ensures view v (if c then op else op') post := by
  split
  case isTrue hc => exact h hc
  case isFalse hc => exact h' hc

theorem Ensures.attempt {post : Except Fault α → V → Prop} (h : Ensures view v op post) :
    Yields view v op.attempt post :=
  fun s hs => ⟨_, rfl, h s hs⟩

end Op

end Fingerprint
