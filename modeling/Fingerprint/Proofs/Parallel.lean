import Fingerprint.System

/-!
# Operations side by side

Two operations run side by side, each on a state of its own. From states that
are related they end alike, either with results that are related or with the
same fault, and leave states that are related again.

This goes through composition: what comes next need only be looked at for
results that are related.

* `Op.Agree`: two outcomes are alike;
* `Op.Parallel`: two operations are;
* `Op.Parallel.bind` and others, one for each way to compose operations.
-/

namespace Fingerprint

namespace Op

variable {ω ω' κ κ' α α' β β' : Type}

/-- Two outcomes are alike: the results are related, or the faults are the same. -/
inductive Agree (Q : α → α' → Prop) : Except Fault α → Except Fault α' → Prop
  | ok {a : α} {a' : α'} (h : Q a a') : Agree Q (.ok a) (.ok a')
  | error (fault : Fault) : Agree Q (.error fault) (.error fault)

theorem agree_eq_iff {outcome outcome' : Except Fault α} : Agree Eq outcome outcome' ↔ outcome = outcome' := by
  constructor
  · rintro (⟨rfl⟩ | _) <;> rfl
  · rintro rfl
    cases outcome with
    | ok a => exact .ok rfl
    | error fault => exact .error fault

/-- From related states two operations end alike, with results that are related by `Q`, and leave
    related states. -/
def Parallel (R : System ω κ → System ω' κ' → Prop) (Q : α → α' → Prop) (op : Op ω κ α) (op' : Op ω' κ' α') : Prop :=
  ∀ s s', R s s' → Agree Q (op.run s).1 (op'.run s').1 ∧ R (op.run s).2 (op'.run s').2

namespace Parallel

variable {R : System ω κ → System ω' κ' → Prop} {Q : α → α' → Prop} {P : β → β' → Prop}
  {op : Op ω κ α} {op' : Op ω' κ' α'}

theorem pure {a : α} {a' : α'} (h : Q a a') : Parallel R Q (Pure.pure a) (Pure.pure a') := fun _ _ hs => ⟨.ok h, hs⟩

/-- The same result on either side. -/
theorem result (a : α) : Parallel R Eq (Pure.pure a) (Pure.pure a) := pure rfl

theorem throw (fault : Fault) : Parallel R Q (MonadExcept.throw fault) (MonadExcept.throw fault) :=
  fun _ _ hs => ⟨.error fault, hs⟩

theorem bind {f : α → Op ω κ β} {f' : α' → Op ω' κ' β'} (h : Parallel R Q op op')
    (hf : ∀ a a', Q a a' → Parallel R P (f a) (f' a')) : Parallel R P (op >>= f) (op' >>= f') := by
  intro s s' hs
  obtain ⟨hagree, hafter⟩ := h s s' hs
  rw [run_bind, run_bind]
  rcases hrun : op.run s with ⟨outcome, t⟩
  rcases hrun' : op'.run s' with ⟨outcome', t'⟩
  rw [hrun, hrun'] at hagree hafter
  cases hagree with
  | ok ha => exact hf _ _ ha t t' hafter
  | error fault => exact ⟨.error fault, hafter⟩

/-- What comes next, where the results are the same. -/
theorem andThen {op' : Op ω' κ' α} {f : α → Op ω κ β} {f' : α → Op ω' κ' β'} (h : Parallel R Eq op op')
    (hf : ∀ a, Parallel R P (f a) (f' a)) : Parallel R P (op >>= f) (op' >>= f') :=
  h.bind fun a _ heq => heq ▸ hf a

theorem attempt {op' : Op ω' κ' α} (h : Parallel R Eq op op') : Parallel R Eq op.attempt op'.attempt := fun s s' hs =>
  ⟨.ok (agree_eq_iff.1 (h s s' hs).1), (h s s' hs).2⟩

theorem settle (outcome : Except Fault α) : Parallel R Eq (Op.settle outcome) (Op.settle outcome) := by
  cases outcome with
  | ok a => exact result a
  | error fault => exact throw fault

/-- Operations that begin by looking at the state. -/
theorem get_bind {f : System ω κ → Op ω κ α} {f' : System ω' κ' → Op ω' κ' α'}
    (hf : ∀ s s', R s s' → Parallel R Q (f s) (f' s')) : Parallel R Q (get >>= f) (get >>= f') :=
  fun s s' hs => hf s s' hs s s' hs

theorem set {s : System ω κ} {s' : System ω' κ'} (h : R s s') :
    Parallel R Eq (MonadStateOf.set s : Op ω κ PUnit) (MonadStateOf.set s' : Op ω' κ' PUnit) :=
  fun _ _ _ => ⟨.ok rfl, h⟩

theorem modified {f : System ω κ → System ω κ} {f' : System ω' κ' → System ω' κ'}
    (h : ∀ s s', R s s' → R (f s) (f' s')) :
    Parallel R Eq (modify f : Op ω κ PUnit) (modify f' : Op ω' κ' PUnit) :=
  fun s s' hs => ⟨.ok rfl, h s s' hs⟩

theorem either {c : Prop} [Decidable c] {op₁ : Op ω κ α} {op₁' : Op ω' κ' α'} (h : Parallel R Q op op')
    (h₁ : Parallel R Q op₁ op₁') : Parallel R Q (if c then op else op₁) (if c then op' else op₁') := by
  split
  · exact h
  · exact h₁

/-- Where it is the same thing that is asked in other words. -/
theorem either_of_iff {c c' : Prop} [Decidable c] [Decidable c'] {op₁ : Op ω κ α} {op₁' : Op ω' κ' α'} (hc : c' ↔ c)
    (h : Parallel R Q op op') (h₁ : Parallel R Q op₁ op₁') :
    Parallel R Q (if c then op else op₁) (if c' then op' else op₁') := by
  simp only [hc]
  exact h.either h₁

end Parallel

end Op

end Fingerprint
