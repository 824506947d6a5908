import Fingerprint.Fault

/-!
# Liveness of callers

Who wants to know when a caller dies. A registration is a handle to one entry
of the table: whoever holds it can release it, which takes the entry out, and
it can be moved from one holder to another, which releases what that one held
before.

* `Liveness.register`: a new entry and its handle;
* `Registration.release`, `Registration.moveTo`: what holders do;
* `Liveness.entriesOf`: the entries of a caller, oldest first.
-/

namespace Fingerprint

/-- The identity of a caller. Zero names nobody. -/
abbrev CallerToken := UInt64

/-- One entry: whose death is waited for, and what is to be done then, if anything. -/
structure Watch (δ : Type) where
  id : Nat
  caller : CallerToken
  onDeath : Option δ
  deriving DecidableEq, Repr

/-- The handle to an entry of the table, or to none. A released handle still tells whose
    it was. -/
structure Registration where
  id : Option Nat := none
  caller : CallerToken := 0
  deriving DecidableEq, Repr

/-- The table of registrations. -/
structure Liveness (δ : Type) where
  /-- The entries, in the order in which they were made. -/
  entries : List (Watch δ) := []
  nextId : Nat := 1
  deriving DecidableEq, Repr

namespace Liveness

variable {δ : Type}

/-- Adds an entry for a caller, who must be somebody. -/
def register (table : Liveness δ) (caller : CallerToken) (onDeath : Option δ) :
    Except CodedError (Registration × Liveness δ) :=
  if caller = 0 then .error .invalidCaller
  else
    .ok (⟨some table.nextId, caller⟩,
      { entries := table.entries ++ [⟨table.nextId, caller, onDeath⟩], nextId := table.nextId + 1 })

/-- Takes an entry out. -/
def unregister (table : Liveness δ) (id : Nat) : Liveness δ :=
  { table with entries := table.entries.filter (·.id != id) }

/-- The entry with a number. -/
def find? (table : Liveness δ) (id : Nat) : Option (Watch δ) := table.entries.find? (·.id == id)

/-- The numbers of the entries of a caller, oldest first. -/
def entriesOf (table : Liveness δ) (caller : CallerToken) : List Nat :=
  (table.entries.filter (·.caller == caller)).map (·.id)

/-- Whether a caller has an entry. -/
def isRegistered (table : Liveness δ) (caller : CallerToken) : Bool :=
  table.entries.any (·.caller == caller)

/-- How many entries there are. -/
def size (table : Liveness δ) : Nat := table.entries.length

theorem mem_entriesOf {table : Liveness δ} {caller : CallerToken} {id : Nat} :
    id ∈ table.entriesOf caller ↔ ∃ watch ∈ table.entries, watch.caller = caller ∧ watch.id = id := by
  simp [entriesOf, and_assoc]

theorem mem_unregister {table : Liveness δ} {id : Nat} {watch : Watch δ} :
    watch ∈ (table.unregister id).entries ↔ watch ∈ table.entries ∧ watch.id ≠ id := by
  simp [unregister]

end Liveness

namespace Registration

variable {δ : Type}

/-- Whether the handle is one to an entry. -/
def active (r : Registration) : Bool := r.id.isSome

/-- Takes the entry of a handle out of the table. -/
def release (r : Registration) (table : Liveness δ) : Registration × Liveness δ :=
  match r.id with
  | none => (r, table)
  | some id => ({ r with id := none }, table.unregister id)

/-- Moves a handle to a holder of `held`, which is released. Gives what the new holder
    has then; the old one is left with no handle. -/
def moveTo (r : Registration) (held : Registration) (table : Liveness δ) : Registration × Liveness δ :=
  (r, (held.release table).2)

end Registration

end Fingerprint
