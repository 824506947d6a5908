/-!
# Tables

Tables are lists of keys with values, looked up by key from the front. The
queue keeps its due times in one, a file system its nodes and the bytes of its
files.
-/

namespace Fingerprint

variable {κ β : Type} [BEq κ] [LawfulBEq κ]

/-- Where entries are kept or dropped by their keys, so are the values of the keys. -/
theorem lookup_filter (table : List (κ × β)) (keep : κ → Bool) (key : κ) :
    (table.filter fun entry => keep entry.1).lookup key = if keep key then table.lookup key else none := by
  induction table with
  | nil => simp
  | cons entry table ih =>
    by_cases hkey : key = entry.1
    · subst hkey
      have hself (rest : List (κ × β)) : (entry :: rest).lookup entry.1 = some entry.2 := by
        rw [List.lookup_cons, BEq.rfl]
      rw [List.filter_cons]
      cases hkeep : keep entry.1 with
      | true => rw [if_pos rfl, if_pos rfl, hself, hself]
      | false => simpa [hkeep] using ih
    · have hskip (rest : List (κ × β)) : (entry :: rest).lookup key = rest.lookup key := by
        rw [List.lookup_cons, beq_false_of_ne hkey]
      rw [List.filter_cons, hskip, ← ih]
      split
      · rw [hskip]
      · rfl

/-- Where entries get other keys, a key has the value of the one key that it is given for. -/
theorem lookup_map_of_iff {rename : κ → κ} {old new : κ} {table : List (κ × β)}
    (h : ∀ entry ∈ table, rename entry.1 = new ↔ entry.1 = old) :
    (table.map fun entry => (rename entry.1, entry.2)).lookup new = table.lookup old := by
  induction table with
  | nil => rfl
  | cons entry table ih =>
    have hrest := ih fun other hother => h other (List.mem_cons_of_mem entry hother)
    have hentry := h entry List.mem_cons_self
    by_cases hold : entry.1 = old
    · rw [List.map_cons, List.lookup_cons, List.lookup_cons, hentry.2 hold, hold, BEq.rfl, BEq.rfl]
    · have hnew : rename entry.1 ≠ new := fun hnew => hold (hentry.1 hnew)
      rw [List.map_cons, List.lookup_cons, List.lookup_cons, beq_false_of_ne (Ne.symm hold),
        beq_false_of_ne (Ne.symm hnew)]
      exact hrest

end Fingerprint
