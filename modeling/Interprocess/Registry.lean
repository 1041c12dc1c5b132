/-!
# Registries

A registry keeps entries under keys, at most one under each. `put` places an entry in front of the
others and takes away the one that its key had, `remove` takes it away, and `get?` looks for it. The
main statements are `get?_put` and `get?_remove`, which say what each key has afterwards.
-/

set_option autoImplicit false

namespace Interprocess

/-- Entries under keys. -/
structure Registry (κ α : Type) where
  /-- The keys with their entries. -/
  entries : List (κ × α) := []
  /-- No key occurs twice. -/
  nodup : (entries.map Prod.fst).Nodup := by exact List.nodup_nil

namespace Registry

variable {κ α : Type}

instance : EmptyCollection (Registry κ α) := ⟨{}⟩

instance : Inhabited (Registry κ α) := ⟨∅⟩

variable [DecidableEq κ]

/-- The entries of all keys but one. -/
def others (r : Registry κ α) (key : κ) : List (κ × α) :=
  r.entries.filter fun e => e.1 ≠ key

/-- The first entry of a key in a list. -/
def find? (key : κ) : List (κ × α) → Option α
  | [] => none
  | (first, a) :: es => if first = key then some a else find? key es

/-- The entry of a key. -/
def get? (r : Registry κ α) (key : κ) : Option α := find? key r.entries

/-- Without one key's entry no key occurs twice either. -/
theorem nodup_others (r : Registry κ α) (key : κ) : ((r.others key).map Prod.fst).Nodup :=
  r.nodup.sublist (List.filter_sublist.map Prod.fst)

/-- The other entries are under other keys. -/
theorem not_mem_others (r : Registry κ α) (key : κ) : key ∉ (r.others key).map Prod.fst := by
  intro h
  obtain ⟨e, mem, rfl⟩ := List.mem_map.1 h
  simp [others] at mem

/-- Takes the entry of a key away. -/
def remove (r : Registry κ α) (key : κ) : Registry κ α :=
  { entries := r.others key, nodup := r.nodup_others key }

/-- Places an entry under a key. -/
def put (r : Registry κ α) (key : κ) (a : α) : Registry κ α :=
  { entries := (key, a) :: r.others key
    nodup := List.nodup_cons.2 ⟨r.not_mem_others key, r.nodup_others key⟩ }

/-- Without the entries of one key, the other keys have what they had. -/
theorem find?_filter_ne (es : List (κ × α)) (key other : κ) :
    find? other (es.filter fun e => e.1 ≠ key) =
      if other = key then none else find? other es := by
  induction es with
  | nil => simp [find?]
  | cons e es ih =>
    obtain ⟨first, a⟩ := e
    by_cases same : first = key
    · rw [List.filter_cons_of_neg (by simpa using same), ih]
      by_cases out : other = key
      · rw [if_pos out, if_pos out]
      · rw [if_neg out, if_neg out, find?, if_neg fun eq => out (eq.symm.trans same)]
    · rw [List.filter_cons_of_pos (by simpa using same), find?, ih]
      by_cases out : other = key
      · rw [if_pos out, if_neg fun eq => same (eq.trans out), if_pos out]
      · rw [if_neg out, if_neg out, find?]

/-- A key that is removed has no entry, and every other key keeps its own. -/
theorem get?_remove (r : Registry κ α) (key other : κ) :
    (r.remove key).get? other = if other = key then none else r.get? other :=
  find?_filter_ne r.entries key other

/-- A key has the entry that was put last, and every other key keeps its own. -/
theorem get?_put (r : Registry κ α) (key other : κ) (a : α) :
    (r.put key a).get? other = if other = key then some a else r.get? other := by
  show (if key = other then some a else find? other (r.others key)) = _
  by_cases same : other = key
  · rw [if_pos same.symm, if_pos same]
  · rw [if_neg fun eq => same eq.symm, if_neg same, others, find?_filter_ne, if_neg same, get?]

end Registry

end Interprocess
