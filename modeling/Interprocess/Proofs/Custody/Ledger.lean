import Interprocess.Attachment.Slots
import Mathlib.Data.List.Basic

/-!
# Items that are numbered and taken once

A row of slots forgets: an emptied slot does not say what lay in it. `Ledger` is what an owner would
write down instead, the items in the order in which they were added, and the numbers of those that
were moved out. An item keeps its number, and a number is struck out at most once. `Deed` lists what
can be done to a row, `Slots.perform` does it to slots and `Ledger.enter` to the books. The main
statement is `Slots.Follows.perform`: whatever is done, the slots hold what the books say.
-/

set_option autoImplicit false

namespace Interprocess

/-- Items in the order in which they were added, and the numbers of those that were moved out. -/
structure Ledger (α : Type) where
  items : List α
  gone : List Nat
  /-- Only an item can be moved out. -/
  within : ∀ i ∈ gone, i < items.length
  /-- No item is moved out twice. -/
  once : gone.Nodup

/-- What can be done to a row of slots. -/
inductive Deed (α : Type)
  | add (as : List α)
  | takeAt (i : Nat)
  | takeFirst
  | clear

namespace Ledger

variable {α : Type}

instance : EmptyCollection (Ledger α) :=
  ⟨{ items := [], gone := [], within := List.forall_mem_nil _, once := List.nodup_nil }⟩

/-- The item of a number, unless it was moved out. -/
def holds (l : Ledger α) (i : Nat) : Option α := if i ∈ l.gone then none else l.items[i]?

/-- The lowest number whose item was not moved out. -/
def first? (l : Ledger α) : Option Nat :=
  (List.range l.items.length).find? fun i => (l.holds i).isSome

/-- The items that were not moved out, in the order of their numbers. -/
def left (l : Ledger α) : List α := (List.range l.items.length).filterMap l.holds

/-- An item that is there has a number of the row and was not moved out. -/
theorem lt_of_holds {l : Ledger α} {i : Nat} (there : (l.holds i).isSome) :
    i < l.items.length ∧ i ∉ l.gone := by
  unfold holds at there
  split at there
  · contradiction
  · next kept =>
    refine ⟨?_, kept⟩
    by_contra outside
    rw [List.getElem?_eq_none (Nat.le_of_not_lt outside)] at there
    contradiction

/-- Numbers that were not given out hold nothing. -/
theorem holds_of_le {l : Ledger α} {i : Nat} (outside : l.items.length ≤ i) : l.holds i = none := by
  rw [holds, List.getElem?_eq_none outside, ite_self]

/-- The first number is the lowest of those that hold an item. -/
theorem first?_eq_some_iff {l : Ledger α} {i : Nat} :
    l.first? = some i ↔ (l.holds i).isSome ∧ ∀ j < i, l.holds j = none := by
  unfold first?
  rw [List.find?_range_eq_some]
  constructor
  · rintro ⟨there, -, before⟩
    refine ⟨there, ?_⟩
    intro j lower
    simpa using before j lower
  · rintro ⟨there, before⟩
    refine ⟨there, List.mem_range.2 (lt_of_holds there).1, ?_⟩
    intro j lower
    simpa using before j lower

/-- There is no first number exactly if all items were moved out. -/
theorem first?_eq_none_iff {l : Ledger α} : l.first? = none ↔ ∀ i, l.holds i = none := by
  unfold first?
  rw [List.find?_range_eq_none]
  constructor
  · intro nothing i
    rcases Nat.lt_or_ge i l.items.length with inside | outside
    · simpa using nothing i inside
    · exact holds_of_le outside
  · intro nothing i _
    simpa using nothing i

/-- More items get the next numbers. -/
def add (l : Ledger α) (as : List α) : Ledger α where
  items := l.items ++ as
  gone := l.gone
  within := by
    intro i mem
    have := l.within i mem
    rw [List.length_append]
    omega
  once := l.once

/-- Strikes a number out if its item is still there. -/
def strike (l : Ledger α) (i : Nat) : Ledger α :=
  if there : (l.holds i).isSome then
    { items := l.items
      gone := i :: l.gone
      within := by
        intro j mem
        rcases List.mem_cons.1 mem with rfl | older
        · exact (lt_of_holds there).1
        · exact l.within j older
      once := List.nodup_cons.2 ⟨(lt_of_holds there).2, l.once⟩ }
  else l

/-- Enters a deed. -/
def enter (l : Ledger α) : Deed α → Ledger α
  | .add as => l.add as
  | .takeAt i => l.strike i
  | .takeFirst => l.first?.elim l l.strike
  | .clear => ∅

/-- New books hold nothing. -/
@[simp] theorem holds_empty (i : Nat) : (∅ : Ledger α).holds i = none := by
  have nothing : (∅ : Ledger α).gone = [] := rfl
  rw [holds, nothing, if_neg List.not_mem_nil]
  rfl

/-- New items are held under the next numbers, and the others keep theirs. -/
theorem holds_add (l : Ledger α) (as : List α) (i : Nat) :
    (l.add as).holds i =
      if i < l.items.length then l.holds i else as[i - l.items.length]? := by
  have new : (l.add as).holds i = if i ∈ l.gone then none else (l.items ++ as)[i]? := rfl
  rw [new, List.getElem?_append]
  by_cases inside : i < l.items.length
  · rw [if_pos inside, if_pos inside, holds]
  · have kept : i ∉ l.gone := fun mem => inside (l.within i mem)
    rw [if_neg inside, if_neg inside, if_neg kept]

/-- A number that is struck out stays in the books. -/
@[simp] theorem items_strike (l : Ledger α) (i : Nat) : (l.strike i).items = l.items := by
  unfold strike
  split <;> rfl

/-- Striking a number out concerns this number only. -/
theorem holds_strike (l : Ledger α) (i j : Nat) :
    (l.strike i).holds j = if j = i then none else l.holds j := by
  unfold strike
  split
  · by_cases same : j = i
    · rw [if_pos same, holds, if_pos (by simp [same])]
    · rw [if_neg same]
      simp [holds, same]
  · next missing =>
    split
    · next same =>
      subst same
      simpa using missing
    · rfl

/-- What was moved out before stays moved out. -/
theorem mem_gone_strike {l : Ledger α} {i j : Nat} (mem : j ∈ l.gone) : j ∈ (l.strike i).gone := by
  unfold strike
  split
  · exact List.mem_cons_of_mem i mem
  · exact mem

/-- Later books of the same row: nothing was taken back. -/
structure Continues (l later : Ledger α) : Prop where
  items : l.items <+: later.items
  gone : ∀ i ∈ l.gone, i ∈ later.gone

/-- Books continue themselves. -/
theorem Continues.refl (l : Ledger α) : l.Continues l := ⟨List.prefix_rfl, fun _ mem => mem⟩

/-- Later books of later books are later books. -/
theorem Continues.trans {k l m : Ledger α} (first : k.Continues l) (second : l.Continues m) :
    k.Continues m where
  items := first.items.trans second.items
  gone := fun i mem => second.gone i (first.gone i mem)

/-- Striking out takes nothing back. -/
theorem continues_strike (l : Ledger α) (i : Nat) : l.Continues (l.strike i) where
  items := by simp
  gone := fun _ mem => mem_gone_strike mem

/-- Only clearing a row begins new books. -/
theorem continues_enter (l : Ledger α) {d : Deed α} (keeps : d ≠ .clear) :
    l.Continues (l.enter d) := by
  cases d with
  | add as => exact ⟨List.prefix_append l.items as, fun _ mem => mem⟩
  | takeAt i => exact l.continues_strike i
  | takeFirst =>
    unfold enter
    cases l.first? with
    | none => exact .refl l
    | some i => exact l.continues_strike i
  | clear => contradiction

/-- Deeds that do not clear the row take nothing back. -/
theorem continues_foldl_enter (l : Ledger α) {ds : List (Deed α)} (keeps : .clear ∉ ds) :
    l.Continues (ds.foldl enter l) := by
  induction ds generalizing l with
  | nil => exact .refl l
  | cons d ds ih =>
    rw [List.mem_cons, not_or] at keeps
    obtain ⟨this, others⟩ := keeps
    exact (l.continues_enter fun eq => this eq.symm).trans (ih (l.enter d) others)

/-- An item stays under its number until that is struck out. -/
theorem Continues.holds {l later : Ledger α} (continues : l.Continues later) {i : Nat} {a : α}
    (item : l.items[i]? = some a) :
    later.holds i = if i ∈ later.gone then none else some a := by
  obtain ⟨more, longer⟩ := continues.items
  have inside := (List.getElem?_eq_some_iff.1 item).1
  rw [Ledger.holds, ← longer, List.getElem?_append_left inside, item]

end Ledger

namespace Slots

variable {α : Type}

/-- Does something to a row of slots. -/
def perform (s : Slots α) : Deed α → Slots α
  | .add as => { cells := s.cells ++ (as.map some).toArray }
  | .takeAt i => (s.takeAt i).2
  | .takeFirst => s.takeFirst.2
  | .clear => {}

/-- Taking by number empties this slot and leaves the others as they are. -/
theorem get?_takeAt (s : Slots α) (i j : Nat) :
    (s.takeAt i).2.get? j = if j = i then none else s.get? j := by
  rw [get?_eq, toList_takeAt, List.getElem?_set]
  by_cases same : j = i
  · rw [if_pos same.symm, if_pos same]
    split <;> rfl
  · rw [if_neg fun eq => same eq.symm, if_neg same, get?_eq]

/-- Taking out of an empty slot gives nothing and changes nothing. -/
theorem takeAt_of_get?_eq_none {s : Slots α} {i : Nat} (empty : s.get? i = none) :
    s.takeAt i = (none, s) := by
  unfold takeAt
  split
  · next found =>
    rw [get?, found] at empty
    contradiction
  · rfl

/-- A row without slots has none to count. -/
theorem size_of_isEmpty {s : Slots α} (empty : s.isEmpty) : s.size = 0 := by
  simpa [isEmpty, size] using empty

/-- Nothing lies in slots that do not exist. -/
theorem get?_of_size_le {s : Slots α} {i : Nat} (outside : s.size ≤ i) : s.get? i = none := by
  rw [get?_eq, List.getElem?_eq_none (by rwa [length_toList]), Option.join_none]

/-- What is added lies in the slots behind those that were there. -/
theorem get?_perform_add (s : Slots α) (as : List α) (i : Nat) :
    (s.perform (.add as)).get? i = if i < s.size then s.get? i else as[i - s.size]? := by
  have longer : (s.perform (.add as)).toList = s.toList ++ as.map some := by
    simp [perform, toList]
  rw [get?_eq, longer, List.getElem?_append, length_toList]
  by_cases inside : i < s.size
  · rw [if_pos inside, if_pos inside, get?_eq]
  · rw [if_neg inside, if_neg inside, List.getElem?_map]
    cases as[i - s.size]? with
    | none | some => rfl

/-- The first filled slot is the one with the lowest number. -/
theorem takeFirst_cases (s : Slots α) :
    (∃ i, (s.get? i).isSome ∧ (∀ j < i, s.get? j = none) ∧ s.takeFirst = s.takeAt i) ∨
      (∀ i, s.get? i = none) ∧ s.takeFirst = (none, s) := by
  have cell {i : Nat} (inside : i < s.cells.size) : s.get? i = s.cells[i] := by
    rw [get?, Array.getElem?_eq_getElem inside, Option.join_some]
  unfold takeFirst
  cases found : s.cells.findIdx? Option.isSome with
  | some i =>
    obtain ⟨inside, filled, before⟩ := Array.findIdx?_eq_some_iff_getElem.1 found
    refine Or.inl ⟨i, ?_, ?_, rfl⟩
    · rw [cell inside]
      exact filled
    · intro j lower
      rw [cell (Nat.lt_trans lower inside)]
      simpa using before j lower
  | none =>
    refine Or.inr ⟨?_, rfl⟩
    intro i
    rcases Nat.lt_or_ge i s.cells.size with inside | outside
    · rw [cell inside]
      simpa using Array.findIdx?_eq_none_iff.1 found s.cells[i] (Array.getElem_mem inside)
    · exact get?_of_size_le outside

/-- What is left, looked up slot by slot. -/
theorem remaining_eq (s : Slots α) : s.remaining = (List.range s.size).filterMap s.get? := by
  have cells : s.toList = (List.range s.size).map fun i => s.get? i := by
    apply List.ext_getElem
    · simp
    · intro i inside _
      rw [List.getElem_map, List.getElem_range, get?_eq, List.getElem?_eq_getElem inside,
        Option.join_some]
  rw [remaining, cells, List.filterMap_map]
  rfl

/-- A row of slots holds what its books say: a slot for each item, filled unless the item is
gone. -/
structure Follows (s : Slots α) (l : Ledger α) : Prop where
  size : s.size = l.items.length
  get? : ∀ i, s.get? i = l.holds i

/-- A row without slots follows new books. -/
theorem follows_empty : ({} : Slots α).Follows ∅ where
  size := rfl
  get? := by
    intro i
    rw [Ledger.holds_empty]
    exact get?_of_size_le (Nat.zero_le i)

variable {s : Slots α} {l : Ledger α}

/-- What is left in a row is what its books have left. -/
theorem Follows.remaining (follows : s.Follows l) : s.remaining = l.left := by
  rw [remaining_eq, Ledger.left, follows.size]
  exact List.filterMap_congr fun i _ => follows.get? i

/-- Taking by number is striking this number out. -/
theorem Follows.strike (follows : s.Follows l) (i : Nat) : (s.takeAt i).2.Follows (l.strike i) where
  size := by rw [size_takeAt, Ledger.items_strike, follows.size]
  get? := by
    intro j
    rw [get?_takeAt, Ledger.holds_strike, follows.get?]

/-- The slots and the books agree on which slot is the first that is filled. -/
theorem Follows.takeFirst (follows : s.Follows l) :
    s.takeFirst = l.first?.elim (none, s) fun i => (l.holds i, (s.takeAt i).2) := by
  rcases s.takeFirst_cases with ⟨i, there, before, taken⟩ | ⟨nothing, taken⟩
  · have first : l.first? = some i := by
      rw [Ledger.first?_eq_some_iff, ← follows.get?]
      refine ⟨there, ?_⟩
      intro j lower
      rw [← follows.get?, before j lower]
    rw [taken, first]
    exact Prod.ext ((s.takeAt_fst i).trans (follows.get? i)) rfl
  · have none : l.first? = none := by
      rw [Ledger.first?_eq_none_iff]
      intro i
      rw [← follows.get?, nothing i]
    rw [taken, none]
    rfl

/-- Whatever is done to a row, it holds what its books say. -/
theorem Follows.perform (follows : s.Follows l) (d : Deed α) : (s.perform d).Follows (l.enter d) := by
  cases d with
  | add as =>
    refine ⟨?_, ?_⟩
    · show (s.cells ++ (as.map some).toArray).size = (l.items ++ as).length
      have size : s.cells.size = l.items.length := follows.size
      simp [size]
    · intro i
      show _ = (l.add as).holds i
      rw [get?_perform_add, Ledger.holds_add, follows.size, follows.get?]
  | takeAt i => exact follows.strike i
  | takeFirst =>
    show s.takeFirst.2.Follows (l.first?.elim l l.strike)
    rw [follows.takeFirst]
    cases l.first? with
    | none => exact follows
    | some i => exact follows.strike i
  | clear => exact follows_empty

/-- A row goes on following its books through any deeds. -/
theorem Follows.foldl (follows : s.Follows l) (ds : List (Deed α)) :
    (ds.foldl Slots.perform s).Follows (ds.foldl Ledger.enter l) := by
  induction ds generalizing s l with
  | nil => exact follows
  | cons d ds ih => exact ih (follows.perform d)

end Slots

end Interprocess
