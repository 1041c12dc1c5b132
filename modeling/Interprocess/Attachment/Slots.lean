import Interprocess.Attachment.Basic

/-!
# Slots

The attachments of one kind lie in a row of slots, and a payload refers to them by slot number. A
slot that was emptied stays in the row, so the numbers of the others stay what they were. `Slots`
offers adding at the end, taking by number, taking the first that is left, and listing what is left.
The main statements say what each of them does to the row: `toList_push`, `toList_takeAt` and
`takeAt_fst`. `Attachments` holds the two rows of one message, and `Row` is either of them.
-/

set_option autoImplicit false

namespace Interprocess

/-- A row of slots, each filled or empty. -/
structure Slots (α : Type) where
  /-- The slots in order. -/
  cells : Array (Option α) := #[]
deriving DecidableEq, Repr

namespace Slots

variable {α : Type}

instance : Inhabited (Slots α) := ⟨{}⟩

/-- The slots in order, as a list. -/
def toList (s : Slots α) : List (Option α) := s.cells.toList

/-- The number of slots, the empty ones included. -/
def size (s : Slots α) : Nat := s.cells.size

/-- Whether there are no slots at all. -/
def isEmpty (s : Slots α) : Bool := s.cells.isEmpty

/-- A row whose slots are all filled. -/
def ofList (as : List α) : Slots α := { cells := (as.map some).toArray }

/-- Adds a filled slot at the end. -/
def push (s : Slots α) (a : α) : Slots α := { cells := s.cells.push (some a) }

/-- What lies in a slot, if the slot exists and is filled. -/
def get? (s : Slots α) (i : Nat) : Option α := s.cells[i]?.join

/-- Moves out what lies in a slot. -/
def takeAt (s : Slots α) (i : Nat) : Option α × Slots α :=
  match s.cells[i]? with
  | some (some a) => (some a, { cells := s.cells.setIfInBounds i none })
  | _ => (none, s)

/-- Moves out what lies in the first filled slot. -/
def takeFirst (s : Slots α) : Option α × Slots α :=
  match s.cells.findIdx? Option.isSome with
  | some i => s.takeAt i
  | none => (none, s)

/-- What lies in the filled slots, in slot order. -/
def remaining (s : Slots α) : List α := s.toList.filterMap id

/-- A row has as many slots as its list. -/
@[simp] theorem length_toList (s : Slots α) : s.toList.length = s.size := by
  simp [toList, size]

/-- A row is determined by the list of its slots. -/
theorem toList_inj {s t : Slots α} (same : s.toList = t.toList) : s = t :=
  congrArg mk (Array.toList_inj.1 same)

/-- The slots of a full row hold what it was made of. -/
@[simp] theorem toList_ofList (as : List α) : (ofList as).toList = as.map some := by
  simp [ofList, toList]

/-- A full row has a slot for each thing it was made of. -/
@[simp] theorem size_ofList (as : List α) : (ofList as).size = as.length := by
  rw [← length_toList, toList_ofList, List.length_map]

/-- What is added lies behind all other slots. -/
@[simp] theorem toList_push (s : Slots α) (a : α) : (s.push a).toList = s.toList ++ [some a] := by
  simp [push, toList]

/-- Adding makes one more slot. -/
@[simp] theorem size_push (s : Slots α) (a : α) : (s.push a).size = s.size + 1 := by
  simp [push, size]

/-- A slot that does not exist holds as little as an empty one. -/
theorem get?_eq (s : Slots α) (i : Nat) : s.get? i = s.toList[i]?.join := by
  simp [get?, toList]

/-- Taking by number hands out what the slot holds. -/
@[simp] theorem takeAt_fst (s : Slots α) (i : Nat) : (s.takeAt i).1 = s.get? i := by
  unfold takeAt get?
  match s.cells[i]? with
  | some (some a) => rfl
  | some none => rfl
  | none => rfl

/-- Taking by number empties that slot and leaves the others as they are. -/
@[simp] theorem toList_takeAt (s : Slots α) (i : Nat) :
    (s.takeAt i).2.toList = s.toList.set i none := by
  unfold takeAt
  split
  · simp [toList]
  · next other =>
    have same : s.toList[i]? = none ∨ s.toList[i]? = some none := by
      have cell : s.toList[i]? = s.cells[i]? := by simp [toList]
      rw [cell]
      match found : s.cells[i]? with
      | some (some a) => exact absurd found (other a)
      | some none => exact Or.inr rfl
      | none => exact Or.inl rfl
    apply List.ext_getElem?
    intro j
    rw [List.getElem?_set]
    split
    · next eq =>
      subst eq
      rcases same with outside | empty
      · have := List.getElem?_eq_none_iff.1 outside
        rw [if_neg (by omega), outside]
      · have inside := (List.getElem?_eq_some_iff.1 empty).1
        rw [if_pos inside, empty]
    · rfl

/-- An emptied slot still counts. -/
@[simp] theorem size_takeAt (s : Slots α) (i : Nat) : (s.takeAt i).2.size = s.size := by
  rw [← length_toList, toList_takeAt, List.length_set, length_toList]

/-- Taking the first that is left keeps all slots. -/
@[simp] theorem size_takeFirst (s : Slots α) : s.takeFirst.2.size = s.size := by
  unfold takeFirst
  split
  · exact s.size_takeAt _
  · rfl

end Slots

/-- The file handles and the ports of one message. -/
structure Attachments where
  /-- The file handles. -/
  handles : Slots Handle := {}
  /-- The ports. -/
  ports : Slots Port := {}
deriving DecidableEq, Repr

/-- The rows of slots that attachments have, by what lies in them. -/
inductive Row : Type → Type
  | handles : Row Handle
  | ports : Row Port

namespace Row

/-- The slots of a row. -/
def of : {α : Type} → Row α → Attachments → Slots α
  | _, handles, a => a.handles
  | _, ports, a => a.ports

/-- Attachments with other slots in a row. -/
def put : {α : Type} → Row α → Attachments → Slots α → Attachments
  | _, handles, a, s => { a with handles := s }
  | _, ports, a, s => { a with ports := s }

variable {α : Type}

/-- Moves out all that is left in a row, in slot order, together with the slots. -/
def takeAll (row : Row α) (a : Attachments) : List α × Attachments :=
  ((row.of a).remaining, row.put a {})

/-- Putting back what is there changes nothing. -/
@[simp] theorem put_of (row : Row α) (a : Attachments) : row.put a (row.of a) = a := by
  cases row <;> rfl

end Row

namespace Attachments

instance : EmptyCollection Attachments := ⟨{}⟩

instance : Inhabited Attachments := ⟨∅⟩

/-- Whether there is no slot of either kind; an emptied slot still counts. -/
def isEmpty (a : Attachments) : Bool := a.handles.isEmpty && a.ports.isEmpty

/-- Moves out all handles that are left, in slot order, together with their slots. -/
def takeHandles (a : Attachments) : List Handle × Attachments := Row.handles.takeAll a

/-- Moves out all ports that are left, in slot order, together with their slots. -/
def takePorts (a : Attachments) : List Port × Attachments := Row.ports.takeAll a

/-- Closes all that is left, each kind in slot order. -/
def close (a : Attachments) : Released :=
  Released.gather (a.ports.remaining.map Port.close) ++
    Released.gather (a.handles.remaining.map Handle.close)

/-- The numbers of slots as one line of text. -/
def describe (a : Attachments) : String :=
  s!"Attachments\x7bhandles:{a.handles.size}, ports:{a.ports.size}\x7d"

end Attachments

end Interprocess
