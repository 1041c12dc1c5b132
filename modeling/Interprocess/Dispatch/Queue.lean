import Interprocess.Message.Basic

/-!
# Pending messages

Messages that were received wait to be dispatched. The most urgent ones go first, and among equally
urgent ones the oldest. `PendingQueue` keeps one lane for each priority, so that a message only ever
waits behind those of its own lane and of more urgent ones.
-/

set_option autoImplicit false

namespace Interprocess

/-- The lane of a priority. -/
def Priority.lane : Priority → Fin 5
  | normal => 0
  | input => 1
  | vsync => 2
  | mediumHigh => 3
  | control => 4

/-- Received messages that wait to be dispatched. -/
structure PendingQueue where
  /-- The waiting messages of each priority, oldest first. -/
  lanes : Vector (List Message) 5 := Vector.replicate 5 []

namespace PendingQueue

/-- A queue in which nothing waits. -/
def empty : PendingQueue := {}

instance : Inhabited PendingQueue := ⟨empty⟩

/-- The messages of one priority, oldest first. -/
def lane (q : PendingQueue) (p : Priority) : List Message := q.lanes[p.lane]

/-- Replaces the messages of one priority. -/
def setLane (q : PendingQueue) (p : Priority) (ms : List Message) : PendingQueue :=
  { lanes := q.lanes.set p.lane ms }

/-- Adds a message behind the others of its priority. -/
def push (q : PendingQueue) (m : Message) : PendingQueue :=
  let p := m.flags.priority
  q.setLane p (q.lane p ++ [m])

/-- Takes the oldest message of the first priority, in the given order, that has any. -/
def popFrom (q : PendingQueue) : List Priority → Option (Message × PendingQueue)
  | [] => none
  | p :: ps =>
    match q.lane p with
    | m :: rest => some (m, q.setLane p rest)
    | [] => q.popFrom ps

/-- Takes the oldest message of the highest priority. -/
def pop (q : PendingQueue) : Option (Message × PendingQueue) :=
  q.popFrom Priority.all.reverse

/-- The number of messages that wait. -/
def size (q : PendingQueue) : Nat :=
  Priority.all.foldr (fun p n => (q.lane p).length + n) 0

/-- Whether nothing waits. -/
def isEmpty (q : PendingQueue) : Bool := Priority.all.all fun p => (q.lane p).isEmpty

/-- No message waits in any lane of an empty queue. -/
theorem lane_empty (p : Priority) : empty.lane p = [] := by
  cases p <;> rfl

/-- The lanes of different priorities are different lanes. -/
theorem lane_setLane (q : PendingQueue) (p r : Priority) (ms : List Message) :
    (q.setLane p ms).lane r = if r = p then ms else q.lane r := by
  unfold lane setLane
  by_cases same : r = p
  · subst same
    simp
  · have apart : p.lane ≠ r.lane := by
      cases p <;> cases r <;> first | exact absurd rfl same | decide
    simp [same, Fin.val_ne_of_ne apart]

end PendingQueue

end Interprocess
