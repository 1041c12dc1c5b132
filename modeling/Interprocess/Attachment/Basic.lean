import Interprocess.Text.Hex

/-!
# Attachments

Beside its bytes a message carries resources: file handles and ports. Each of them has one owner at
a time. What an owner lets go of is recorded as `Released`: the ports that were closed, in the order
of closing, and the handles that were closed. A port that was given up without closing is no longer
owned and is closed by nobody.
-/

set_option autoImplicit false

namespace Interprocess

/-- The name of a port, unique in the network of ports that connects processes. -/
structure PortName where
  /-- The more significant half. -/
  high : UInt64
  /-- The less significant half. -/
  low : UInt64
deriving DecidableEq, Repr

namespace PortName

/-- A name as text: both halves with all their digits. -/
def text (n : PortName) : String :=
  s!"{Hex.upper16 n.high}.{Hex.upper16 n.low}"

instance : Ord PortName := ⟨fun a b => (compare a.high b.high).then (compare a.low b.low)⟩

end PortName

/-- A file handle. Nobody asks after the closing of a handle that is not watched. -/
structure Handle where
  /-- The number that the handle is known by. -/
  id : Int
  /-- Whether the closing of the handle is reported. -/
  watched : Bool := true
deriving DecidableEq, Repr

/-- A reference to a port, which its owner has to close or to give up. -/
structure Port where
  /-- The name of the port. -/
  name : PortName
  /-- Whether the reference still has to be closed. -/
  owned : Bool := true
deriving DecidableEq, Repr

/-- What owners have let go of. -/
structure Released where
  /-- The closed ports, in the order of closing. -/
  ports : List PortName := []
  /-- The closed handles. -/
  handles : List Handle := []
deriving DecidableEq, Repr

namespace Released

instance : EmptyCollection Released := ⟨{}⟩

instance : Inhabited Released := ⟨∅⟩

instance : Append Released :=
  ⟨fun r s => { ports := r.ports ++ s.ports, handles := r.handles ++ s.handles }⟩

/-- What is let go of in two goes are the ports of both, in this order. -/
@[simp] theorem ports_append (r s : Released) : (r ++ s).ports = r.ports ++ s.ports := rfl

/-- What is let go of in two goes are the handles of both. -/
@[simp] theorem handles_append (r s : Released) : (r ++ s).handles = r.handles ++ s.handles := rfl

/-- Letting go of nothing first makes no difference. -/
@[simp] theorem empty_append (r : Released) : ∅ ++ r = r := rfl

/-- Letting go of nothing afterwards makes no difference. -/
@[simp] theorem append_empty (r : Released) : r ++ ∅ = r := by
  show Released.mk (r.ports ++ []) (r.handles ++ []) = r
  rw [List.append_nil, List.append_nil]

/-- How what is let go of is grouped makes no difference. -/
theorem append_assoc (r s t : Released) : r ++ s ++ t = r ++ (s ++ t) := by
  show Released.mk _ _ = Released.mk _ _
  simp

/-- All that a row of owners lets go of, one after the other. -/
def gather (rs : List Released) : Released :=
  rs.foldr (· ++ ·) ∅

/-- The numbers of the closed handles that are watched, in ascending order. -/
def watchedIds (r : Released) : List Int :=
  ((r.handles.filter Handle.watched).map Handle.id).mergeSort

end Released

/-- Closes a handle. -/
def Handle.close (h : Handle) : Released := { handles := [h] }

namespace Port

/-- Closes a port, unless it was given up. -/
def close (p : Port) : Released := if p.owned then { ports := [p.name] } else ∅

/-- Gives a port up, so that it is not closed. -/
def release (p : Port) : Port := { p with owned := false }

/-- A port as text. -/
def describe (p : Port) : String := s!"ScopedPort({p.name.text})"

end Port

end Interprocess
