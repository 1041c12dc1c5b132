import Interprocess.Channel.Receive
import Mathlib.Data.List.Perm.Basic

/-!
# What is held, and what is let go of

File handles and ports lie in the slots of messages and of side lists, and in the parcels of
channels. `items` is what each of these holds, in any order that suits its closing. What a record of
closed attachments settles is fixed by `Released.Settles`: each owned attachment was closed once and
no other one. On top of it `Accounts before after released` says that nothing was lost or doubled:
what was held before is held afterwards or was let go of. The laws of slots and of closing are
proved here, and those of operations and channels in the next modules.
-/

set_option autoImplicit false

namespace Interprocess

/-- What accompanies messages and has one owner. -/
inductive Attachment
  | handle (h : Handle)
  | port (p : Port)
deriving DecidableEq

namespace Attachment

/-- Whether an attachment still has to be closed by its owner. -/
def isOwned : Attachment → Bool
  | handle _ => true
  | port p => p.owned

/-- Closes an attachment, unless it was given up. -/
def close : Attachment → Released
  | handle h => h.close
  | port p => p.close

end Attachment

/-! ## Closing -/

/-- The attachments that were closed. -/
def Released.items (r : Released) : List Attachment :=
  r.ports.map (fun name => .port { name }) ++ r.handles.map .handle

/-- A record of what was let go of settles some attachments: if all of them were owned, they were
closed, each as often as it is there, and nothing else was. -/
def Released.Settles (r : Released) (as : List Attachment) : Prop :=
  (∀ a ∈ as, a.isOwned) → List.Perm r.items as

namespace Released

/-- What two records say was closed is what each of them says. -/
theorem items_append (r s : Released) : List.Perm (r ++ s).items (r.items ++ s.items) := by
  rw [List.perm_iff_count]
  intro a
  simp only [items, ports_append, handles_append, List.map_append, List.count_append]
  omega

/-- Where there is nothing, nothing has to be closed. -/
theorem settles_nothing : (∅ : Released).Settles [] := fun _ => List.Perm.refl _

/-- Two records that settle their attachments settle all of them together. -/
theorem Settles.append {r s : Released} {as bs : List Attachment} (first : r.Settles as)
    (second : s.Settles bs) : (r ++ s).Settles (as ++ bs) := by
  intro owned
  have left := first fun a mem => owned a (List.mem_append_left _ mem)
  have right := second fun a mem => owned a (List.mem_append_right _ mem)
  exact (items_append r s).trans (left.append right)

/-- In which order attachments are listed does not matter for settling them. -/
theorem Settles.perm {r : Released} {as bs : List Attachment} (settles : r.Settles as)
    (same : List.Perm as bs) : r.Settles bs := by
  intro owned
  exact (settles fun a mem => owned a (same.mem_iff.1 mem)).trans same

/-- If closing each of some things settles what it holds, closing all settles what all hold. -/
theorem settles_gather {α : Type} {close : α → Released} {items : α → List Attachment}
    (each : ∀ x, (close x).Settles (items x)) (xs : List α) :
    (gather (xs.map close)).Settles (xs.flatMap items) := by
  induction xs with
  | nil => exact settles_nothing
  | cons x xs ih => exact (each x).append ih

/-- Closing a handle settles it. -/
theorem settles_close_handle (h : Handle) : h.close.Settles [.handle h] := fun _ => List.Perm.refl _

/-- Closing handles one after the other settles all of them. -/
theorem settles_handles (hs : List Handle) :
    (gather (hs.map Handle.close)).Settles (hs.map .handle) := by
  rw [List.map_eq_flatMap (f := Attachment.handle)]
  exact settles_gather settles_close_handle hs

/-- Closing a port settles it. -/
theorem settles_close_port (p : Port) : p.close.Settles [.port p] := by
  intro owned
  obtain ⟨name, here⟩ := p
  obtain rfl : here = true := by simpa [Attachment.isOwned] using owned
  exact List.Perm.refl _

/-- Closing ports one after the other settles all of them. -/
theorem settles_ports (ps : List Port) : (gather (ps.map Port.close)).Settles (ps.map .port) := by
  rw [List.map_eq_flatMap (f := Attachment.port)]
  exact settles_gather settles_close_port ps

/-- Handles are closed in order. -/
theorem gather_handles (hs : List Handle) : gather (hs.map Handle.close) = { handles := hs } := by
  induction hs with
  | nil => rfl
  | cons h hs ih =>
    rw [List.map_cons, gather, List.foldr_cons, ← gather, ih]
    rfl

/-- Ports are closed in order, those that were given up left out. -/
theorem gather_ports (ps : List Port) :
    gather (ps.map Port.close) = { ports := (ps.filter Port.owned).map Port.name } := by
  induction ps with
  | nil => rfl
  | cons p ps ih =>
    rw [List.map_cons, gather, List.foldr_cons, ← gather, ih, Port.close, List.filter_cons]
    by_cases owned : p.owned
    · rw [if_pos owned, if_pos owned]
      rfl
    · rw [if_neg owned, if_neg owned]
      rfl

end Released

/-- Closing an attachment settles it. -/
theorem Attachment.settles_close (a : Attachment) : a.close.Settles [a] := by
  cases a with
  | handle h => exact Released.settles_close_handle h
  | port p => exact Released.settles_close_port p

/-- Closes attachments one after the other. -/
def closeAll (as : List Attachment) : Released := .gather (as.map Attachment.close)

/-- Closing attachments one after the other settles all of them. -/
theorem settles_closeAll (as : List Attachment) : (closeAll as).Settles as := by
  have all := Released.settles_gather Attachment.settles_close as
  rwa [List.flatMap_singleton'] at all

/-! ## What lies in slots -/

namespace Slots

variable {α : Type}

/-- What is put into a new slot is left behind everything else. -/
@[simp] theorem remaining_push (s : Slots α) (a : α) :
    (s.push a).remaining = s.remaining ++ [a] := by
  simp [remaining]

/-- All that a row is filled with is left in it. -/
@[simp] theorem remaining_ofList (as : List α) : (ofList as).remaining = as := by
  simp [remaining]

/-- Nothing is left in a row without slots. -/
theorem remaining_of_isEmpty {s : Slots α} (empty : s.isEmpty) : s.remaining = [] := by
  have none : s.toList = [] := by simpa [isEmpty, toList] using empty
  rw [remaining, none]
  rfl

/-- Taking by number moves out what the slot holds, and nothing else. -/
theorem perm_takeAt (s : Slots α) (i : Nat) :
    List.Perm s.remaining ((s.takeAt i).1.toList ++ (s.takeAt i).2.remaining) := by
  rw [takeAt_fst, get?_eq, remaining, remaining, toList_takeAt]
  by_cases within : i < s.toList.length
  · have before := (List.getElem_cons_eraseIdx_perm within).symm.filterMap id
    have after := (List.set_perm_cons_eraseIdx within none).filterMap id
    rw [List.getElem?_eq_getElem within]
    refine before.trans ?_
    cases s.toList[i] with
    | none => exact after.symm
    | some a => exact after.symm.cons a
  · rw [List.getElem?_eq_none (Nat.le_of_not_lt within),
      List.set_eq_of_length_le (Nat.le_of_not_lt within)]
    exact List.Perm.refl _

/-- Taking the first that is left moves it out, and nothing else. -/
theorem perm_takeFirst (s : Slots α) :
    List.Perm s.remaining (s.takeFirst.1.toList ++ s.takeFirst.2.remaining) := by
  unfold takeFirst
  split
  · exact s.perm_takeAt _
  · exact List.Perm.refl _

end Slots

/-! ## What owners hold -/

/-- What is left in two rows of slots. -/
def Attachments.items (a : Attachments) : List Attachment :=
  a.ports.remaining.map .port ++ a.handles.remaining.map .handle

/-- What lies in a slot of a row, as an attachment. -/
def Row.attachment : {α : Type} → Row α → α → Attachment
  | _, handles => .handle
  | _, ports => .port

/-- What is moved out of a row is all that its slots lose, and nothing of the other row. -/
theorem Row.perm_put {α : Type} {row : Row α} {a : Attachments} {left : Slots α} {out : List α}
    (moved : List.Perm (row.of a).remaining (out ++ left.remaining)) :
    List.Perm a.items ((row.put a left).items ++ out.map row.attachment) := by
  have moved := moved.map row.attachment
  rw [List.perm_iff_count] at moved ⊢
  intro x
  have := moved x
  cases row with
  | handles | ports =>
    simp only [of, put, attachment, Attachments.items, List.count_append, List.map_append] at this ⊢
    omega

/-- Taking a row apart moves out all that was left in it. -/
theorem Row.perm_takeAll {α : Type} (row : Row α) (a : Attachments) :
    List.Perm a.items ((row.takeAll a).2.items ++ (row.takeAll a).1.map row.attachment) :=
  perm_put (List.Perm.of_eq (List.append_nil _).symm)

/-- Closing two rows of slots settles what is left in them. -/
theorem Attachments.settles_close (a : Attachments) : a.close.Settles a.items :=
  (Released.settles_ports a.ports.remaining).append (Released.settles_handles a.handles.remaining)

/-- What is left in the slots of a message. -/
def Message.items (m : Message) : List Attachment := m.attachments.items

/-- Closing a message settles what is left in it. -/
theorem Message.settles_close (m : Message) : m.close.Settles m.items := m.attachments.settles_close

/-- What is left in two rows of slots is closed, each kind in slot order. -/
theorem Attachments.close_eq (a : Attachments) :
    a.close =
      { ports := (a.ports.remaining.filter Port.owned).map Port.name
        handles := a.handles.remaining } := by
  rw [close, Released.gather_ports, Released.gather_handles]
  show Released.mk (_ ++ []) ([] ++ _) = _
  rw [List.append_nil, List.nil_append]

/-- What travels in a parcel. -/
def Parcel.items (p : Parcel) : List Attachment := p.ports.map .port ++ p.handles.map .handle

/-- A parcel closes its ports that were not given up and all its handles, in order. -/
theorem Parcel.close_eq (p : Parcel) :
    p.close = { ports := (p.ports.filter Port.owned).map Port.name, handles := p.handles } := by
  rw [close, Released.gather_ports, Released.gather_handles]
  show Released.mk ([] ++ _) (_ ++ []) = _
  rw [List.append_nil, List.nil_append]

/-- Closing a parcel settles what travels in it. -/
theorem Parcel.settles_close (p : Parcel) : p.close.Settles p.items :=
  ((Released.settles_handles p.handles).append (Released.settles_ports p.ports)).perm
    List.perm_append_comm

/-- Closing an inlet settles what is under way in its parcels. -/
theorem Inlet.settles_close (i : Inlet) : i.close.Settles (i.parcels.flatMap Parcel.items) :=
  Released.settles_gather Parcel.settles_close i.parcels

/-! ## Accounts -/

/-- What was held before is held afterwards or was let go of, and nothing else is held. -/
def Accounts (before after : List Attachment) (released : Released) : Prop :=
  ∃ gone, List.Perm before (after ++ gone) ∧ released.Settles gone

namespace Accounts

variable {before after : List Attachment} {released : Released}

/-- What is only moved is accounted for without closing anything. -/
theorem moved (same : List.Perm before after) : Accounts before after ∅ :=
  ⟨[], by rwa [List.append_nil], Released.settles_nothing⟩

/-- Where nothing is held afterwards, everything was closed. -/
theorem closed (settles : released.Settles before) : Accounts before [] released :=
  ⟨before, List.Perm.refl _, settles⟩

/-- What is held elsewhere stays there. -/
theorem within {before' after' : List Attachment} (accounts : Accounts before after released)
    (others : List Attachment)
    (first : ∀ a, before'.count a = before.count a + others.count a)
    (last : ∀ a, after'.count a = after.count a + others.count a) :
    Accounts before' after' released := by
  obtain ⟨gone, held, settles⟩ := accounts
  refine ⟨gone, ?_, settles⟩
  rw [List.perm_iff_count]
  intro a
  have same := held.count_eq a
  rw [List.count_append] at same ⊢
  have := first a
  have := last a
  omega

end Accounts

end Interprocess
