import Interprocess.Proofs.Custody.Rows
import Interprocess.Proofs.Message.Rewriting

/-!
# A row as an indexed list

Whatever is done to a message that came without attachments, each of its rows behaves like a list
whose items are looked up by number and moved out once. The books of the row say what it offers
(`Row.Serves`): an item is there under its number until that is struck out, and it is struck out
when the item is handed to the caller, by whichever of the two ways. The main statement is
`Row.indexed_once`.
-/

set_option autoImplicit false

namespace Interprocess

open Message (Operation)

/-- Slots that differ in one place, which is empty now. -/
structure Slots.Without {α : Type} (s : Slots α) (i : Nat) (t : Slots α) : Prop where
  size : t.size = s.size
  get? : ∀ j, t.get? j = if j = i then none else s.get? j

/-- Taking by number empties that slot only. -/
theorem Slots.without_takeAt {α : Type} (s : Slots α) (i : Nat) : s.Without i (s.takeAt i).2 :=
  ⟨s.size_takeAt i, s.get?_takeAt i⟩

namespace Row

variable {α : Type}

/-- What a row offers, said by its books. -/
structure Serves (row : Row α) (n : Message) (l : Ledger α) : Prop where
  size : (row.slots n).size = l.items.length
  lookup : ∀ i, (row.slots n).get? i = l.holds i
  /-- Reading the number of an item that is there moves this item out, and nothing else. -/
  found : ∀ (r : Reader) (a : α), r.message = n → 4 ≤ r.remaining → l.holds r.word.toNat = some a →
    ∃ t, (row.slots n).Without r.word.toNat t ∧
      row.consume.run r = .ok a { message := row.replace n t, place := r.place + 4 }
  missing : ∀ r : Reader, r.message = n → 4 ≤ r.remaining → l.holds r.word.toNat = none →
    row.consume.run r = .error (row.missing r.word.toNat) { message := n, place := r.place + 4 }
  /-- The next item to be taken is the one with the lowest number. -/
  first : ∀ i a, l.holds i = some a → (∀ j < i, l.holds j = none) →
    ∃ t, (row.slots n).Without i t ∧ row.take n = (some a, row.replace n t)
  exhausted : (row.take n).1 = none ↔ ∀ i, l.holds i = none
  untouched : (row.take n).1 = none → (row.take n).2 = n
  /-- A side list has all that was left, also when the other row was unpacked before. -/
  unpacked : (row.takeAll n.takeAttachments.1).1 = l.left
  unpacked_after : ∀ {β : Type} (other : Row β), other.kind ≠ row.kind →
    (row.takeAll (other.takeAll n.takeAttachments.1).2).1 = l.left
  bare : n.takeAttachments.2.attachments = ∅

/-- Taking one row apart does not change what the other row gives. -/
theorem takeAll_of_kind_ne {β : Type} {row : Row α} {other : Row β} (apart : other.kind ≠ row.kind)
    (a : Attachments) : (row.takeAll (other.takeAll a).2).1 = (row.takeAll a).1 := by
  cases row with
  | handles =>
    cases other with
    | handles => contradiction
    | ports => rfl
  | ports =>
    cases other with
    | handles => rfl
    | ports => contradiction

/-- A row whose slots hold what its books say offers what they say. -/
theorem serves_of_follows {row : Row α} {n : Message} {l : Ledger α}
    (follows : (row.slots n).Follows l) : row.Serves n l := by
  have left : (row.takeAll n.takeAttachments.1).1 = l.left :=
    follows.remaining
  have taken (i : Nat) (a : α) (there : l.holds i = some a) (lowest : ∀ j < i, l.holds j = none) :
      row.take n = (some a, row.replace n ((row.slots n).takeAt i).2) := by
    have first : l.first? = some i := by
      rw [Ledger.first?_eq_some_iff]
      exact ⟨Option.isSome_of_eq_some there, lowest⟩
    rw [take, follows.takeFirst, first]
    exact Prod.ext there rfl
  have nothing (none : ∀ i, l.holds i = none) : row.take n = (.none, n) := by
    rw [take, follows.takeFirst, Ledger.first?_eq_none_iff.2 none]
    exact Prod.ext rfl (row.replace_slots n)
  have exhausted : (row.take n).1 = none ↔ ∀ i, l.holds i = none := by
    constructor
    · intro out
      rw [← Ledger.first?_eq_none_iff]
      cases first : l.first? with
      | none => rfl
      | some i =>
        obtain ⟨there, lowest⟩ := Ledger.first?_eq_some_iff.1 first
        obtain ⟨a, there⟩ := Option.isSome_iff_exists.1 there
        rw [taken i a there lowest] at out
        contradiction
    · intro none
      rw [nothing none]
  refine ⟨follows.size, follows.get?, ?_, ?_, ?_, exhausted, ?_, left, ?_, rfl⟩
  · rintro r a rfl whole there
    refine ⟨_, (row.slots r.message).without_takeAt r.word.toNat, ?_⟩
    rw [run_consume, if_neg (Nat.not_lt.2 whole), follows.get?, there]
  · rintro r rfl whole none
    rw [run_consume, if_neg (Nat.not_lt.2 whole), follows.get?, none]
  · intro i a there lowest
    exact ⟨_, (row.slots n).without_takeAt i, taken i a there lowest⟩
  · intro out
    rw [nothing (exhausted.1 out)]
  · intro β other apart
    rw [takeAll_of_kind_ne apart, left]

/-! ## The books of a longer run -/

/-- One more operation enters its deed, if any, into the books. -/
theorem ledger_step (row : Row α) (m : Message) (ops : List Operation) (op : Operation) :
    row.ledger m (ops ++ [op]) =
      (row.deed (m.after ops) op).elim (row.ledger m ops) (row.ledger m ops).enter := by
  rw [ledger_append, deeds, deeds, List.append_nil]
  cases row.deed (m.after ops) op with
  | none | some d => rfl

/-- What is written gets the next number. -/
theorem ledger_write {row : Row α} {m n : Message} {ops : List Operation} {a : α}
    (written : (row.write a).run (m.after ops) = .ok () n) :
    row.ledger m (ops ++ [.write (row.field a)]) = (row.ledger m ops).add [a] := by
  have done : ((Operation.write (row.field a)).run (m.after ops)).1 =
      refusal ((row.write a).run (m.after ops)) := by
    cases row <;> rfl
  have deed : row.deed (m.after ops) (.write (row.field a)) = some (.add [a]) := by
    rw [Row.deed, done, written]
    cases row <;> rfl
  rw [ledger_step, deed]
  rfl

/-- Moving all out begins new books. -/
theorem ledger_takeAttachments (row : Row α) (m : Message) (ops : List Operation) :
    row.ledger m (ops ++ [.takeAttachments]) = ∅ := by
  rw [ledger_step]
  cases row <;> rfl

/-- The number of a slot stays where it was written. -/
theorem Placed.word {row : Row α} {a : α} {m n : Message} (placed : row.Placed a m n)
    (more : List Operation) :
    let r : Reader := { message := n.after more, place := m.payload.size }
    4 ≤ r.remaining ∧ r.word.toNat = (row.slots m).size := by
  intro r
  obtain ⟨behind, longer⟩ := n.lengthens_after more
  have payload : r.message.payload =
      m.payload ++ (wordRow (UInt32.ofNat (row.slots m).size) ++ behind) := by
    rw [← ByteArray.append_assoc, ← placed.payload]
    exact longer
  constructor
  · rw [Reader.remaining, payload, ByteArray.size_append, ByteArray.size_append, size_wordRow]
    show 4 ≤ m.payload.size + (4 + behind.size) - m.payload.size
    omega
  · have stands := extract_between m.payload (wordRow (UInt32.ofNat (row.slots m).size)) behind rfl
    rw [← payload] at stands
    have word : r.word = UInt32.ofNat (row.slots m).size := Reader.word_of_row stands
    rw [word]
    exact UInt32.toNat_ofNat_of_lt' placed.countable

/-! ## What is handed out -/

/-- Either nothing of a row is handed out and nothing struck out of its books, or the item of a
number that is there is handed out and this number struck out. -/
def Withdrawn (row : Row α) (l later : Ledger α) (handed : List Attachment) : Prop :=
  later.gone = l.gone ∧ (∀ a, row.attachment a ∉ handed) ∨
    ∃ i a, l.holds i = some a ∧ later.gone = i :: l.gone ∧ handed = [row.attachment a]

/-- Moving the first out that is left, as an operation. -/
def taking : {α : Type} → Row α → Operation
  | _, handles => .takeHandle
  | _, ports => .takePort

/-- Reading a field of a row hands out what lies in the slot whose number is read. -/
theorem handed_read (row : Row α) (n : Message) (place : Nat) :
    Operation.handed n (.read row.kind place) =
      ((Reader.mk n place).index?.bind (row.slots n).get?).toList.map row.attachment := by
  have fields : Operation.handed n (.read row.kind place) =
      Message.yields (fun a => [row.attachment a])
        (row.consume.run { message := n, place := place }) := by
    show Message.yields Field.attachments (row.kind.read.run { message := n, place := place }) = _
    rw [run_read]
    cases row.consume.run { message := n, place := place } with
    | ok a r => cases row <;> rfl
    | error e r => rfl
  rw [fields, run_consume]
  unfold Reader.index?
  split
  · rfl
  · show _ = ((row.slots n).get? (Reader.mk n place).word.toNat).toList.map row.attachment
    cases (row.slots n).get? (Reader.mk n place).word.toNat with
    | none | some a => rfl

/-- Taking the first that is left hands it out. -/
theorem handed_taking (row : Row α) (n : Message) :
    Operation.handed n row.taking = (row.take n).1.toList.map row.attachment := by
  cases row <;> rfl

/-- Reads of other fields hand out no attachment. -/
theorem handed_read_of_plain {kind : Field.Kind} (plain : kind ≠ .handle ∧ kind ≠ .port) (n : Message)
    (place : Nat) : Operation.handed n (.read kind place) = [] := by
  show Message.yields _ (kind.read.run { message := n, place := place }) = []
  cases read : kind.read.run { message := n, place := place } with
  | error e r => rfl
  | ok f r =>
    obtain ⟨-, ⟨handles, ports⟩, -⟩ := Reader.plain_read plain read
    show f.attachments = []
    rw [Field.attachments, handles, ports]
    rfl

/-- The two rows are read by fields of different kinds. -/
theorem kind_handles_ne_ports : handles.kind ≠ ports.kind := by
  intro same
  cases same

/-- Nothing of one row is among what is handed out of the other. -/
theorem not_mem_of_apart {β : Type} {row : Row α} {other : Row β} (apart : other.kind ≠ row.kind) (a : α)
    (bs : List β) : row.attachment a ∉ bs.map other.attachment := by
  intro mem
  obtain ⟨b, -, same⟩ := List.mem_map.1 mem
  cases row with
  | handles =>
    cases other with
    | handles => contradiction
    | ports => contradiction
  | ports =>
    cases other with
    | handles => contradiction
    | ports => contradiction

/-- An operation that hands out nothing of a row and at most adds to it strikes no item out. -/
theorem withdrawn_of_idle {row : Row α} {m : Message} {op : Operation} (l : Ledger α)
    (adds : ∀ d, row.meant m op = some d → ∃ as, d = .add as)
    (nothing : ∀ a, row.attachment a ∉ op.handed m) :
    row.Withdrawn l ((row.deed m op).elim l l.enter) (op.handed m) := by
  refine Or.inl ⟨?_, nothing⟩
  cases done : row.deed m op with
  | none => rfl
  | some d =>
    unfold deed at done
    split at done
    · obtain ⟨as, rfl⟩ := adds d done
      rfl
    · contradiction

/-- What lies under a number is struck out when it is handed out. -/
theorem withdrawn_strike {row : Row α} {l : Ledger α} (i : Nat) :
    row.Withdrawn l (l.strike i) ((l.holds i).toList.map row.attachment) := by
  cases there : l.holds i with
  | none =>
    refine Or.inl ⟨?_, fun a => List.not_mem_nil⟩
    rw [Ledger.strike, dif_neg (by simp [there])]
  | some a =>
    refine Or.inr ⟨i, a, there, ?_, rfl⟩
    rw [Ledger.strike, dif_pos (by simp [there])]

/-- Reading a field of a row strikes out what it hands out. -/
theorem withdrawn_read {row : Row α} {m : Message} {l : Ledger α} (follows : (row.slots m).Follows l)
    (place : Nat) :
    let op := Operation.read row.kind place
    row.Withdrawn l ((row.deed m op).elim l l.enter) (op.handed m) := by
  intro op
  have deed : row.deed m op = (Reader.mk m place).index?.map .takeAt := by cases row <;> rfl
  rw [handed_read, deed]
  cases (Reader.mk m place).index? with
  | none => exact Or.inl ⟨rfl, fun a => List.not_mem_nil⟩
  | some i =>
    rw [Option.bind_some, follows.get?]
    exact withdrawn_strike i

/-- Taking the first that is left strikes out what it hands out. -/
theorem withdrawn_taking {row : Row α} {m : Message} {l : Ledger α} (follows : (row.slots m).Follows l) :
    row.Withdrawn l ((row.deed m row.taking).elim l l.enter) (Operation.handed m row.taking) := by
  have deed : row.deed m row.taking = some .takeFirst := by cases row <;> rfl
  rw [handed_taking, deed, take, follows.takeFirst]
  show row.Withdrawn l (l.first?.elim l l.strike) _
  cases l.first? with
  | none => exact Or.inl ⟨rfl, fun a => List.not_mem_nil⟩
  | some i => exact withdrawn_strike i

/-- Whatever the operation, what is handed out of a row is struck out of its books. -/
theorem withdrawn_run {row : Row α} {m : Message} {l : Ledger α} (follows : (row.slots m).Follows l)
    {op : Operation} (kept : op ≠ .takeAttachments) :
    row.Withdrawn l ((row.deed m op).elim l l.enter) (op.handed m) := by
  -- an operation on one row hands nothing out of the other
  have elsewhere {β : Type} (other : Row β) {bs : List β} (apart : other.kind ≠ row.kind)
      (idle : row.meant m op = none) (handed : op.handed m = bs.map other.attachment) :
      row.Withdrawn l ((row.deed m op).elim l l.enter) (op.handed m) := by
    refine withdrawn_of_idle l (by simp [idle]) ?_
    intro a
    rw [handed]
    exact not_mem_of_apart apart a bs
  cases op with
  | read kind place =>
    cases kind with
    | handle =>
      cases row with
      | handles => exact withdrawn_read follows place
      | ports => exact elsewhere handles kind_handles_ne_ports rfl (handles.handed_read m place)
    | port =>
      cases row with
      | handles => exact elsewhere ports kind_handles_ne_ports.symm rfl (ports.handed_read m place)
      | ports => exact withdrawn_read follows place
    | u32 | i32 | u64 | i64 | bool | bytes | data | text =>
      refine withdrawn_of_idle l ?_ ?_
      · cases row <;> simp [meant]
      · intro a
        rw [handed_read_of_plain ⟨by simp, by simp⟩]
        exact List.not_mem_nil
  | takeHandle =>
    cases row with
    | handles => exact withdrawn_taking follows
    | ports => exact elsewhere handles kind_handles_ne_ports rfl (handles.handed_taking m)
  | takePort =>
    cases row with
    | handles => exact elsewhere ports kind_handles_ne_ports.symm rfl (ports.handed_taking m)
    | ports => exact withdrawn_taking follows
  | takeAttachments => contradiction
  | write f =>
    refine withdrawn_of_idle l ?_ fun a => List.not_mem_nil
    cases row <;> cases f <;> simp [meant]
  | _ =>
    refine withdrawn_of_idle l ?_ fun a => List.not_mem_nil
    cases row <;> simp [meant]

/-! ## Every run -/

/-- Let any operations be done with a message that came without attachments, in any order and with
any numbers in its payload. Then a row of it offers what its books say. What is written has the next
number, which stays where it was put into the payload. Moving all out begins new books. No other
operation takes a slot away, or hands out what is not struck out at the same time; none works on
both rows; and a row on which it does not work stays as it is. An item stays under its number until
this is struck out, and a number that was struck out stays so. -/
theorem indexed_once (row : Row α) {m : Message} (bare : m.attachments = ∅) (ops : List Operation) :
    let n := m.after ops
    let l := row.ledger m ops
    row.Serves n l ∧
      (∀ a n', (row.write a).run n = .ok () n' →
        row.ledger m (ops ++ [.write (row.field a)]) = l.add [a] ∧
          ∀ more, let r : Reader := { message := n'.after more, place := n.payload.size }
            4 ≤ r.remaining ∧ r.word.toNat = l.items.length) ∧
      row.ledger m (ops ++ [.takeAttachments]) = ∅ ∧
      (∀ op, op ≠ .takeAttachments →
        row.Withdrawn l (row.ledger m (ops ++ [op])) (op.handed n) ∧
          (row.slots n).size ≤ (row.slots (op.run n).2).size ∧
          (row.meant n op = none → row.slots (op.run n).2 = row.slots n) ∧
          (handles.meant n op = none ∨ ports.meant n op = none)) ∧
      ∀ more, .takeAttachments ∉ more →
        let later := row.ledger m (ops ++ more)
        (∀ i ∈ l.gone, i ∈ later.gone) ∧
          ∀ i a, l.items[i]? = some a → later.holds i = if i ∈ later.gone then none else some a := by
  intro n l
  have follows : (row.slots n).Follows l := row.follows_after bare ops
  have continues (more : List Operation) (kept : .takeAttachments ∉ more) :
      l.Continues (row.ledger m (ops ++ more)) := by
    rw [ledger_append]
    exact l.continues_foldl_enter (row.clear_not_mem_deeds n kept)
  refine ⟨serves_of_follows follows, ?_, row.ledger_takeAttachments m ops, ?_, ?_⟩
  · intro a n' written
    refine ⟨ledger_write written, ?_⟩
    intro more
    have word := (placed_of_write written).word more
    rwa [follows.size] at word
  · intro op kept
    refine ⟨?_, ?_, ?_, ?_⟩
    · rw [ledger_step]
      exact withdrawn_run follows kept
    · -- the books only grow, and there is a slot for each item
      have later := row.follows_after bare (ops ++ [op])
      have grown := (continues [op] (by simpa using kept.symm)).items.length_le
      rw [Message.after_append] at later
      rw [follows.size]
      exact later.size ▸ grown
    · intro idle
      rw [slots_run, deed, idle, ite_self]
      rfl
    · cases op with
      | takeAttachments => contradiction
      | write f => cases f <;> simp [meant]
      | read kind place => cases kind <;> simp [meant]
      | _ => simp [meant]
  · intro more kept later
    have continues := continues more kept
    exact ⟨continues.gone, fun i a item => continues.holds item⟩

/-- Two handles and a port are written, then a word that numbers no slot. The first handle is taken,
so its number finds nothing any more, and the other one is read under its own. -/
theorem indexed_once_out_of_order :
    let m : Message := .addressed 1 2 {}
    let ops : List Operation := [.write (.handle ⟨7, true⟩), .write (.port ⟨⟨1, 2⟩, true⟩),
      .write (.handle ⟨8, true⟩), .write (.u32 5), .takeHandle]
    let n := m.after ops
    m.attachments = ∅ ∧ (handles.ledger m ops).gone = [0] ∧
      Reader.readHandle.run { message := n } = .error (.missingHandle 0) { message := n, place := 4 } ∧
      (∃ t, Reader.readHandle.run { message := n, place := 8 } =
        .ok ⟨8, true⟩ { message := handles.replace n t, place := 12 }) ∧
      Reader.readHandle.run { message := n, place := 12 } =
        .error (.missingHandle 5) { message := n, place := 16 } ∧
      (n.takeAttachments.1.takeHandles.1) = [⟨8, true⟩] ∧
      (n.takeAttachments.1.takePorts.1) = [⟨⟨1, 2⟩, true⟩] := by
  intro m ops n
  obtain ⟨ofHandles, -⟩ := @indexed_once _ handles m rfl ops
  obtain ⟨ofPorts, -⟩ := @indexed_once _ ports m rfl ops
  have first : (Reader.mk n 0).word.toNat = 0 := by decide +kernel
  have last : (Reader.mk n 12).word.toNat = 5 := by decide +kernel
  refine ⟨rfl, by decide +kernel, ?_, ?_, ?_, ?_, ?_⟩
  · have read := ofHandles.missing { message := n } rfl (by decide +kernel) (by decide +kernel)
    rw [first] at read
    exact read
  · obtain ⟨t, -, read⟩ := ofHandles.found { message := n, place := 8 } ⟨8, true⟩ rfl
      (by decide +kernel) (by decide +kernel)
    exact ⟨t, read⟩
  · have read := ofHandles.missing { message := n, place := 12 } rfl (by decide +kernel)
      (by decide +kernel)
    rw [last] at read
    exact read
  · exact ofHandles.unpacked.trans (by decide +kernel)
  · exact ofPorts.unpacked.trans (by decide +kernel)

end Row

end Interprocess
