import Interprocess.Proofs.Custody.Ledger
import Interprocess.Proofs.Custody.Operations
import Interprocess.Proofs.Message.Places

/-!
# The two rows of a message

A message has a row of slots for file handles and one for ports, and both are used alike: an
attachment is written into the next slot and its number into the payload, and it is moved out by a
number that is read from a payload, or because it is the first that is left. `Row` is either of the
two, `Row.deed` says what an operation does to it, and `Row.ledger` keeps the books of a whole run.
The main statement is `Row.indexed_once`.
-/

set_option autoImplicit false

namespace Interprocess

open Message (Operation)

/-! ## Messages over time -/

namespace Message

/-- A message as it comes into being: made by a caller or cut out of bytes. -/
inductive Fresh : Message → Prop
  | addressed (routing : Int32) (type : MessageType) (flags : Flags) :
      Fresh (addressed routing type flags)
  | constructing (routing : Int32) (type : MessageType) (flags : Flags) :
      Fresh (constructing routing type flags)
  | dispatchFailure (level : Level) : Fresh (dispatchFailure level)
  | reply (call : Message) (type : MessageType) : Fresh (call.reply type)
  | decoded {bs : ByteArray} {m : Message} : decode bs = .ok m → Fresh m

/-- A message comes into being without slots. -/
theorem Fresh.attachments {m : Message} (fresh : m.Fresh) : m.attachments = ∅ := by
  cases fresh with
  | addressed | constructing | dispatchFailure | reply => rfl
  | decoded accepted =>
    obtain ⟨header, footerStart, -, -, -, -, rfl⟩ := decode_eq_ok_iff.1 accepted
    rfl

/-- A word fills itself up. -/
theorem payload_extended_wordRow (m : Message) (x : UInt32) :
    (m.extended (wordRow x)).payload = m.payload ++ wordRow x := by
  have nothing : zeros (padding 4) = ByteArray.empty := rfl
  show m.payload ++ wordRow x ++ zeros (padding (wordRow x).size) = _
  rw [size_wordRow, nothing, ByteArray.append_empty]

/-- One message has the payload of another, and maybe more behind it. -/
def Lengthens (m n : Message) : Prop := ∃ bs, n.payload = m.payload ++ bs

/-- A message has its own payload. -/
theorem Lengthens.refl (m : Message) : m.Lengthens m := ⟨ByteArray.empty, by simp⟩

/-- What is behind a longer payload is behind the first one as well. -/
theorem Lengthens.trans {k m n : Message} (first : k.Lengthens m) (second : m.Lengthens n) :
    k.Lengthens n := by
  obtain ⟨bs, first⟩ := first
  obtain ⟨cs, second⟩ := second
  exact ⟨bs ++ cs, by rw [second, first, ByteArray.append_assoc]⟩

/-- The same payload has nothing more behind it. -/
theorem lengthens_of_eq {m n : Message} (same : n.payload = m.payload) : m.Lengthens n :=
  ⟨ByteArray.empty, by simp [same]⟩

/-- Content is added behind the payload. -/
theorem lengthens_extended (m : Message) (bs : ByteArray) : m.Lengthens (m.extended bs) :=
  ⟨bs ++ zeros (padding bs.size), ByteArray.append_assoc⟩

/-- Writing bytes takes nothing back from a payload. -/
theorem lengthens_writeAligned (bs : ByteArray) (m : Message) :
    m.Lengthens (leaving ((writeAligned bs).run m)) := by
  rw [run_writeAligned]
  split
  · exact m.lengthens_extended bs
  · exact m.lengthens_extended bs

/-- Writing bytes with their length takes nothing back from a payload. -/
theorem lengthens_writeData (bs : ByteArray) (m : Message) :
    m.Lengthens (leaving ((writeData bs).run m)) := by
  refine leaving_bind (R := Lengthens) Lengthens.trans ?_ ?_ m
  · intro n
    rw [run_liftNarrow]
    split <;> exact .refl n
  · intro x n
    exact leaving_bind (R := Lengthens) Lengthens.trans (lengthens_writeAligned _)
      (fun _ => lengthens_writeAligned bs) n

/-- Writing a field takes nothing back from a payload. -/
theorem lengthens_write (f : Field) (m : Message) : m.Lengthens (leaving (f.write.run m)) := by
  cases f with
  | u32 | i32 | u64 | i64 | bool | bytes => exact lengthens_writeAligned _ m
  | data | text => exact lengthens_writeData _ m
  | handle h =>
    show m.Lengthens (leaving ((writeHandle h).run m))
    rw [run_writeHandle]
    dsimp only
    split
    · exact .refl m
    split
    · exact m.lengthens_extended _
    · exact m.lengthens_extended _
  | port p =>
    show m.Lengthens (leaving ((writePort p).run m))
    rw [run_writePort]
    dsimp only
    split
    · split
      · exact m.lengthens_extended _
      · exact m.lengthens_extended _
    · exact .refl m

/-- No operation takes anything back from a payload. -/
theorem lengthens_run (m : Message) (op : Operation) : m.Lengthens (op.run m).2 := by
  cases op with
  | write f => exact lengthens_write f m
  | writeFooter bs =>
    refine lengthens_of_eq ?_
    show (leaving ((Message.writeFooter bs).run m)).payload = m.payload
    rw [run_writeFooter]
    split
    · rfl
    · split <;> rfl
  | readFooter buffer truncate =>
    refine lengthens_of_eq ?_
    show (leaving ((Message.readFooter buffer truncate).run m)).payload = m.payload
    rw [run_readFooter]
    split
    · rfl
    split
    · rfl
    split
    · split <;> rfl
    · rfl
  | read kind place => exact lengthens_of_eq (readsOnly_read kind { message := m, place }).payload
  | attachHandles hs =>
    refine lengthens_of_eq ?_
    show (leaving ((Message.attachHandles hs).run m)).payload = m.payload
    rw [run_attachHandles]
    split
    · rfl
    · split <;> rfl
  | attachPorts ps =>
    refine lengthens_of_eq ?_
    show (leaving ((Message.attachPorts ps).run m)).payload = m.payload
    rw [run_attachPorts]
    split <;> rfl
  | takeHandle | takePort | takeAttachments | setRelay | setRouting | setTransaction | setSeqno =>
    exact lengthens_of_eq rfl

/-- No run of operations takes anything back from a payload. -/
theorem lengthens_after (m : Message) (ops : List Operation) : m.Lengthens (m.after ops) :=
  after_of_run (fun n op longer => longer.trans (n.lengthens_run op)) (.refl m) ops

end Message

/-! ## Either row -/

/-- The slot number at a reader's place, if a whole word is there. -/
def Reader.index? (r : Reader) : Option Nat :=
  if r.remaining < 4 then none else some r.word.toNat

namespace Row

/-- What is attached, as a field. -/
def field : {α : Type} → Row α → α → Field
  | _, handles, h => .handle h
  | _, ports, p => .port p

/-- What is read out of a row. -/
def kind : {α : Type} → Row α → Field.Kind
  | _, handles => .handle
  | _, ports => .port

/-- Attaching what arrived beside the bytes, as an operation. -/
def attaching : {α : Type} → Row α → List α → Operation
  | _, handles, hs => .attachHandles hs
  | _, ports, ps => .attachPorts ps

/-- Attaches something and writes its slot number. -/
def write : {α : Type} → Row α → α → MessageM Unit
  | _, handles, h => Message.writeHandle h
  | _, ports, p => Message.writePort p

/-- Attaches what arrived beside the bytes. -/
def attach : {α : Type} → Row α → List α → MessageM Unit
  | _, handles, hs => Message.attachHandles hs
  | _, ports, ps => Message.attachPorts ps

variable {α : Type}

/-! ## What the operations do to a row -/

/-- A message into which something was written: its slot is the next one, and the payload ends with
the number of that slot. -/
structure Placed (row : Row α) (a : α) (m n : Message) : Prop where
  countable : (row.slots m).size < wordLimit
  payload : n.payload = m.payload ++ wordRow (UInt32.ofNat (row.slots m).size)
  attachments : n.attachments = row.put m.attachments ((row.slots m).push a)

/-- Something is placed in the row, or the attachments stay as they are. -/
theorem write_cases (row : Row α) (a : α) (m : Message) :
    (∃ n, (row.write a).run m = .ok () n ∧ row.Placed a m n) ∨
      ∃ e n, (row.write a).run m = .error e n ∧ n.attachments = m.attachments := by
  cases row with
  | handles =>
    show (∃ n, (Message.writeHandle a).run m = _ ∧ _) ∨ ∃ e n, (Message.writeHandle a).run m = _ ∧ _
    rw [Message.run_writeHandle]
    by_cases full : m.handleSlots ≥ descriptorLimit
    · exact Or.inr ⟨_, _, if_pos full, rfl⟩
    simp only [if_neg full]
    split
    · have small := Message.descriptorLimit_lt_wordLimit
      have slots : (handles.slots m).size = m.handleSlots := rfl
      exact Or.inl ⟨_, rfl, by omega, m.payload_extended_wordRow _, rfl⟩
    · exact Or.inr ⟨_, _, rfl, rfl⟩
  | ports =>
    show (∃ n, (Message.writePort a).run m = _ ∧ _) ∨ ∃ e n, (Message.writePort a).run m = _ ∧ _
    rw [Message.run_writePort]
    by_cases small : m.portSlots < wordLimit
    · simp only [if_pos small]
      split
      · exact Or.inl ⟨_, rfl, small, m.payload_extended_wordRow _, rfl⟩
      · exact Or.inr ⟨_, _, rfl, rfl⟩
    · exact Or.inr ⟨_, _, if_neg small, rfl⟩

/-- What is written without a refusal is placed in the row. -/
theorem placed_of_write {row : Row α} {a : α} {m n : Message}
    (written : (row.write a).run m = .ok () n) : row.Placed a m n := by
  rcases row.write_cases a m with ⟨n', run, placed⟩ | ⟨e, n', run, -⟩
  · rw [written] at run
    cases run
    exact placed
  · rw [written] at run
    cases run

/-- A refusal leaves all attachments as they are. -/
theorem attachments_of_write_error {row : Row α} {a : α} {m n : Message} {e : MessageError}
    (refused : (row.write a).run m = .error e n) : n.attachments = m.attachments := by
  rcases row.write_cases a m with ⟨n', run, -⟩ | ⟨e', n', run, same⟩
  · rw [refused] at run
    cases run
  · rw [refused] at run
    cases run
    exact same

/-- What arrived fills a row without slots, or the message stays as it is. -/
theorem attach_cases (row : Row α) (as : List α) (m : Message) :
    (∃ n, (row.attach as).run m = .ok () n ∧ (row.slots m).size = 0 ∧
        n.attachments = row.put m.attachments (.ofList as)) ∨
      ∃ e, (row.attach as).run m = .error e m := by
  cases row with
  | handles =>
    show (∃ n, (Message.attachHandles as).run m = _ ∧ _) ∨ ∃ e, (Message.attachHandles as).run m = _
    rw [Message.run_attachHandles]
    by_cases empty : m.attachments.handles.isEmpty
    · rw [if_neg (by simp [empty])]
      split
      · exact Or.inr ⟨_, rfl⟩
      · exact Or.inl ⟨_, rfl, Slots.size_of_isEmpty empty, rfl⟩
    · exact Or.inr ⟨_, if_pos (by simp [empty])⟩
  | ports =>
    show (∃ n, (Message.attachPorts as).run m = _ ∧ _) ∨ ∃ e, (Message.attachPorts as).run m = _
    rw [Message.run_attachPorts]
    by_cases empty : m.attachments.ports.isEmpty
    · exact Or.inl ⟨_, if_neg (by simp [empty]), Slots.size_of_isEmpty empty, rfl⟩
    · exact Or.inr ⟨_, if_pos (by simp [empty])⟩

/-! ## Deeds -/

/-- What an operation is to do to a row. A read that finds no number does nothing. -/
def meant : {α : Type} → Row α → Message → Operation → Option (Deed α)
  | _, handles, m, op =>
    match op with
    | .write (.handle h) => some (.add [h])
    | .attachHandles hs => some (.add hs)
    | .read .handle place => (Reader.mk m place).index?.map .takeAt
    | .takeHandle => some .takeFirst
    | .takeAttachments => some .clear
    | _ => none
  | _, ports, m, op =>
    match op with
    | .write (.port p) => some (.add [p])
    | .attachPorts ps => some (.add ps)
    | .read .port place => (Reader.mk m place).index?.map .takeAt
    | .takePort => some .takeFirst
    | .takeAttachments => some .clear
    | _ => none

/-- What an operation does to a row: what it is to do, unless it is refused. -/
def deed (row : Row α) (m : Message) (op : Operation) : Option (Deed α) :=
  if (op.run m).1.isNone then row.meant m op else none

/-- What operations do to a row, one after the other. -/
def deeds (row : Row α) (m : Message) : List Operation → List (Deed α)
  | [] => []
  | op :: ops => (row.deed m op).toList ++ row.deeds (op.run m).2 ops

/-- The books of a row over a run of operations. -/
def ledger (row : Row α) (m : Message) (ops : List Operation) : Ledger α :=
  (row.deeds m ops).foldl Ledger.enter ∅

/-- An operation that is not meant for a row and leaves all attachments as they are. -/
theorem slots_of_idle {row : Row α} {m : Message} {op : Operation} (idle : row.meant m op = none)
    (same : (op.run m).2.attachments = m.attachments) :
    row.slots (op.run m).2 = (row.deed m op).elim (row.slots m) (row.slots m).perform := by
  rw [deed, idle, ite_self]
  exact congrArg row.of same

/-- An operation that is refused without a change to the attachments, or does to the row what it is
meant to do. -/
theorem slots_of_step {row : Row α} {m : Message} {op : Operation} (step : MessageM Unit)
    (runs : op.run m = (refusal (step.run m), leaving (step.run m)))
    (done : ∀ n, step.run m = .ok () n →
      row.slots n = (row.meant m op).elim (row.slots m) (row.slots m).perform)
    (refused : ∀ e n, step.run m = .error e n → n.attachments = m.attachments) :
    row.slots (op.run m).2 = (row.deed m op).elim (row.slots m) (row.slots m).perform := by
  rw [deed, runs]
  cases result : step.run m with
  | ok u n => exact done n result
  | error e n => exact congrArg row.of (refused e n result)

/-- What is placed in one row is seen there, and not in the other row. -/
theorem slots_placed {β : Type} {source : Row β} {row : Row α} {b : β} {m n : Message}
    (placed : source.Placed b m n) :
    row.slots n =
      (row.meant m (.write (source.field b))).elim (row.slots m) (row.slots m).perform := by
  have here (s : Slots β) (b : β) : s.push b = s.perform (.add [b]) :=
    congrArg Slots.mk Array.push_eq_append
  rw [slots, placed.attachments, here]
  cases source with
  | handles => cases row <;> rfl
  | ports => cases row <;> rfl

/-- What arrived for one row is seen there, and not in the other row. -/
theorem slots_attached {β : Type} {source : Row β} {row : Row α} {bs : List β} {m n : Message}
    (bare : (source.slots m).size = 0)
    (attached : n.attachments = source.put m.attachments (.ofList bs)) :
    row.slots n =
      (row.meant m (source.attaching bs)).elim (row.slots m) (row.slots m).perform := by
  have none : (source.slots m).cells = #[] := Array.eq_empty_of_size_eq_zero bare
  have here : Slots.ofList bs = (source.slots m).perform (.add bs) := by
    show Slots.mk _ = Slots.mk ((source.slots m).cells ++ (bs.map some).toArray)
    rw [none, Array.empty_append]
  rw [slots, attached, here]
  cases source with
  | handles => cases row <;> rfl
  | ports => cases row <;> rfl

/-- Writing a field does to a row what it is meant to do, unless it is refused. -/
theorem slots_write (row : Row α) (m : Message) (f : Field) :
    let op := Operation.write f
    row.slots (op.run m).2 = (row.deed m op).elim (row.slots m) (row.slots m).perform := by
  intro op
  cases f with
  | u32 | i32 | u64 | i64 | bool | bytes =>
    refine slots_of_idle ?_ (Message.writesOnly_writeAligned _ m).1
    cases row <;> rfl
  | data | text =>
    refine slots_of_idle ?_ (Message.writesOnly_writeData _ m).1
    cases row <;> rfl
  | handle h =>
    refine slots_of_step (handles.write h) rfl ?_ ?_
    · intro n run
      exact slots_placed (placed_of_write run)
    · intro e n run
      exact attachments_of_write_error run
  | port p =>
    refine slots_of_step (ports.write p) rfl ?_ ?_
    · intro n run
      exact slots_placed (placed_of_write run)
    · intro e n run
      exact attachments_of_write_error run

/-- Reads of other fields than attachments leave the message as it is. -/
theorem untouched_read {kind : Field.Kind} (handle : kind ≠ .handle) (port : kind ≠ .port) :
    Message.Untouched kind.read := by
  have whole {β : Type} {step : ReadM β} (untouched : Message.Untouched step) (g : β → Field) :
      Message.Untouched (do return g (← step)) :=
    Message.untouched_bind untouched fun b => Message.untouched_pure (g b)
  have readI32 : Message.Untouched Reader.readI32 :=
    Message.untouched_bind Message.untouched_readU32 fun _ => Message.untouched_pure _
  have readI64 : Message.Untouched Reader.readI64 :=
    Message.untouched_bind Message.untouched_readU64 fun _ => Message.untouched_pure _
  cases kind with
  | u32 => exact whole Message.untouched_readU32 _
  | i32 => exact whole readI32 _
  | u64 => exact whole Message.untouched_readU64 _
  | i64 => exact whole readI64 _
  | bool => exact whole Message.untouched_readBool _
  | bytes length => exact whole (Message.untouched_readBytes length) _
  | data => exact whole Message.untouched_readData _
  | text => exact whole Message.untouched_readText _
  | handle => contradiction
  | port => contradiction

/-- A slot that is looked up is empty afterwards, whether it was filled or not. -/
theorem leaving_consume (row : Row α) (r : Reader) :
    (leaving (row.consume.run r)).message =
      r.index?.elim r.message fun i =>
        row.replace r.message ((row.slots r.message).takeAt i).2 := by
  rw [run_consume]
  unfold Reader.index?
  split
  · rfl
  · show _ = row.replace r.message ((row.slots r.message).takeAt r.word.toNat).2
    cases found : (row.slots r.message).get? r.word.toNat with
    | some a => rfl
    | none =>
      rw [Slots.takeAt_of_get?_eq_none found]
      cases row <;> rfl

/-- Reading a field of a row is looking a slot up. -/
theorem run_read (row : Row α) (r : Reader) :
    row.kind.read.run r = Reader.asField row.field (row.consume.run r) := by
  cases row with
  | handles => exact Reader.run_asField Reader.readHandle Field.handle r
  | ports => exact Reader.run_asField Reader.readPort Field.port r

/-- Reading a field of a row leaves what looking a slot up leaves. -/
theorem leaving_read (row : Row α) (r : Reader) :
    leaving (row.kind.read.run r) = leaving (row.consume.run r) := by
  rw [run_read]
  cases row.consume.run r <;> rfl

/-- Reading does to a row what it is meant to do. -/
theorem slots_read (row : Row α) (m : Message) (kind : Field.Kind) (place : Nat) :
    let op := Operation.read kind place
    row.slots (op.run m).2 = (row.deed m op).elim (row.slots m) (row.slots m).perform := by
  intro op
  have moving {β : Type} (source : Row β) :
      row.slots ((Operation.read source.kind place).run m).2 =
        (row.meant m (.read source.kind place)).elim (row.slots m) (row.slots m).perform := by
    have left : ((Operation.read source.kind place).run m).2 =
        (leaving (source.consume.run { message := m, place })).message :=
      congrArg Reader.message (source.leaving_read { message := m, place })
    rw [left, leaving_consume]
    cases source with
    | handles =>
      cases row with
      | handles =>
        show _ = ((Reader.mk m place).index?.map Deed.takeAt).elim _ _
        cases (Reader.mk m place).index? with
        | none | some i => rfl
      | ports =>
        cases (Reader.mk m place).index? with
        | none | some i => rfl
    | ports =>
      cases row with
      | handles =>
        cases (Reader.mk m place).index? with
        | none | some i => rfl
      | ports =>
        show _ = ((Reader.mk m place).index?.map Deed.takeAt).elim _ _
        cases (Reader.mk m place).index? with
        | none | some i => rfl
  cases kind with
  | u32 | i32 | u64 | i64 | bool | bytes | data | text =>
    refine slots_of_idle ?_ ?_
    · cases row <;> rfl
    · exact congrArg Message.attachments (untouched_read (by simp) (by simp) { message := m, place })
  | handle => exact moving handles
  | port => exact moving ports

/-- Whatever the operation, a row is what the deed makes of it. -/
theorem slots_run (row : Row α) (m : Message) (op : Operation) :
    row.slots (op.run m).2 = (row.deed m op).elim (row.slots m) (row.slots m).perform := by
  have attaching {β : Type} (source : Row β) (bs : List β)
      (runs : (source.attaching bs).run m =
        (refusal ((source.attach bs).run m), leaving ((source.attach bs).run m))) :
      row.slots ((source.attaching bs).run m).2 =
        (row.deed m (source.attaching bs)).elim (row.slots m) (row.slots m).perform := by
    refine slots_of_step (source.attach bs) runs ?_ ?_
    · intro n run
      rcases source.attach_cases bs m with ⟨n', run', bare, attached⟩ | ⟨e, run'⟩
      · rw [run] at run'
        cases run'
        exact slots_attached bare attached
      · rw [run] at run'
        cases run'
    · intro e n run
      rcases source.attach_cases bs m with ⟨n', run', -⟩ | ⟨e', run'⟩
      · rw [run] at run'
        cases run'
      · rw [run] at run'
        cases run'
        rfl
  cases op with
  | write f => exact row.slots_write m f
  | read kind place => exact row.slots_read m kind place
  | writeFooter bs =>
    refine slots_of_idle ?_ (Message.writesOnly_writeFooter bs m).1
    cases row <;> rfl
  | readFooter buffer truncate =>
    refine slots_of_idle ?_ (Message.writesOnly_readFooter buffer truncate m).1
    cases row <;> rfl
  | attachHandles hs => exact attaching handles hs rfl
  | attachPorts ps => exact attaching ports ps rfl
  | takeHandle | takePort | takeAttachments => cases row <;> rfl
  | setRelay | setRouting | setTransaction | setSeqno => cases row <;> rfl

/-! ## Runs -/

/-- The deeds of two runs are those of the first one and then those of the second one. -/
theorem deeds_append (row : Row α) (m : Message) (ops more : List Operation) :
    row.deeds m (ops ++ more) = row.deeds m ops ++ row.deeds (m.after ops) more := by
  induction ops generalizing m with
  | nil => rfl
  | cons op ops ih =>
    rw [List.cons_append, deeds, ih, deeds, List.append_assoc]
    rfl

/-- The books of two runs are those of the first one with the deeds of the second one entered. -/
theorem ledger_append (row : Row α) (m : Message) (ops more : List Operation) :
    row.ledger m (ops ++ more) = (row.deeds (m.after ops) more).foldl Ledger.enter (row.ledger m ops) := by
  rw [ledger, deeds_append, List.foldl_append, ledger]

/-- A row is what the deeds on it make of it. -/
theorem slots_after (row : Row α) (m : Message) (ops : List Operation) :
    row.slots (m.after ops) = (row.deeds m ops).foldl Slots.perform (row.slots m) := by
  induction ops generalizing m with
  | nil => rfl
  | cons op ops ih =>
    have step := row.slots_run m op
    have rest : row.slots (m.after (op :: ops)) = _ := ih (op.run m).2
    rw [rest, step, deeds, List.foldl_append]
    cases row.deed m op with
    | none | some d => rfl

/-- Of a message without slots, each row follows its books through any operations. -/
theorem follows_after (row : Row α) {m : Message} (bare : m.attachments = ∅) (ops : List Operation) :
    (row.slots (m.after ops)).Follows (row.ledger m ops) := by
  have empty : row.slots m = {} := by
    rw [slots, bare]
    cases row <;> rfl
  rw [slots_after, empty]
  exact Slots.follows_empty.foldl (row.deeds m ops)

/-- Only moving the attachments out as a side list clears a row. -/
theorem eq_takeAttachments_of_meant {row : Row α} {m : Message} {op : Operation}
    (clears : row.meant m op = some .clear) : op = .takeAttachments := by
  -- what is looked up in a slot leaves the others in the row
  have looked {place : Nat} : (Reader.mk m place).index?.map (Deed.takeAt (α := α)) ≠ some .clear := by
    cases (Reader.mk m place).index? <;> exact nofun
  cases op with
  | takeAttachments => rfl
  | write f => cases row <;> cases f <;> simp [meant] at clears
  | read kind place =>
    cases row <;> cases kind
    case handles.handle | ports.port => exact absurd clears looked
    all_goals contradiction
  | _ => cases row <;> simp [meant] at clears

/-- As long as the attachments are not moved out whole, no row is cleared. -/
theorem clear_not_mem_deeds (row : Row α) (m : Message) {ops : List Operation}
    (kept : .takeAttachments ∉ ops) : .clear ∉ row.deeds m ops := by
  induction ops generalizing m with
  | nil => exact List.not_mem_nil
  | cons op ops ih =>
    rw [List.mem_cons, not_or] at kept
    obtain ⟨this, others⟩ := kept
    rw [deeds, List.mem_append, not_or]
    refine ⟨?_, ih _ others⟩
    intro mem
    rw [Option.mem_toList, deed] at mem
    split at mem
    · exact this (eq_takeAttachments_of_meant mem).symm
    · contradiction

end Row
end Interprocess
