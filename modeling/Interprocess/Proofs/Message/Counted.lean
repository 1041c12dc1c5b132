import Interprocess.Proofs.Message.Built

/-!
# Slots for file handles and their number in the header

The header of a message says how many file handles it has, and the slots are what it really has. The
two drift apart in one way only: bytes that were received announce handles before any are attached,
and slots that are moved out as a side list leave their number behind. Then there are no slots at
all. As soon as there is one, the header counts the slots, emptied ones included. This is `Counted`;
every operation keeps it, whether it is refused or not (`Counted.run`), so it holds of every message
that callers can come by (`Built.counted`).
-/

set_option autoImplicit false

namespace Interprocess.Message

/-- There are not too many slots for handles, and if there are any, the header says how many. -/
structure Counted (m : Message) : Prop where
  slots : m.handleSlots ≤ descriptorLimit
  announced : m.handleSlots = 0 ∨ m.header.handleCount.toNat = m.handleSlots

/-- Only the number of slots matters, and what the header says about it. -/
theorem Counted.congr {m n : Message} (counted : m.Counted) (slots : n.handleSlots = m.handleSlots)
    (handleCount : n.header.handleCount = m.header.handleCount) : n.Counted := by
  refine ⟨?_, ?_⟩
  · rw [slots]
    exact counted.slots
  · rw [slots, handleCount]
    exact counted.announced

/-- Where there are no slots, nothing has to be counted. -/
theorem counted_of_noSlots {m : Message} (none : m.handleSlots = 0) : m.Counted :=
  ⟨none ▸ Nat.zero_le _, Or.inl none⟩

/-! ## Writing bytes leaves the slots alone -/

/-- A step that changes neither slots nor the number of handles in the header. -/
def WritesOnly {α : Type} (step : MessageM α) : Prop :=
  ∀ m : Message, (leaving (step.run m)).attachments = m.attachments ∧
    (leaving (step.run m)).header.handleCount = m.header.handleCount

/-- Steps that only write bytes do so one after the other. -/
theorem writesOnly_bind {α β : Type} {step : MessageM α} {next : α → MessageM β}
    (first : WritesOnly step) (second : ∀ a, WritesOnly (next a)) : WritesOnly (step >>= next) :=
  leaving_bind
    (R := fun m n : Message => n.attachments = m.attachments ∧
      n.header.handleCount = m.header.handleCount)
    (fun one other => ⟨other.1.trans one.1, other.2.trans one.2⟩) first second

/-- Fitting a number into a word changes no message. -/
theorem writesOnly_liftNarrow (n : Nat) : WritesOnly (liftExcept (narrow n)) := by
  intro m
  rw [run_liftNarrow]
  split <;> exact ⟨rfl, rfl⟩

/-- Writing bytes touches neither the slots nor their count. -/
theorem writesOnly_writeAligned (bs : ByteArray) : WritesOnly (writeAligned bs) := by
  intro m
  rw [run_writeAligned]
  split <;> exact ⟨rfl, rfl⟩

/-- Writing bytes with their length touches neither the slots nor their count. -/
theorem writesOnly_writeData (bs : ByteArray) : WritesOnly (writeData bs) :=
  writesOnly_bind (writesOnly_liftNarrow _) fun _ =>
    writesOnly_bind (writesOnly_writeAligned _) fun _ => writesOnly_writeAligned bs

/-- Writing a footer touches neither the slots nor their count. -/
theorem writesOnly_writeFooter (bs : ByteArray) : WritesOnly (Message.writeFooter bs) := by
  intro m
  rw [run_writeFooter]
  split
  · exact ⟨rfl, rfl⟩
  · split <;> exact ⟨rfl, rfl⟩

/-- Reading a footer leaves the slots and their count as they are. -/
theorem writesOnly_readFooter (buffer : ByteArray) (truncate : Bool) :
    WritesOnly (Message.readFooter buffer truncate) := by
  intro m
  rw [run_readFooter]
  split
  · exact ⟨rfl, rfl⟩
  split
  · exact ⟨rfl, rfl⟩
  split
  · split <;> exact ⟨rfl, rfl⟩
  · exact ⟨rfl, rfl⟩

/-- A step that only writes bytes leaves the slots counted. -/
theorem WritesOnly.counted {α : Type} {step : MessageM α} (writes : WritesOnly step) {m : Message}
    (counted : m.Counted) : (leaving (step.run m)).Counted := by
  obtain ⟨attachments, handleCount⟩ := writes m
  exact counted.congr (congrArg (fun a => a.handles.size) attachments) handleCount

/-! ## Operations on slots -/

/-- A new slot is counted at once. A handle that finds no room for its number leaves no slot. -/
theorem Counted.writeHandle {m : Message} (counted : m.Counted) (h : Handle) :
    (leaving ((Message.writeHandle h).run m)).Counted := by
  rw [run_writeHandle]
  by_cases full : m.handleSlots ≥ descriptorLimit
  · simp only [if_pos full]
    exact counted
  simp only [if_neg full]
  split
  · have slots : (leaving (EStateM.Result.ok (ε := MessageError) () ((m.extended
        (Word.bytes (UInt32.ofNat m.handleSlots)).toByteArray).withSizes.withHandle h))).handleSlots =
        m.handleSlots + 1 := Slots.size_push m.attachments.handles h
    refine ⟨?_, Or.inr ?_⟩
    · rw [slots]
      exact Nat.lt_of_not_ge full
    · rw [slots]
      exact toNat_ofNat_of_le_descriptorLimit (Nat.lt_of_not_ge full)
  · exact counted.congr rfl rfl

/-- Writing a port leaves the slots for handles counted. -/
theorem Counted.writePort {m : Message} (counted : m.Counted) (p : Port) :
    (leaving ((Message.writePort p).run m)).Counted := by
  rw [run_writePort]
  by_cases below : m.portSlots < wordLimit
  · simp only [if_pos below]
    split <;> exact counted.congr rfl rfl
  · simp only [if_neg below]
    exact counted

/-- Writing a field leaves the slots counted, whether or not it is refused. -/
theorem Counted.write {m : Message} (counted : m.Counted) (f : Field) :
    (leaving (f.write.run m)).Counted := by
  cases f with
  | u32 | i32 | u64 | i64 | bool | bytes => exact (writesOnly_writeAligned _).counted counted
  | data | text => exact (writesOnly_writeData _).counted counted
  | handle h => exact counted.writeHandle h
  | port p => exact counted.writePort p

/-- Handles that are attached together are counted together. -/
theorem Counted.attachHandles {m : Message} (counted : m.Counted) (hs : List Handle) :
    (leaving ((Message.attachHandles hs).run m)).Counted := by
  rw [run_attachHandles]
  split
  · exact counted
  split
  · exact counted
  · next few =>
    have few : hs.length ≤ descriptorLimit := Nat.le_of_not_gt few
    have slots : (m.withHandles hs).handleSlots = hs.length := Slots.size_ofList hs
    refine ⟨?_, Or.inr ?_⟩
    · rw [leaving, slots]
      exact few
    · rw [leaving, slots]
      exact toNat_ofNat_of_le_descriptorLimit few

/-- Attaching ports leaves the slots for handles counted. -/
theorem Counted.attachPorts {m : Message} (counted : m.Counted) (ps : List Port) :
    (leaving ((Message.attachPorts ps).run m)).Counted := by
  rw [run_attachPorts]
  split <;> exact counted.congr rfl rfl

/-- Emptying a slot leaves it there. -/
theorem Counted.emptied {m n : Message} (counted : m.Counted) (emptied : Emptied m n) :
    n.Counted := by
  cases emptied with
  | nothing => exact counted
  | slot row index =>
    cases row with
    | handles => exact counted.congr (Slots.size_takeAt _ index) rfl
    | ports => exact counted.congr rfl rfl

/-! ## Every message that callers can come by -/

/-- Every operation leaves the slots counted, also if it is refused. -/
theorem Counted.run {m : Message} (counted : m.Counted) (op : Operation) : (op.run m).2.Counted := by
  cases op with
  | write f => exact counted.write f
  | writeFooter bs => exact (writesOnly_writeFooter bs).counted counted
  | readFooter buffer truncate => exact (writesOnly_readFooter buffer truncate).counted counted
  | read kind place => exact counted.emptied (emptied_read kind { message := m, place })
  | takeHandle => exact counted.congr (Slots.size_takeFirst m.attachments.handles) rfl
  | attachHandles hs => exact counted.attachHandles hs
  | attachPorts ps => exact counted.attachPorts ps
  | takeAttachments => exact counted_of_noSlots rfl
  | takePort | setRelay | setRouting | setTransaction | setSeqno => exact counted.congr rfl rfl

/-- The slots of every message that callers can come by are counted. -/
theorem Built.counted {m : Message} (built : m.Built) : m.Counted := by
  induction built with
  | addressed | constructing | dispatchFailure | reply => exact counted_of_noSlots rfl
  | decoded accepted =>
    obtain ⟨header, footerStart, -, -, -, -, rfl⟩ := decode_eq_ok_iff.1 accepted
    exact counted_of_noSlots rfl
  | step op _ _ ih => exact ih.run op

end Interprocess.Message
