import Interprocess.Message.Field
import Interprocess.Message.Wire

/-!
# What the operations on a message do

For each operation that is put together from smaller ones there is one statement that says when it
is refused and what the message is afterwards: `run_writeHandle`, `run_writePort`,
`run_attachHandles`, `run_attachPorts`, `run_writeFooter` and `run_readFooter`. Later modules cite
these and do not look into the operations.
-/

set_option autoImplicit false

namespace Interprocess.Message

/-- A message with more bytes at the end of its footer. -/
def withFooter (m : Message) (bs : ByteArray) : Message :=
  { m with footer := m.footer ++ bs }

/-- A message without its footer. -/
def withoutFooter (m : Message) : Message :=
  { m with footer := ByteArray.empty }

/-- A message with one more file handle, which its header does not announce yet. -/
def withSlot (m : Message) (h : Handle) : Message :=
  { m with attachments.handles := m.attachments.handles.push h }

/-- A message with one more file handle, which its header announces. -/
def withHandle (m : Message) (h : Handle) : Message :=
  { m.withSlot h with header.handleCount := UInt32.ofNat (m.handleSlots + 1) }

/-- A message with one more port. -/
def withPort (m : Message) (p : Port) : Message :=
  { m with attachments.ports := m.attachments.ports.push p }

/-- A message with these file handles and no others, which its header announces. -/
def withHandles (m : Message) (hs : List Handle) : Message :=
  { m with
    header.handleCount := UInt32.ofNat hs.length
    attachments.handles := .ofList hs }

/-- A message with these ports and no others. -/
def withPorts (m : Message) (ps : List Port) : Message :=
  { m with attachments.ports := .ofList ps }

/-- Without its footer a message has its payload as content. -/
@[simp] theorem contentSize_withoutFooter (m : Message) :
    m.withoutFooter.contentSize = m.payload.size := by
  have none : align ByteArray.empty.size = 0 := by decide
  rw [contentSize, withoutFooter, none, Nat.add_zero]

/-- One more handle takes one more slot. -/
@[simp] theorem handleSlots_withSlot (m : Message) (h : Handle) :
    (m.withSlot h).handleSlots = m.handleSlots + 1 :=
  Slots.size_push m.attachments.handles h

/-- As many handles as there may be can be counted in a word. -/
theorem descriptorLimit_lt_wordLimit : descriptorLimit < wordLimit := by decide

/-- A number is taken as a word if it fits into one. -/
theorem run_liftNarrow (n : Nat) (m : Message) :
    (liftExcept (narrow n)).run m =
      if n < wordLimit then .ok (UInt32.ofNat n) m else .error .sizeOverflow m := by
  by_cases small : n < wordLimit
  · rw [narrow, narrow?, if_pos small, if_pos small]
    rfl
  · rw [narrow, narrow?, if_neg small, if_neg small]
    rfl

/-- More bytes are added to the footer, unless the content becomes too large to be announced. -/
theorem run_writeFooter (bs : ByteArray) (m : Message) :
    (writeFooter bs).run m =
      if bs.isEmpty then .ok () m
      else if (m.withFooter bs).contentSize < wordLimit then .ok () (m.withFooter bs).withSizes
      else .error .sizeOverflow (m.withFooter bs) := by
  unfold writeFooter
  by_cases empty : bs.isEmpty
  · simp only [if_pos empty]
    rfl
  · rw [if_neg empty, if_neg empty]
    exact run_refreshSizes _

/-- A footer is copied over the beginning of a buffer that is not too small, and may be removed. -/
theorem run_readFooter (buffer : ByteArray) (truncate : Bool) (m : Message) :
    (readFooter buffer truncate).run m =
      if m.footer.isEmpty && !buffer.isEmpty then .error .noFooter m
      else if buffer.size < m.footer.size then
        .error (.bufferTooSmall buffer.size m.footer.size) m
      else if truncate then
        if m.payload.size < wordLimit then
          .ok (m.footer ++ buffer.extract m.footer.size buffer.size) m.withoutFooter.withSizes
        else .error .sizeOverflow m.withoutFooter
      else .ok (m.footer ++ buffer.extract m.footer.size buffer.size) m := by
  unfold readFooter
  rw [EStateM.run_bind, EStateM.run_get]
  by_cases missing : m.footer.isEmpty && !buffer.isEmpty
  · simp only [if_pos missing]
    rfl
  by_cases small : buffer.size < m.footer.size
  · simp only [if_neg missing, if_pos small]
    rfl
  by_cases drop : truncate
  · have refreshed := run_refreshSizes m.withoutFooter
    rw [contentSize_withoutFooter] at refreshed
    simp only [if_neg missing, if_neg small, if_pos drop, EStateM.run_bind, EStateM.run_modify]
    rw [← withoutFooter, refreshed]
    by_cases room : m.payload.size < wordLimit
    · rw [if_pos room, if_pos room]
      rfl
    · rw [if_neg room, if_neg room]
  · simp only [if_neg missing, if_neg small, if_neg drop]
    rfl

/-- The word that says where an attachment lies is written before the attachment is placed. -/
theorem run_writeHandle (h : Handle) (m : Message) :
    (writeHandle h).run m =
      let index := (Word.bytes (UInt32.ofNat m.handleSlots)).toByteArray
      if m.handleSlots ≥ descriptorLimit then .error .handleLimit m
      else if (m.extended index).contentSize < wordLimit then
        .ok () ((m.extended index).withSizes.withHandle h)
      else .error .sizeOverflow (m.extended index) := by
  show _ = ite _ _ _
  unfold writeHandle
  rw [EStateM.run_bind, EStateM.run_get]
  by_cases full : m.handleSlots ≥ descriptorLimit
  · simp only [if_pos full]
    rfl
  have below : m.handleSlots + 1 < wordLimit := by
    have := descriptorLimit_lt_wordLimit
    omega
  have written := run_writeAligned (Word.bytes (UInt32.ofNat m.handleSlots)).toByteArray m
  rw [← writeU32] at written
  have placed (w : Message) (slots : w.handleSlots = m.handleSlots) :
      EStateM.run (liftExcept (narrow (w.withSlot h).handleSlots) >>= fun count =>
        modify fun m => { m with header.handleCount := count }) (w.withSlot h) =
      .ok () (w.withHandle h) := by
    rw [EStateM.run_bind, handleSlots_withSlot, run_liftNarrow, if_pos (slots ▸ below)]
    rfl
  simp only [if_neg full, EStateM.run_bind]
  rw [run_liftNarrow, if_pos (Nat.lt_of_succ_lt below)]
  simp only [written]
  by_cases room :
    (m.extended (Word.bytes (UInt32.ofNat m.handleSlots)).toByteArray).contentSize < wordLimit
  · rw [if_pos room, if_pos room]
    exact placed (m.extended (Word.bytes (UInt32.ofNat m.handleSlots)).toByteArray).withSizes rfl
  · rw [if_neg room, if_neg room]

/-- A port gets the next slot, and the number of this slot is written. -/
theorem run_writePort (p : Port) (m : Message) :
    (writePort p).run m =
      let index := (Word.bytes (UInt32.ofNat m.portSlots)).toByteArray
      if m.portSlots < wordLimit then
        if (m.extended index).contentSize < wordLimit then
          .ok () ((m.extended index).withSizes.withPort p)
        else .error .sizeOverflow (m.extended index)
      else .error .sizeOverflow m := by
  show _ = ite _ _ _
  unfold writePort
  rw [EStateM.run_bind, EStateM.run_get]
  simp only [EStateM.run_bind, run_liftNarrow]
  by_cases below : m.portSlots < wordLimit
  · have written := run_writeAligned (Word.bytes (UInt32.ofNat m.portSlots)).toByteArray m
    rw [← writeU32] at written
    simp only [if_pos below, written]
    by_cases room :
      (m.extended (Word.bytes (UInt32.ofNat m.portSlots)).toByteArray).contentSize < wordLimit
    · simp only [if_pos room]
      rfl
    · simp only [if_neg room]
  · simp only [if_neg below]

/-- Handles are attached together to a message without slots for handles, if they are not too
many. -/
theorem run_attachHandles (hs : List Handle) (m : Message) :
    (attachHandles hs).run m =
      if !m.attachments.handles.isEmpty then .error .handlesPresent m
      else if hs.length > descriptorLimit then .error .handleSurplus m
      else .ok () (m.withHandles hs) := by
  unfold attachHandles
  rw [EStateM.run_bind, EStateM.run_get]
  by_cases present : !m.attachments.handles.isEmpty
  · simp only [if_pos present]
    rfl
  by_cases surplus : hs.length > descriptorLimit
  · simp only [if_neg present, if_pos surplus]
    rfl
  have below : hs.length < wordLimit := by
    have := descriptorLimit_lt_wordLimit
    omega
  simp only [if_neg present, if_neg surplus, EStateM.run_bind, run_liftNarrow, if_pos below]
  rfl

/-- Ports are attached together to a message without slots for ports. -/
theorem run_attachPorts (ps : List Port) (m : Message) :
    (attachPorts ps).run m =
      if !m.attachments.ports.isEmpty then .error .portsPresent m
      else .ok () (m.withPorts ps) := by
  unfold attachPorts
  rw [EStateM.run_bind, EStateM.run_get]
  by_cases present : !m.attachments.ports.isEmpty
  · simp only [if_pos present]
    rfl
  · simp only [if_neg present]
    rfl

end Interprocess.Message
