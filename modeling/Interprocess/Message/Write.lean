import Interprocess.Message.Basic
import Interprocess.Text.Utf8
import Interprocess.Wire.Word

/-!
# Writing messages

A payload is written field by field, each filled with zeros up to a whole word; a row of bytes of
its own length is preceded by that length. An attachment goes into the next slot of its kind, and
the slot's number into the payload. A footer grows at its end and can be read back and removed.
After every change the sizes in the header are brought up to date; a size that the header cannot
hold is refused, and then the header keeps the sizes it had.
-/

set_option autoImplicit false

namespace Interprocess.Message

/-- Turns a checked value into a step on a message. -/
def liftExcept {α : Type} (r : Except MessageError α) : MessageM α :=
  match r with
  | .ok a => pure a
  | .error e => throw e

/-- A message whose header announces the sizes that its parts have. -/
def withSizes (m : Message) : Message :=
  { m with
    header.payloadSize := UInt32.ofNat m.contentSize
    header.footerSize := UInt32.ofNat m.footer.size }

/-- Brings the sizes in the header up to date. -/
def refreshSizes : MessageM Unit := do
  let m ← get
  if m.contentSize < wordLimit then
    set m.withSizes
  else
    throw .sizeOverflow

/-- A message with more bytes at the end of its payload, filled with zeros up to a whole word. -/
def extended (m : Message) (bs : ByteArray) : Message :=
  { m with payload := m.payload ++ bs ++ zeros (padding bs.size) }

/-- Writes bytes, filled with zeros up to a whole word. -/
def writeAligned (bs : ByteArray) : MessageM Unit := do
  modify fun m => m.extended bs
  refreshSizes

/-- Writes a 32-bit word. -/
def writeU32 (x : UInt32) : MessageM Unit :=
  writeAligned (Word.bytes x).toByteArray

/-- Writes a signed 32-bit word. -/
def writeI32 (x : Int32) : MessageM Unit :=
  writeU32 x.toUInt32

/-- Writes a 64-bit number. -/
def writeU64 (x : UInt64) : MessageM Unit :=
  writeAligned (Word.toBytes 8 x.toNat).toByteArray

/-- Writes a signed 64-bit number. -/
def writeI64 (x : Int64) : MessageM Unit :=
  writeU64 x.toUInt64

/-- Writes a truth value as a word. -/
def writeBool (b : Bool) : MessageM Unit :=
  writeU32 (if b then 1 else 0)

/-- Writes bytes whose number the reader knows. -/
def writeBytes (bs : ByteArray) : MessageM Unit :=
  writeAligned bs

/-- Writes bytes behind their number. -/
def writeData (bs : ByteArray) : MessageM Unit := do
  writeU32 (← liftExcept (narrow bs.size))
  writeAligned bs

/-- Writes a text as the bytes of its encoding, behind their number. -/
def writeText (s : String) : MessageM Unit :=
  writeData (Utf8.encode s)

/-- Adds bytes to the end of the footer. -/
def writeFooter (bs : ByteArray) : MessageM Unit := do
  if bs.isEmpty then
    return ()
  modify fun m => { m with footer := m.footer ++ bs }
  refreshSizes

/-- Copies the footer over the beginning of a buffer, and removes it if asked to. A buffer that is
not empty expects a footer. -/
def readFooter (buffer : ByteArray) (truncate : Bool) : MessageM ByteArray := do
  let footer := (← get).footer
  if footer.isEmpty && !buffer.isEmpty then
    throw .noFooter
  if buffer.size < footer.size then
    throw (.bufferTooSmall buffer.size footer.size)
  if truncate then
    modify fun m => { m with footer := ByteArray.empty }
    refreshSizes
  return footer ++ buffer.extract footer.size buffer.size

/-- Attaches a file handle and writes its slot number. -/
def writeHandle (h : Handle) : MessageM Unit := do
  let index := (← get).handleSlots
  if index ≥ descriptorLimit then
    throw .handleLimit
  writeU32 (← liftExcept (narrow index))
  modify fun m => { m with attachments.handles := m.attachments.handles.push h }
  let count ← liftExcept (narrow (← get).handleSlots)
  modify fun m => { m with header.handleCount := count }

/-- Attaches a port and writes its slot number. -/
def writePort (p : Port) : MessageM Unit := do
  writeU32 (← liftExcept (narrow (← get).portSlots))
  modify fun m => { m with attachments.ports := m.attachments.ports.push p }

/-- Attaches the file handles that arrived beside the bytes, and lets the header announce them. -/
def attachHandles (hs : List Handle) : MessageM Unit := do
  if !(← get).attachments.handles.isEmpty then
    throw .handlesPresent
  if hs.length > descriptorLimit then
    throw .handleSurplus
  let count ← liftExcept (narrow hs.length)
  modify fun m =>
    { m with header.handleCount := count, attachments.handles := .ofList hs }

/-- Attaches the ports that arrived beside the bytes. -/
def attachPorts (ps : List Port) : MessageM Unit := do
  if !(← get).attachments.ports.isEmpty then
    throw .portsPresent
  modify fun m => { m with attachments.ports := .ofList ps }

/-- Moves the first file handle out that is left. -/
def takeHandle (m : Message) : Option Handle × Message := Row.handles.take m

/-- Moves the first port out that is left. -/
def takePort (m : Message) : Option Port × Message := Row.ports.take m

/-! ## What the basic operations do -/

/-- Sizes are brought up to date unless the content is too large to be announced. -/
theorem run_refreshSizes (m : Message) :
    refreshSizes.run m =
      if m.contentSize < wordLimit then .ok () m.withSizes else .error .sizeOverflow m := by
  show (if m.contentSize < wordLimit then set m.withSizes else throw .sizeOverflow :
    MessageM Unit).run m = _
  split <;> rfl

/-- The payload is extended in any case, and the sizes follow if they can. -/
theorem run_writeAligned (bs : ByteArray) (m : Message) :
    (writeAligned bs).run m =
      if (m.extended bs).contentSize < wordLimit then .ok () (m.extended bs).withSizes
      else .error .sizeOverflow (m.extended bs) :=
  run_refreshSizes (m.extended bs)

/-- The payload grows by the bytes and by what fills them up. -/
theorem size_payload_extended (m : Message) (bs : ByteArray) :
    (m.extended bs).payload.size = m.payload.size + align bs.size := by
  show (m.payload ++ bs ++ zeros (padding bs.size)).size = _
  rw [ByteArray.size_append, ByteArray.size_append, size_zeros, Nat.add_assoc, add_padding]

/-- The footer's share of the content can be announced if the whole content can. -/
theorem size_footer_le (m : Message) : m.footer.size ≤ m.contentSize := by
  have := le_align m.footer.size
  unfold contentSize
  omega

end Interprocess.Message
