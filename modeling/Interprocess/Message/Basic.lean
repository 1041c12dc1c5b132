import Interprocess.Attachment.Slots
import Interprocess.Header.Basic
import Interprocess.Wire.Align

/-!
# Messages

A message is a header, a payload, a footer and attachments. The header repeats what the other parts
hold: how many bytes follow it, how long the footer is, how many file handles there are. This module
makes new messages, replies among them, and offers the accessors, the size on the wire and the
release of what a message still holds. Operations that change a message run in `MessageM`, which
keeps the message also when an operation is refused.
-/

set_option autoImplicit false

namespace Interprocess

/-- What is exchanged between two processes. -/
structure Message where
  /-- What precedes the content. -/
  header : Header
  /-- The content, in fields of whole words. -/
  payload : ByteArray := ByteArray.empty
  /-- Bytes that travel behind the payload, without padding. -/
  footer : ByteArray := ByteArray.empty
  /-- The resources that accompany the message. -/
  attachments : Attachments := ∅
deriving DecidableEq

/-- Why a message refuses an operation. -/
inductive MessageError
  /-- A size does not fit into its field of the header. -/
  | sizeOverflow
  /-- There is no slot left for another file handle. -/
  | handleLimit
  /-- File handles that arrived beside the bytes meet handles that are there already. -/
  | handlesPresent
  /-- More file handles arrived beside the bytes than a message may have. -/
  | handleSurplus
  /-- Ports that arrived beside the bytes meet ports that are there already. -/
  | portsPresent
  /-- A footer is asked for and there is none. -/
  | noFooter
  /-- A footer does not fit where it is to be copied. -/
  | bufferTooSmall (buffer footer : Nat)
  /-- A message takes fewer bytes than its header. -/
  | smallerThanHeader
deriving DecidableEq, Repr

namespace MessageError

/-- The text of a refusal. -/
def message : MessageError → String
  | sizeOverflow => "this is a bug: application logic should have ensured the value range"
  | handleLimit => s!"a message can hold at most {descriptorLimit} file handles"
  | handlesPresent =>
    "this is a bug: file handles can only be attached to a message without handles"
  | handleSurplus => s!"this is a bug: more than {descriptorLimit} file handles"
  | portsPresent => "this is a bug: ports can only be attached to a message without ports"
  | noFooter => "message has no footer"
  | bufferTooSmall buffer footer =>
    s!"buffer of {buffer} bytes is too small for a footer of {footer} bytes"
  | smallerThanHeader => "this is a bug: message is smaller than its header"

/-- Whether the caller broke a rule that it had to keep, rather than meeting a limit. -/
def isMisuse : MessageError → Bool
  | handleLimit | noFooter | bufferTooSmall _ _ => false
  | _ => true

end MessageError

/-- Operations on one message. A refused operation leaves the message as far as it came. -/
abbrev MessageM := EStateM MessageError Message

/-- A length as a 32-bit size. -/
def narrow (n : Nat) : Except MessageError UInt32 :=
  match narrow? n with
  | some x => .ok x
  | none => .error .sizeOverflow

namespace Message

/-- A message without content. -/
def addressed (routing : Int32) (type : MessageType) (flags : Flags) : Message :=
  { header := .addressed routing type flags }

instance : Inhabited Message := ⟨addressed 0 0 {}⟩

/-- A message whose handling creates an actor with this routing id. -/
def constructing (routing : Int32) (type : MessageType) (flags : Flags) : Message :=
  addressed routing type flags.asConstructor

/-- The answer to a call of the given level that could not be dispatched at all. -/
def dispatchFailure (level : Level) : Message :=
  addressed routingNone 0 (Flags.asReplyError (Flags.asSync { level }))

/-- The answer to a call: it addresses the same actor, nests as deeply and is as urgent, and bears
the numbers by which the caller knows it. -/
def reply (call : Message) (type : MessageType) : Message :=
  let flags : Flags :=
    { level := call.header.flags.level
      priority := call.header.flags.priority
      sync := call.header.flags.sync }
  { header :=
      { Header.addressed call.header.routing type flags.asReply with
        transaction := call.header.transaction
        seqno := call.header.seqno } }

/-- What a message says about itself. -/
def flags (m : Message) : Flags := m.header.flags

/-- The bytes that follow the header on the wire. -/
def contentSize (m : Message) : Nat := m.payload.size + align m.footer.size

/-- The bytes that a message takes on the wire; attachments travel beside them. -/
def size (m : Message) : Nat := headerSize + m.contentSize

/-- The bytes that come of writing a message out. Attachments do not count. -/
def sizeIfSerialized (m : Message) : Nat := m.size

/-- The number of slots for file handles. -/
def handleSlots (m : Message) : Nat := m.attachments.handles.size

/-- The number of slots for ports. -/
def portSlots (m : Message) : Nat := m.attachments.ports.size

/-- The number of attachments that need a relay of their own; here files travel beside the bytes. -/
def relayedAttachments (_ : Message) : Nat := 0

/-- Says whether a message travels through a third party. -/
def setRelay (m : Message) (relay : Bool) : Message :=
  { m with header.flags := m.header.flags.withRelay relay }

/-- Addresses a message to another actor. -/
def setRouting (m : Message) (routing : Int32) : Message :=
  { m with header.routing := routing }

/-- Puts a message into a transaction. -/
def setTransaction (m : Message) (transaction : Int32) : Message :=
  { m with header.transaction := transaction }

/-- Gives a message a place in the order of sending. -/
def setSeqno (m : Message) (seqno : Int32) : Message :=
  { m with header.seqno := seqno }

/-- Checks that a message is at least as large as its header. -/
def checkSize (m : Message) : Except MessageError Unit :=
  if m.size < headerSize then .error .smallerThanHeader else .ok ()

/-- Moves all attachments out. The header keeps the count of file handles. -/
def takeAttachments (m : Message) : Attachments × Message :=
  (m.attachments, { m with attachments := ∅ })

/-- Lets go of a message: what it still holds is closed. -/
def close (m : Message) : Released := m.attachments.close

/-- A message as one line of text. -/
def describe (m : Message) : String :=
  s!"Message\x7brouting:{m.header.routing}, type:{Hex.marked m.header.type.toNat}, " ++
    s!"txid:{m.header.transaction}, seqno:{m.header.seqno}, size:{m.size}, " ++
    s!"{m.header.flags.describe}\x7d"

/-- No message is smaller than its header. -/
theorem checkSize_eq_ok (m : Message) : m.checkSize = .ok () := by
  have large : ¬ m.size < headerSize := by
    unfold size
    omega
  rw [checkSize, if_neg large]

end Message

namespace Row

variable {α : Type}

/-- The slots of a message in a row. -/
def slots (row : Row α) (m : Message) : Slots α := row.of m.attachments

/-- A message with other slots in a row. -/
def replace (row : Row α) (m : Message) (s : Slots α) : Message :=
  { m with attachments := row.put m.attachments s }

/-- Moves the first out of a row that is left. -/
def take (row : Row α) (m : Message) : Option α × Message :=
  ((row.slots m).takeFirst.1, row.replace m (row.slots m).takeFirst.2)

/-- Replacing a row by itself changes nothing. -/
@[simp] theorem replace_slots (row : Row α) (m : Message) : row.replace m (row.slots m) = m := by
  rw [replace, slots, put_of]

end Row

end Interprocess
