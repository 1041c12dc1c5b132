import Interprocess.Flags.Bits

/-!
# Message headers

Every message begins with a header of fixed size: how much follows, whom it addresses, which type it
has, its flags, how many file handles accompany it, which transaction and which place in the order
of sending it belongs to, and how long its footer is. `Header` holds these fields and `addressed`
makes the header of a message without content.
-/

set_option autoImplicit false

namespace Interprocess

/-- What a message is about; its handler is chosen by this number. -/
abbrev MessageType := UInt32

/-- The routing id of a message that is not yet addressed to an actor. -/
def routingNone : Int32 := Int32.minValue

/-- The routing id of a control message that addresses no particular actor. -/
def routingControl : Int32 := Int32.maxValue

/-- The type of replies that have no type of their own. -/
def replyType : MessageType := 0xFFF0

/-- The type of messages that carry log records. -/
def loggingType : MessageType := 0xFFF1

/-- The greatest number of file handles that one message may announce. -/
def descriptorLimit : Nat := 32767

/-- The bytes that a header takes: eight words. -/
def headerSize : Nat := 32

/-- What precedes the content of every message. -/
structure Header where
  /-- The bytes after the header, the padded footer included. -/
  payloadSize : UInt32 := 0
  /-- The actor that the message addresses. -/
  routing : Int32
  /-- What the message is about. -/
  type : MessageType
  /-- What the message says about itself. -/
  flags : Flags
  /-- The file handles that accompany the message. -/
  handleCount : UInt32 := 0
  /-- The transaction that the message belongs to. -/
  transaction : Int32 := 0
  /-- The place of the message in the order of sending. -/
  seqno : Int32 := 0
  /-- The bytes of the footer, without padding. -/
  footerSize : UInt32 := 0
deriving DecidableEq, Repr

namespace Header

/-- The header of a message that has neither content nor attachments. -/
def addressed (routing : Int32) (type : MessageType) (flags : Flags) : Header :=
  { routing, type, flags }

/-- The header as one line of text. -/
def describe (h : Header) : String :=
  s!"MessageHeader \x7b payload_size: {h.payloadSize}, routing: {h.routing}, " ++
    s!"msg_type: {h.type}, flags: {h.flags.describe}, num_handles: {h.handleCount}, " ++
    s!"txid: {h.transaction}, seqno: {h.seqno}, event_footer_size: {h.footerSize} \x7d"

end Header

end Interprocess
