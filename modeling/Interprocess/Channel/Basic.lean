import Interprocess.Channel.Config
import Interprocess.Channel.Endpoint
import Interprocess.Message.Wire
import Interprocess.Wire.Chunk

/-!
# Channels

A channel joins two ends in one process. A message is sent whole or not at all: its attachments are
queued as one parcel, then its bytes in chunks. A message that is too large, that announces other
file handles than it holds, or whose receiver is gone, is refused, and what it holds is closed.
-/

set_option autoImplicit false

namespace Interprocess

/-- The ends of a channel. -/
inductive Side
  | a
  | b
deriving DecidableEq, Repr

/-- The opposite end. -/
def Side.other : Side → Side
  | a => b
  | b => a

/-- Two ends that are joined. -/
structure Channel where
  /-- The limits that both ends keep. -/
  config : ChannelConfig
  /-- The first end. -/
  first : Endpoint := .initial
  /-- The second end. -/
  second : Endpoint := .initial
deriving DecidableEq

/-- Why a message is not sent. -/
inductive SendError
  | tooLarge (size : Nat) (limit : UInt32)
  | handleMismatch (announced held : Nat)
  | peerClosed
deriving DecidableEq, Repr

/-- The text of a message that is not sent. -/
def SendError.message : SendError → String
  | tooLarge size limit =>
    s!"message of {size} bytes exceeds the max message size of {limit} bytes"
  | handleMismatch announced held =>
    s!"message announces {announced} file handles, but holds {held}"
  | peerClosed => "peer closed the channel"

/-- What became of a message that was to be sent. -/
structure Sending where
  /-- The channel afterwards. -/
  channel : Channel
  /-- Whether the message is under way. -/
  result : Except SendError Unit
  /-- What was closed. -/
  released : Released

namespace Channel

/-- A new channel with limits that can be kept. -/
def create (config : ChannelConfig) : Except ConfigError Channel :=
  match config.validate with
  | .ok () => .ok { config }
  | .error e => .error e

/-- One of the two ends. -/
def endpoint (c : Channel) : Side → Endpoint
  | .a => c.first
  | .b => c.second

/-- Replaces one of the two ends. -/
def setEndpoint (c : Channel) (side : Side) (e : Endpoint) : Channel :=
  match side with
  | .a => { c with first := e }
  | .b => { c with second := e }

/-- A new message with the room that the channel's limits ask for. -/
def newMessage (_ : Channel) (routing : Int32) (type : MessageType) (flags : Flags) : Message :=
  .addressed routing type flags

/-- Queues a message behind what is under way. -/
def enqueue (c : Channel) (m : Message) (parcel : Parcel) (inlet : Inlet) : Inlet :=
  { inlet with
    parcels := inlet.parcels ++ [parcel]
    chunks := inlet.chunks ++ chunks c.config.maxChunkLength m.encode }

/-- Sends a message from one end to the other. -/
def send (c : Channel) (side : Side) (m : Message) : Sending :=
  let refuse (e : SendError) : Sending :=
    { channel := c, result := .error e, released := m.close }
  let peer := c.endpoint side.other
  let handles := m.attachments.handles.remaining
  let announced := m.header.handleCount.toNat
  if m.size > c.config.maxMessageSize.toNat then
    refuse (.tooLarge m.size c.config.maxMessageSize)
  else if handles.length ≠ announced then
    refuse (.handleMismatch announced handles.length)
  else if peer.receiver.inlet?.isNone then
    refuse .peerClosed
  else
    let parcel : Parcel := { handles, ports := m.attachments.ports.remaining }
    let receiver := peer.receiver.mapInlet (c.enqueue m parcel)
    { channel := c.setEndpoint side.other { peer with receiver }
      result := .ok ()
      released := ∅ }

/-- Asks the receive loop of an end to end. -/
def cancel (c : Channel) (side : Side) : Channel :=
  c.setEndpoint side (c.endpoint side).cancel

/-- Holds a new receive loop at an end. -/
def start (c : Channel) (side : Side) : Channel × Released :=
  let (e, released) := (c.endpoint side).start
  (c.setEndpoint side e, released)

/-- Gives the receive loop of an end up. -/
def abort (c : Channel) (side : Side) : Channel × Released :=
  let (e, released) := (c.endpoint side).abort
  (c.setEndpoint side e, released)

/-- Gives an end up. -/
def drop (c : Channel) (side : Side) : Channel × Released :=
  let (e, released) := (c.endpoint side).drop
  (c.setEndpoint side e, released)

end Channel

end Interprocess
