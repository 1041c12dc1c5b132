import Interprocess.Header.Basic

/-!
# Channel limits

Both ends of a channel agree on how large a message may be and in how large chunks its bytes travel.
A limit that no message could keep, or chunks without bytes, are refused.
-/

set_option autoImplicit false

namespace Interprocess

/-- The room that a payload has at once if nothing else is asked for. -/
def defaultSegmentCapacity : UInt32 := 64

/-- The limits of a channel. -/
structure ChannelConfig where
  /-- The greatest size of a message, its header included. -/
  maxMessageSize : UInt32 := 256 * 1024 * 1024
  /-- The payload that a new message has room for at once. -/
  segmentCapacity : UInt32 := defaultSegmentCapacity
  /-- The greatest length of a chunk. -/
  maxChunkLength : Nat := 4096
deriving DecidableEq, Repr

/-- Why limits are refused. -/
inductive ConfigError
  | noRoomForHeader (maxMessageSize : UInt32)
  | capacityTooLarge (capacity maxMessageSize : UInt32)
  | emptyChunks
deriving DecidableEq, Repr

/-- The text of refused limits. -/
def ConfigError.message : ConfigError → String
  | noRoomForHeader size => s!"max message size {size} is smaller than the message header"
  | capacityTooLarge capacity size =>
    s!"default segment capacity {capacity} exceeds the max message size {size}"
  | emptyChunks => "max chunk length must be positive"

namespace ChannelConfig

instance : Inhabited ChannelConfig := ⟨{}⟩

/-- Checks that the limits can be kept. -/
def validate (c : ChannelConfig) : Except ConfigError Unit :=
  if c.maxMessageSize.toNat < headerSize then .error (.noRoomForHeader c.maxMessageSize)
  else if c.segmentCapacity > c.maxMessageSize then
    .error (.capacityTooLarge c.segmentCapacity c.maxMessageSize)
  else if c.maxChunkLength = 0 then .error .emptyChunks
  else .ok ()

end ChannelConfig

end Interprocess
