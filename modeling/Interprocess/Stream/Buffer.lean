import Interprocess.Message.Wire

/-!
# Reassembly

A byte stream arrives in chunks whose ends need not be the ends of messages. `StreamBuffer` collects
the bytes, and `StreamBuffer.next` cuts the next whole message off the front. A stream whose next
header announces an impossible or a forbidden size cannot go on, so nothing is cut off then; a
message of the right size that is not well formed is cut off and refused. `StreamBuffer.drain` cuts
off messages as long as there are any, and `StreamBuffer.feed` does so after each of several chunks.
-/

set_option autoImplicit false

namespace Interprocess

/-- Bytes of a stream that are not part of a finished message yet. -/
structure StreamBuffer where
  /-- The bytes in the order of arrival. -/
  bytes : ByteArray := ByteArray.empty
  /-- The greatest size that a message may have. -/
  maxMessageSize : UInt32
deriving DecidableEq

/-- Why a stream cannot go on. -/
inductive StreamError
  | sizeOverflow
  | tooLarge (size : Nat) (limit : UInt32)
  | malformed (error : DecodeError)
deriving DecidableEq, Repr

/-- The text of a broken stream. -/
def StreamError.message : StreamError → String
  | sizeOverflow => "message size in header overflows"
  | tooLarge size limit =>
    s!"message of {size} bytes exceeds the max message size of {limit} bytes"
  | malformed error => error.message

/-- What comes out of a stream at one place. -/
structure Arrival where
  /-- A message, or the reason why there will be none. -/
  result : Except StreamError Message
  /-- The bytes that stay in the buffer. -/
  left : Nat

/-- Whether the stream cannot go on from here. -/
def Arrival.failed (a : Arrival) : Bool :=
  match a.result with
  | .ok _ => false
  | .error _ => true

namespace StreamBuffer

/-- A buffer without bytes. -/
def empty (maxMessageSize : UInt32) : StreamBuffer := { maxMessageSize }

/-- The number of bytes in the buffer. -/
def size (b : StreamBuffer) : Nat := b.bytes.size

/-- Whether the buffer has no bytes. -/
def isEmpty (b : StreamBuffer) : Bool := b.bytes.isEmpty

/-- Adds bytes that arrived. -/
def extend (b : StreamBuffer) (chunk : ByteArray) : StreamBuffer :=
  { b with bytes := b.bytes ++ chunk }

/-- Cuts the next message off the front. There is none while its bytes have not all arrived. -/
def next (b : StreamBuffer) : Except StreamError (Option Message) × StreamBuffer :=
  if b.bytes.size < headerSize then (.ok none, b)
  else
    let size := messageSize b.bytes
    if size = 0 then (.error .sizeOverflow, b)
    else if size > b.maxMessageSize.toNat then (.error (.tooLarge size b.maxMessageSize), b)
    else if b.bytes.size < size then (.ok none, b)
    else
      let rest := { b with bytes := b.bytes.extract size b.bytes.size }
      match Message.decode (b.bytes.extract 0 size) with
      | .ok m => (.ok (some m), rest)
      | .error e => (.error (.malformed e), rest)

/-- Cuts off messages, at most `fuel` of them, up to the first error. -/
def drainFor : Nat → StreamBuffer → List Arrival × StreamBuffer
  | 0, b => ([], b)
  | fuel + 1, b =>
    match b.next with
    | (.ok none, b) => ([], b)
    | (.error e, b) => ([{ result := .error e, left := b.size }], b)
    | (.ok (some m), b) =>
      let (arrivals, rest) := drainFor fuel b
      ({ result := .ok m, left := b.size } :: arrivals, rest)

/-- Cuts off all messages up to the first error. Every message takes some bytes, so there are no
more of them than bytes. -/
def drain (b : StreamBuffer) : List Arrival × StreamBuffer :=
  drainFor b.size b

/-- Adds chunks one after the other and cuts off all messages after each. Every result comes with
the number of its chunk. Chunks behind an error are left out. -/
def feedFrom (index : Nat) : List ByteArray → StreamBuffer → List (Nat × Arrival) × StreamBuffer
  | [], b => ([], b)
  | chunk :: rest, b =>
    let (arrivals, b) := (b.extend chunk).drain
    let numbered := arrivals.map fun a => (index, a)
    if arrivals.any Arrival.failed then (numbered, b)
    else
      let (later, b) := feedFrom (index + 1) rest b
      (numbered ++ later, b)

/-- Adds chunks one after the other and cuts off all messages after each. -/
def feed (b : StreamBuffer) (chunks : List ByteArray) : List (Nat × Arrival) × StreamBuffer :=
  feedFrom 0 chunks b

end StreamBuffer

end Interprocess
