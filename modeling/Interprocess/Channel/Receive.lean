import Interprocess.Channel.Basic
import Interprocess.Message.Write

/-!
# Receiving

A receive loop takes the chunks that have arrived, reassembles messages from them, and joins each
message with the next parcel of attachments. `Channel.poll` runs the loop of one end as far as it
comes. What has arrived is handled first; then the loop is finished if the other end is gone or if
it was asked to end, and otherwise it waits for more. A broken stream ends it at once. A loop that
is over takes the inlet along, and what was still under way is closed. `Channel.further` is a second
call of the loop: the inlet can be taken over only once, so the call fails if that was done before.
-/

set_option autoImplicit false

namespace Interprocess

/-- Why a receive loop ends before its time. -/
inductive LoopError
  | alreadyStarted
  | stream (error : StreamError)
  | handleMismatch (announced relayed : Nat)
  | parcelMissing (m : Message)
  | attachment (error : MessageError)
deriving DecidableEq

/-- The text of a failed loop. -/
def LoopError.message : LoopError → String
  | alreadyStarted => "the receive loop was started already"
  | stream error => error.message
  | handleMismatch announced relayed =>
    s!"message announces {announced} file handles, but {relayed} were relayed"
  | parcelMissing m => s!"attachment channel closed before message {m.describe}"
  | attachment error => error.message

/-- Joins a message with the attachments that arrived beside it. -/
def Parcel.attach (p : Parcel) (m : Message) : Except LoopError Message :=
  let announced := m.header.handleCount.toNat
  if p.handles.length ≠ announced then
    .error (.handleMismatch announced p.handles.length)
  else
    let attachAll : MessageM Unit := do
      Message.attachHandles p.handles
      Message.attachPorts p.ports
    match attachAll.run m with
    | .ok () m => .ok m
    | .error e _ => .error (.attachment e)

/-- Why a loop stops handling what has arrived. -/
inductive Pause
  /-- The bytes that are there make no whole message. -/
  | needsBytes
  /-- There is a whole message, but not its attachments. -/
  | needsParcel
  /-- The loop cannot go on. -/
  | failed (error : LoopError)
deriving DecidableEq

/-- What a loop has made of what arrived. -/
structure Delivery where
  /-- The messages, joined with their attachments. -/
  messages : List Message
  /-- The bytes that make no message yet. -/
  buffer : StreamBuffer
  /-- The chunks that were not looked at. -/
  chunks : List ByteArray
  /-- The attachments that were not joined with a message. -/
  parcels : List Parcel
  /-- Why the loop stopped. -/
  pause : Pause

/-- Joins the messages of a buffer with the next parcels, at most `fuel` of them. While the sender
is there, a message without a parcel stays in the buffer. -/
def deliverFor (senderPresent : Bool) :
    Nat → StreamBuffer → List Parcel → List Message × StreamBuffer × List Parcel × Pause
  | 0, buffer, parcels => ([], buffer, parcels, .needsBytes)
  | fuel + 1, buffer, parcels =>
    match buffer.next with
    | (.error e, rest) => ([], rest, parcels, .failed (.stream e))
    | (.ok none, rest) => ([], rest, parcels, .needsBytes)
    | (.ok (some m), rest) =>
      match parcels with
      | [] =>
        if senderPresent then ([], buffer, [], .needsParcel)
        else ([], rest, [], .failed (.parcelMissing m))
      | parcel :: others =>
        match parcel.attach m with
        | .error e => ([], rest, parcels, .failed e)
        | .ok m =>
          let (messages, outcome) := deliverFor senderPresent fuel rest others
          (m :: messages, outcome)

/-- Joins all messages of a buffer with parcels. Every message takes some bytes, so there are no
more of them than bytes. -/
def deliver (senderPresent : Bool) (buffer : StreamBuffer) (parcels : List Parcel) :
    List Message × StreamBuffer × List Parcel × Pause :=
  deliverFor senderPresent (buffer.size + 1) buffer parcels

/-- Handles chunks one after the other, behind the messages that were received before. -/
def receive (senderPresent : Bool) (received : List Message) :
    List ByteArray → StreamBuffer → List Parcel → Delivery
  | chunks, buffer, parcels =>
    match deliver senderPresent buffer parcels, chunks with
    | (messages, buffer, parcels, .needsBytes), chunk :: chunks =>
      receive senderPresent (received ++ messages) chunks (buffer.extend chunk) parcels
    | (messages, buffer, parcels, pause), chunks =>
      { messages := received ++ messages, buffer, chunks, parcels, pause }

/-- Whether a receive loop goes on. -/
inductive LoopStatus
  | running
  | finished
  | failed (error : LoopError)
deriving DecidableEq

/-- What a run of a receive loop has brought. -/
structure Round where
  /-- The receiver afterwards. -/
  receiver : Receiver
  /-- Whether the loop goes on. -/
  status : LoopStatus
  /-- The messages that were handed over. -/
  received : List Message
  /-- What was closed. -/
  released : Released

/-- What a call of the loop brings that finds no inlet to take over. -/
def Round.alreadyStarted (receiver : Receiver) : Round :=
  { receiver, status := .failed .alreadyStarted, received := [], released := ∅ }

/-- Runs a loop that has taken an inlet over as far as it comes. -/
def Inlet.run (inlet : Inlet) (buffer : StreamBuffer) (senderPresent : Bool) : Round :=
  let d := receive senderPresent [] inlet.chunks buffer inlet.parcels
  let left : Inlet := { inlet with chunks := d.chunks, parcels := d.parcels }
  let ended (status : LoopStatus) : Round :=
    { receiver := .closed false, status, received := d.messages, released := left.close }
  let goesOn : Round :=
    { receiver := .listening left d.buffer, status := .running, received := d.messages
      released := ∅ }
  match d.pause with
  | .failed e => ended (.failed e)
  | .needsParcel => goesOn
  | .needsBytes => if !senderPresent || inlet.cancelled then ended .finished else goesOn

/-- Runs the loop that a receiver holds. There is none to run if none was started. -/
def Receiver.run? (r : Receiver) (config : ChannelConfig) (senderPresent : Bool) : Option Round :=
  match r with
  | .ready inlet true => some (inlet.run (.empty config.maxMessageSize) senderPresent)
  | .listening inlet buffer => some (inlet.run buffer senderPresent)
  | .closed true => some (.alreadyStarted (.closed false))
  | .ready _ false | .closed false => none

/-- Calls the receive loop once more, beside the loop that a receiver may hold, and runs this call
as far as it comes. Only the first call that runs takes the inlet over. Every other one fails at
once, and the loop that is there goes on. A loop that was held and comes second is forgotten; when
it runs it is such a call as well. -/
def Receiver.further (r : Receiver) (config : ChannelConfig) (senderPresent : Bool) : Round :=
  match r with
  | .ready inlet _ => inlet.run (.empty config.maxMessageSize) senderPresent
  | .listening .. | .closed _ => .alreadyStarted r

/-- Calls the receive loop of an end once more, beside the one that may be there. -/
def Channel.further (c : Channel) (side : Side) : Channel × Round :=
  let e := c.endpoint side
  let round := e.receiver.further c.config (c.endpoint side.other).present
  (c.setEndpoint side { e with receiver := round.receiver }, round)

/-- Runs the receive loop of an end as far as it comes. -/
def Channel.poll? (c : Channel) (side : Side) : Option (Channel × Round) :=
  let e := c.endpoint side
  (e.receiver.run? c.config (c.endpoint side.other).present).map fun round =>
    (c.setEndpoint side { e with receiver := round.receiver }, round)

end Interprocess
