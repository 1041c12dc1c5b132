import Interprocess.Session.Basic

/-!
# Transfer in a session

These steps reassemble messages from a stream, and send and receive them on a channel. Received
messages wait in the inbox of their end.
-/

set_option autoImplicit false

namespace Interprocess.Session

/-- Begins a new stream. -/
def startStream (maxMessageSize : UInt32) : SessionM Unit :=
  modify fun s => { s with stream := some (.empty maxMessageSize) }

/-- Works on the stream. -/
def onStream {α : Type} (operation : StreamBuffer → α × StreamBuffer) :
    SessionM (α × StreamBuffer) := do
  match (← get).stream with
  | none => throw (.missing .noStream)
  | some b =>
    modify fun s => { s with stream := none }
    let (a, b) := operation b
    modify fun s => { s with stream := some b }
    return (a, b)

/-- Adds bytes to the stream. -/
def extendStream (bytes : ByteArray) : SessionM StreamBuffer := do
  return (← onStream fun b => ((), b.extend bytes)).2

/-- Adds the bytes of a message to the stream. -/
def extendStreamBy (name : String) : SessionM StreamBuffer := do
  extendStream (← message name).encode

/-- Cuts the next message off the stream and puts it under a name. -/
def nextOfStream (into : String) :
    SessionM (Except StreamError (Option Message) × StreamBuffer) := do
  let (result, b) ← onStream StreamBuffer.next
  match result with
  | .ok (some m) => store into m
  | _ => pure ()
  return (result, b)

/-- Adds bytes to the stream in chunks of one length, and cuts off all messages after each. -/
def feedStream (bytes : ByteArray) (length : Nat) :
    SessionM (List (Nat × Arrival) × StreamBuffer) :=
  onStream fun b => b.feed (chunks length bytes)

/-- The channel that is there. -/
def currentChannel : SessionM Channel := do
  match (← get).channel with
  | some c => return c
  | none => throw (.missing .noChannel)

/-- Replaces the channel without letting go of anything. -/
def replaceChannel (c : Channel) : SessionM Unit :=
  modify fun s => { s with channel := some c }

/-- Lets go of the channel and of what was received on it. -/
def dropChannel : SessionM Unit := do
  let before := (← get).channel
  let inboxes := (← get).inboxes
  modify fun s => { s with channel := none, inboxes := {} }
  match before with
  | some c =>
    release c.first.receiver.close
    release c.second.receiver.close
  | none => pure ()
  release (Released.gather (inboxes.first.map Message.close))
  release (Released.gather (inboxes.second.map Message.close))

/-- Begins a new channel in place of the one that was there. -/
def startChannel (config : ChannelConfig) : SessionM Unit := do
  match Channel.create config with
  | .error e => throw (.config e)
  | .ok c =>
    dropChannel
    replaceChannel c

/-- Puts a new message for the channel under a name. -/
def createForChannel (name : String) (routing : Int32) (type : MessageType) (flags : Flags) :
    SessionM Message := do
  let m := (← currentChannel).newMessage routing type flags
  store name m
  return m

/-- Sends a message from an end. It is gone afterwards, whether or not it could be sent. -/
def send (side : Side) (name : String) : SessionM Unit := do
  let c ← currentChannel
  let sending := c.send side (← takeMessage name)
  replaceChannel sending.channel
  release sending.released
  match sending.result with
  | .ok () => return ()
  | .error e => throw (.send e)

/-- Works on the channel by an operation that may let go of something. -/
def onChannel (operation : Channel → Channel × Released) : SessionM Unit := do
  let (c, released) := operation (← currentChannel)
  replaceChannel c
  release released

/-- Holds a new receive loop at an end. -/
def startLoop (side : Side) : SessionM Unit := onChannel fun c => c.start side

/-- Asks the receive loop of an end to end. -/
def cancelLoop (side : Side) : SessionM Unit := onChannel fun c => (c.cancel side, ∅)

/-- Gives the receive loop of an end up. -/
def abortLoop (side : Side) : SessionM Unit := onChannel fun c => c.abort side

/-- Gives an end up. -/
def dropEnd (side : Side) : SessionM Unit := onChannel fun c => c.drop side

/-- Runs the receive loop of an end as far as it comes. What it received goes to the inbox. -/
def pollLoop (side : Side) : SessionM (LoopStatus × List Message) := do
  match (← currentChannel).poll? side with
  | none => throw (.missing .noLoop)
  | some (c, round) =>
    replaceChannel c
    release round.released
    modify fun s =>
      { s with inboxes := s.inboxes.set side (s.inboxes.get side ++ round.received) }
    return (round.status, round.received)

/-- Moves the oldest message of an inbox under a name. -/
def takeReceived (side : Side) (into : String) : SessionM (Option Message) := do
  match (← get).inboxes.get side with
  | [] => return none
  | m :: rest =>
    modify fun s => { s with inboxes := s.inboxes.set side rest }
    store into m
    return some m

/-- Begins a new pair that is to be shut down. -/
def startPair (mode : Shutdown.Mode) : SessionM Shutdown.Pair := do
  let p := Shutdown.Pair.start mode
  modify fun s => { s with pair := some p }
  return p

/-- Works on the pair that is to be shut down. -/
def onPair (operation : Shutdown.Pair → Shutdown.Pair) : SessionM Shutdown.Pair := do
  match (← get).pair with
  | none => throw (.missing .noPair)
  | some p =>
    let p := operation p
    modify fun s => { s with pair := some p }
    return p

end Interprocess.Session
