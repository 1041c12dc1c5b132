import Interprocess.Call.Tracker
import Interprocess.Channel.Receive
import Interprocess.Dispatch.Queue
import Interprocess.Dispatch.Table
import Interprocess.Message.Field
import Interprocess.Registry
import Interprocess.Shutdown.Pair

/-!
# Sessions

A session is a workbench for messages: it keeps messages, trackers and attachments under names or in
order, a queue, a stream, a table of handlers, a channel and a pair to be shut down, and works on
them step by step. Everything that is let go of during a step is noted in `Session.released`, so
that every attachment is at any time either kept somewhere in the session or noted there.
-/

set_option autoImplicit false

namespace Interprocess

/-- What handlers of a session have noted: their labels and the messages they were given. -/
abbrev HandlerLog := List (String × Message)

/-- The ends' received messages that nobody has asked for yet. -/
structure Inboxes where
  /-- The messages for the first end, oldest first. -/
  first : List Message := []
  /-- The messages for the second end, oldest first. -/
  second : List Message := []

namespace Inboxes

/-- The messages for one end. -/
def get (i : Inboxes) : Side → List Message
  | .a => i.first
  | .b => i.second

/-- Replaces the messages for one end. -/
def set (i : Inboxes) (side : Side) (ms : List Message) : Inboxes :=
  match side with
  | .a => { i with first := ms }
  | .b => { i with second := ms }

end Inboxes

/-- A workbench for messages. -/
structure Session where
  /-- The messages by name. -/
  messages : Registry String Message := ∅
  /-- The file handles that were moved out of messages and kept, in order. -/
  heldHandles : List Handle := []
  /-- The ports that were moved out of messages and kept, in order. -/
  heldPorts : List Port := []
  /-- The trackers by name. -/
  trackers : Registry String Tracker := ∅
  /-- The messages that wait to be dispatched. -/
  queue : PendingQueue := .empty
  /-- The stream that is being reassembled. -/
  stream : Option StreamBuffer := none
  /-- The handlers by message type. -/
  table : DispatchTable HandlerLog := {}
  /-- The channel. -/
  channel : Option Channel := none
  /-- The messages that were received on the channel. -/
  inboxes : Inboxes := {}
  /-- The pair that is to be shut down. -/
  pair : Option Shutdown.Pair := none
  /-- What was let go of during this step. -/
  released : Released := ∅

/-- What a step asks for and is not there. -/
inductive Missing
  | noMessage (name : String)
  | noTracker (name : String)
  | noStream
  | noChannel
  | noLoop
  | noPair
deriving DecidableEq, Repr

/-- The text of what is not there. -/
def Missing.message : Missing → String
  | noMessage name => s!"there is no message {name}"
  | noTracker name => s!"there is no tracker {name}"
  | noStream => "there is no stream"
  | noChannel => "there is no channel"
  | noLoop => "there is no receive loop"
  | noPair => "there is no pair"

/-- Why a step fails. -/
inductive Failure
  | missing (what : Missing)
  | flags (error : Flags.BitsError)
  | number (error : UnknownNumber)
  | header (error : HeaderError)
  | decode (error : DecodeError)
  | refused (error : MessageError)
  | config (error : ConfigError)
  | table (error : TableError)
  | send (error : SendError)
deriving DecidableEq, Repr

namespace Failure

/-- The text of a failure. -/
def message : Failure → String
  | missing what => what.message
  | flags error => error.message
  | number error => error.message
  | header error => error.message
  | decode error => error.message
  | refused error => error.message
  | config error => error.message
  | table error => error.message
  | send error => error.message

/-- Whether the step broke a rule that it had to keep, rather than meeting a limit. -/
def isMisuse : Failure → Bool
  | refused error => error.isMisuse
  | _ => false

end Failure

/-- Steps of a session. A step that fails leaves the session as far as it came. -/
abbrev SessionM := EStateM Failure Session

namespace Session

/-- A session in which nothing has happened. -/
def initial : Session := {}

instance : Inhabited Session := ⟨initial⟩

/-- The session at the beginning of a step, before anything is let go of. -/
def beginStep (s : Session) : Session := { s with released := ∅ }

/-- Notes what is let go of. -/
def release (r : Released) : SessionM Unit :=
  modify fun s => { s with released := s.released ++ r }

/-- The message of a name, which stays where it is. -/
def message (name : String) : SessionM Message := do
  match (← get).messages.get? name with
  | some m => return m
  | none => throw (.missing (.noMessage name))

/-- Replaces the message of a name without letting go of anything. -/
def replace (name : String) (m : Message) : SessionM Unit :=
  modify fun s => { s with messages := s.messages.put name m }

/-- Moves the message of a name out of the session. -/
def takeMessage (name : String) : SessionM Message := do
  let m ← message name
  modify fun s => { s with messages := s.messages.remove name }
  return m

/-- Puts a message under a name, and lets go of the one that was there. -/
def store (name : String) (m : Message) : SessionM Unit := do
  let before := (← get).messages.get? name
  replace name m
  match before with
  | some old => release old.close
  | none => return ()

/-- Works on the message of a name. What a refused operation has done by then stays done. -/
def onMessage {α : Type} (name : String) (operation : MessageM α) : SessionM α := do
  match operation.run (← takeMessage name) with
  | .ok a m =>
    replace name m
    return a
  | .error e m =>
    replace name m
    throw (.refused e)

/-- Works on the message of a name by an operation that is never refused. -/
def updateMessage {α : Type} (name : String) (operation : Message → α × Message) :
    SessionM α := do
  let (a, m) := operation (← takeMessage name)
  replace name m
  return a

/-- What becomes of an attachment that was moved out of a message. -/
inductive Fate
  /-- It is closed. -/
  | drop
  /-- It is kept by the session. -/
  | keep
  /-- A port is given up without closing; a handle is closed. -/
  | giveUp
deriving DecidableEq, Repr

/-- Deals with handles that were moved out of a message. -/
def settleHandles (fate : Fate) (hs : List Handle) : SessionM Unit :=
  match fate with
  | .keep => modify fun s => { s with heldHandles := s.heldHandles ++ hs }
  | .drop | .giveUp => release (Released.gather (hs.map Handle.close))

/-- Deals with ports that were moved out of a message. -/
def settlePorts (fate : Fate) (ps : List Port) : SessionM Unit :=
  match fate with
  | .keep => modify fun s => { s with heldPorts := s.heldPorts ++ ps }
  | .drop => release (Released.gather (ps.map Port.close))
  | .giveUp => release (Released.gather (ps.map fun p => p.release.close))

/-- Hands out the handles that are kept. -/
def takeHeldHandles : SessionM (List Handle) :=
  modifyGet fun s => (s.heldHandles, { s with heldHandles := [] })

/-- Hands out the ports that are kept. -/
def takeHeldPorts : SessionM (List Port) :=
  modifyGet fun s => (s.heldPorts, { s with heldPorts := [] })

/-- Lets go of all that is kept, in order. -/
def dropHeld : SessionM Unit := do
  let handles ← takeHeldHandles
  let ports ← takeHeldPorts
  release (Released.gather (handles.map Handle.close))
  release (Released.gather (ports.map Port.close))

end Session

end Interprocess
