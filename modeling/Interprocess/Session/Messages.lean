import Interprocess.Session.Basic

/-!
# Building and reading messages in a session

These steps make messages under a name, change them, take them apart and read them. An attachment
that a message refuses is closed, and one that is moved out of a message is dealt with as the step
asks.
-/

set_option autoImplicit false

namespace Interprocess.Session

/-- Puts a new message under a name. -/
def create (name : String) (m : Message) : SessionM Message := do
  store name m
  return m

/-- Puts the reply to a message under a name. -/
def createReply (name call : String) (type : MessageType) : SessionM Message := do
  create name ((← message call).reply type)

/-- Puts the message that bytes are under a name. -/
def decode (name : String) (bytes : ByteArray) : SessionM Message := do
  match Message.decode bytes with
  | .ok m => create name m
  | .error e => throw (.decode e)

/-- Puts the message that the bytes of another one are under a name. Attachments stay behind. -/
def reencode (name into : String) : SessionM Message := do
  decode into (← message name).encode

/-- Lets go of the message of a name. -/
def dropMessage (name : String) : SessionM Unit := do
  release (← takeMessage name).close

/-- Checks the size of the message of a name. -/
def checkSize (name : String) : SessionM Unit := do
  match (← message name).checkSize with
  | .ok () => return ()
  | .error e => throw (.refused e)

/-- What is to be changed about a message. -/
structure Adjustment where
  /-- Whether the message travels through a third party. -/
  relay : Option Bool := none
  /-- The actor that the message addresses. -/
  routing : Option Int32 := none
  /-- The transaction that the message belongs to. -/
  transaction : Option Int32 := none
  /-- The place of the message in the order of sending. -/
  seqno : Option Int32 := none

/-- Changes what is asked for about a message. -/
def Adjustment.apply (a : Adjustment) (m : Message) : Message :=
  let m := a.relay.elim m m.setRelay
  let m := a.routing.elim m m.setRouting
  let m := a.transaction.elim m m.setTransaction
  a.seqno.elim m m.setSeqno

/-- Changes what is asked for about the message of a name. -/
def adjust (name : String) (a : Adjustment) : SessionM Message := do
  let m := a.apply (← takeMessage name)
  replace name m
  return m

/-- Writes fields at the end of a payload. -/
def write (name : String) (fields : List Field) : SessionM Message := do
  onMessage name (Field.writeAll fields)
  message name

/-- Adds bytes to the end of a footer. -/
def writeFooter (name : String) (bytes : ByteArray) : SessionM Message := do
  onMessage name (Message.writeFooter bytes)
  message name

/-- Copies a footer over the beginning of a buffer. -/
def readFooter (name : String) (buffer : ByteArray) (truncate : Bool) :
    SessionM (ByteArray × Message) := do
  let filled ← onMessage name (Message.readFooter buffer truncate)
  return (filled, ← message name)

/-- Works on the message of a name by an operation that takes attachments over. If it is refused,
they are closed. -/
def handOver (name : String) (attachments : Released) (operation : MessageM Unit) :
    SessionM Message := do
  match operation.run (← takeMessage name) with
  | .ok () m =>
    replace name m
    return m
  | .error e m =>
    replace name m
    release attachments
    throw (.refused e)

/-- Attaches a file handle to a message and writes its slot number. -/
def writeHandle (name : String) (h : Handle) : SessionM Message :=
  handOver name h.close (Message.writeHandle h)

/-- Attaches a port to a message and writes its slot number. -/
def writePort (name : String) (p : Port) : SessionM Message :=
  handOver name p.close (Message.writePort p)

/-- Attaches the file handles that arrived beside the bytes of a message. -/
def attachHandles (name : String) (hs : List Handle) : SessionM Message :=
  handOver name (Released.gather (hs.map Handle.close)) (Message.attachHandles hs)

/-- Attaches the ports that arrived beside the bytes of a message. -/
def attachPorts (name : String) (ps : List Port) : SessionM Message :=
  handOver name (Released.gather (ps.map Port.close)) (Message.attachPorts ps)

/-- Attaches the file handles that are kept. -/
def attachHeldHandles (name : String) : SessionM Message := do
  attachHandles name (← takeHeldHandles)

/-- Attaches the ports that are kept. -/
def attachHeldPorts (name : String) : SessionM Message := do
  attachPorts name (← takeHeldPorts)

/-- What became of a row of file handles. -/
structure BulkResult where
  /-- The message afterwards. -/
  message : Message
  /-- The number of handles that the message took over. -/
  written : Nat := 0
  /-- Why the first of the others was refused. -/
  firstError : Option MessageError := none
  /-- What was closed. -/
  released : Released := ∅

/-- Attaches one more file handle of a row. -/
def BulkResult.push (r : BulkResult) (h : Handle) : BulkResult :=
  match (Message.writeHandle h).run r.message with
  | .ok () m => { r with message := m, written := r.written + 1 }
  | .error e m =>
    { r with
      message := m
      firstError := r.firstError <|> some e
      released := r.released ++ h.close }

/-- As many file handles as asked for, numbered from zero, whose closing nobody asks after. -/
def unwatchedHandles (count : Nat) : List Handle :=
  (List.range count).map fun i => { id := Int.ofNat i, watched := false }

/-- Attaches a row of unwatched file handles one after the other. Those that are refused are
closed. -/
def writeHandles (name : String) (count : Nat) : SessionM BulkResult := do
  let m ← takeMessage name
  let result := (unwatchedHandles count).foldl BulkResult.push { message := m }
  replace name result.message
  release result.released
  return result

/-- Moves the first file handle out that is left. -/
def takeHandle (name : String) (fate : Fate) : SessionM (Option Handle × Message) := do
  let h ← updateMessage name Message.takeHandle
  settleHandles fate h.toList
  return (h, ← message name)

/-- Moves the first port out that is left. -/
def takePort (name : String) (fate : Fate) : SessionM (Option Port × Message) := do
  let p ← updateMessage name Message.takePort
  settlePorts fate p.toList
  return (p, ← message name)

/-- What was seen while attachments were taken apart. -/
structure Unpacked where
  /-- The attachments, still together. -/
  whole : Attachments
  /-- The file handles that were left. -/
  handles : List Handle
  /-- The attachments without handles. -/
  withoutHandles : Attachments
  /-- The ports that were left. -/
  ports : List Port
  /-- What remains in the end. -/
  rest : Attachments
  /-- The message without attachments. -/
  message : Message

/-- Moves all attachments out of a message and takes them apart. -/
def takeAttachments (name : String) (fate : Fate) : SessionM Unpacked := do
  let whole ← updateMessage name Message.takeAttachments
  let (handles, withoutHandles) := whole.takeHandles
  settleHandles fate handles
  let (ports, rest) := withoutHandles.takePorts
  settlePorts fate ports
  return { whole, handles, withoutHandles, ports, rest, message := ← message name }

/-- Moves all attachments out of a message and lets go of them. -/
def dropAttachments (name : String) : SessionM Message := do
  release (← updateMessage name Message.takeAttachments).close
  message name

/-- What came of one read. -/
structure ReadResult where
  /-- The field, or why there is none. -/
  result : Except ReadError Field
  /-- The bytes that are still to be read. -/
  left : Nat
  /-- Whether the payload was read to its end. -/
  atEnd : Bool

/-- Reads one field after the other, whether or not the ones before could be read. -/
def readFrom (fate : Fate) : List Field.Kind → Reader → SessionM (List ReadResult × Reader)
  | [], r => return ([], r)
  | kind :: kinds, r => do
    let (result, r) : Except ReadError Field × Reader :=
      match kind.read.run r with
      | .ok field r => (.ok field, r)
      | .error e r => (.error e, r)
    match result with
    | .ok (.handle h) => settleHandles fate [h]
    | .ok (.port p) => settlePorts fate [p]
    | _ => pure ()
    let here : ReadResult := { result, left := r.remaining, atEnd := r.isEmpty }
    let (later, r) ← readFrom fate kinds r
    return (here :: later, r)

/-- Reads the payload of a message from its beginning. -/
def read (name : String) (kinds : List Field.Kind) (fate : Fate) :
    SessionM (List ReadResult) := do
  let (results, r) ← readFrom fate kinds (← takeMessage name).reader
  replace name r.message
  return results

end Interprocess.Session
