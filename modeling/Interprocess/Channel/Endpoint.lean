import Interprocess.Attachment.Basic
import Interprocess.Stream.Buffer

/-!
# Ends of a channel

Bytes and attachments travel to an end side by side: the bytes of all messages in chunks, and the
attachments of each message as one parcel. `Inlet` is what is under way to an end. A receive loop
takes the inlet over when it first runs; when that loop ends or is given up, the inlet is gone for
good and what was still under way is released. `Receiver` keeps track of this, and `Endpoint` adds
whether the end itself is still there.
-/

set_option autoImplicit false

namespace Interprocess

/-- The attachments of one message under way. -/
structure Parcel where
  /-- The file handles, in slot order. -/
  handles : List Handle
  /-- The ports, in slot order. -/
  ports : List Port
deriving DecidableEq, Repr

/-- Closes what a parcel holds. -/
def Parcel.close (p : Parcel) : Released :=
  Released.gather (p.handles.map Handle.close) ++ Released.gather (p.ports.map Port.close)

/-- What is under way to one end. -/
structure Inlet where
  /-- The bytes, in the chunks in which they were sent. -/
  chunks : List ByteArray := []
  /-- The attachments, one parcel for each message. -/
  parcels : List Parcel := []
  /-- Whether the receive loop was asked to end. -/
  cancelled : Bool := false
deriving DecidableEq

/-- Closes what is under way. -/
def Inlet.close (i : Inlet) : Released := Released.gather (i.parcels.map Parcel.close)

/-- How far an end has come with receiving. -/
inductive Receiver
  /-- No loop has taken the inlet over. A loop that is `held` has not run yet. -/
  | ready (inlet : Inlet) (held : Bool)
  /-- A loop has taken the inlet over and waits for bytes. -/
  | listening (inlet : Inlet) (buffer : StreamBuffer)
  /-- The inlet is gone. A loop that is `held` has not run yet. -/
  | closed (held : Bool)
deriving DecidableEq

namespace Receiver

/-- The receiver of a new end. -/
def initial : Receiver := ready {} false

/-- What is under way, unless the inlet is gone. -/
def inlet? : Receiver → Option Inlet
  | ready inlet _ | listening inlet _ => some inlet
  | closed _ => none

/-- Changes what is under way. -/
def mapInlet (f : Inlet → Inlet) : Receiver → Receiver
  | ready inlet held => ready (f inlet) held
  | listening inlet buffer => listening (f inlet) buffer
  | closed held => closed held

/-- Gives a loop up. One that has taken the inlet over loses it. -/
def abort : Receiver → Receiver × Released
  | ready inlet _ => (ready inlet false, ∅)
  | listening inlet _ => (closed false, inlet.close)
  | closed _ => (closed false, ∅)

/-- Holds a new loop, which has not run yet. A loop that was there is given up. -/
def start (r : Receiver) : Receiver × Released :=
  match r.abort with
  | (ready inlet _, released) => (ready inlet true, released)
  | (listening inlet buffer, released) => (listening inlet buffer, released)
  | (closed _, released) => (closed true, released)

/-- Gives the loop up and the inlet with it. -/
def close (r : Receiver) : Released :=
  match r.inlet? with
  | some inlet => inlet.close
  | none => ∅

end Receiver

/-- One end of a channel. -/
structure Endpoint where
  /-- How far the end has come with receiving. -/
  receiver : Receiver := .initial
  /-- Whether the end is still there and may send. -/
  present : Bool := true
deriving DecidableEq

namespace Endpoint

/-- A new end. -/
def initial : Endpoint := {}

/-- Asks the receive loop to end. The wish is kept until a loop runs. -/
def cancel (e : Endpoint) : Endpoint :=
  { e with receiver := e.receiver.mapInlet fun i => { i with cancelled := true } }

/-- Holds a new receive loop. -/
def start (e : Endpoint) : Endpoint × Released :=
  let (receiver, released) := e.receiver.start
  ({ e with receiver }, released)

/-- Gives the receive loop up. -/
def abort (e : Endpoint) : Endpoint × Released :=
  let (receiver, released) := e.receiver.abort
  ({ e with receiver }, released)

/-- Gives the end up, and its receive loop and all that is under way to it. -/
def drop (e : Endpoint) : Endpoint × Released :=
  ({ receiver := .closed false, present := false }, e.receiver.close)

end Endpoint

end Interprocess
