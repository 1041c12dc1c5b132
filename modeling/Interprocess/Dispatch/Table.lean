import Interprocess.Message.Basic
import Interprocess.Registry

/-!
# Dispatching messages

A handler works on an object, with the message at hand or without, and either changes the object or
only looks at it. `DispatchTable` keeps at most one handler for each message type and lets the one
for a message's type handle it. A second handler for a type is refused, and so is taking away a
handler that is not there.
-/

set_option autoImplicit false

namespace Interprocess

namespace Handler

/-- Lets a handler change an object. The flag says that the message was handled. -/
def run {σ : Type} (_ : Message) (object : σ) (handler : σ → σ) : Bool × σ :=
  (true, handler object)

/-- Lets a handler look at an object. -/
def observe {σ α : Type} (_ : Message) (object : σ) (handler : σ → α) : Bool × α :=
  (true, handler object)

/-- Lets a handler change an object in view of a message. -/
def runWith {σ : Type} (m : Message) (object : σ) (handler : σ → Message → σ) : Bool × σ :=
  (true, handler object m)

/-- Lets a handler look at an object in view of a message. -/
def observeWith {σ α : Type} (m : Message) (object : σ) (handler : σ → Message → α) :
    Bool × α :=
  (true, handler object m)

end Handler

/-- Why the handlers of a table cannot be changed. -/
inductive TableError
  | registered (type : MessageType)
  | notRegistered (type : MessageType)
deriving DecidableEq, Repr

/-- The text of a refused change. -/
def TableError.message : TableError → String
  | registered type =>
    s!"registering a second handler for message type {Hex.marked type.toNat}"
  | notRegistered type =>
    s!"deregistering a handler that was not previously registered: {Hex.marked type.toNat}"

/-- What became of a message. -/
inductive DispatchResult
  | handled
  /-- There is no handler for the message's type. -/
  | notKnown
deriving DecidableEq, Repr

/-- The name of a result in texts. -/
def DispatchResult.name : DispatchResult → String
  | handled => "Handled"
  | notKnown => "NotKnown"

/-- The handlers of the message types that an object understands. -/
structure DispatchTable (σ : Type) where
  /-- The handler of each type. -/
  handlers : Registry MessageType (σ → Message → σ) := ∅

namespace DispatchTable

variable {σ : Type}

instance : Inhabited (DispatchTable σ) := ⟨{}⟩

/-- The handler of a type. -/
def handler? (t : DispatchTable σ) (type : MessageType) : Option (σ → Message → σ) :=
  t.handlers.get? type

/-- Adds a handler for a type that has none. -/
def register (t : DispatchTable σ) (type : MessageType) (handler : σ → Message → σ) :
    Except TableError (DispatchTable σ) :=
  match t.handler? type with
  | some _ => .error (.registered type)
  | none => .ok { handlers := t.handlers.put type handler }

/-- Takes away the handler of a type. -/
def deregister (t : DispatchTable σ) (type : MessageType) :
    Except TableError (DispatchTable σ) :=
  match t.handler? type with
  | some _ => .ok { handlers := t.handlers.remove type }
  | none => .error (.notRegistered type)

/-- Lets the handler of a message's type handle it. -/
def dispatch (t : DispatchTable σ) (m : Message) (object : σ) : DispatchResult × σ :=
  match t.handler? m.header.type with
  | some handler => (.handled, (Handler.runWith m object handler).2)
  | none => (.notKnown, object)

end DispatchTable

end Interprocess
