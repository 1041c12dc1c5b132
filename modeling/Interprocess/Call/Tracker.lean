import Interprocess.Message.Basic

/-!
# Synchronous calls

While one end of a channel waits for the answer to a call, messages keep arriving. Those that the
answer may depend on are dispatched at once, the others wait until no call is pending. What decides
is how deeply a message may nest, and, where both ends have sent a call of the same level, which end
this is: the parent goes first. `Tracker` numbers outgoing messages, keeps the open transactions of
one end, innermost first, and holds back what has to wait.
-/

set_option autoImplicit false

namespace Interprocess

/-- The two ends of a channel between processes. -/
inductive Role
  | parent
  | child
deriving DecidableEq, Repr

/-- The name of a role in texts. -/
def Role.name : Role → String
  | parent => "Parent"
  | child => "Child"

/-- What to do with a message that arrived. -/
inductive Action
  /-- The message goes to its actor. -/
  | dispatch (m : Message)
  /-- The message answers the pending call. -/
  | reply (m : Message)
  /-- The message says that the pending call could not be dispatched. -/
  | replyError (m : Message)
  /-- The message waits until no call is pending. -/
  | deferred
deriving DecidableEq

namespace Action

/-- The name of an action in texts. -/
def name : Action → String
  | dispatch _ => "Dispatch"
  | reply _ => "Reply"
  | replyError _ => "ReplyError"
  | deferred => "Deferred"

/-- The message that an action hands over, if any. -/
def message? : Action → Option Message
  | dispatch m | reply m | replyError m => some m
  | deferred => none

/-- An action as one line of text. -/
def describe (a : Action) : String :=
  match a.message? with
  | some m => s!"{a.name}({m.describe})"
  | none => a.name

end Action

/-- A call that was not answered yet. -/
structure Transaction where
  /-- The number that the call and its answer bear. -/
  id : Int32
  /-- The level of the call. -/
  level : Level
  /-- Whether this end made the call and waits, rather than handling it. -/
  outgoing : Bool
deriving DecidableEq, Repr

/-- Why a message breaks the order of calls. -/
inductive CallError
  /-- An outgoing reply answers no call that is being handled. -/
  | strayReply (transaction : Int32)
  /-- An outgoing call nests less deeply than the call that it is part of. -/
  | levelTooLow (level current : Level)
  /-- A reply arrives for another call than the one that is waited for. -/
  | otherReply (transaction awaited : Int32)
  /-- A reply arrives while the innermost transaction is no call of this end. -/
  | unexpectedReply (transaction : Int32)
deriving DecidableEq, Repr

/-- The text of a broken order. -/
def CallError.message : CallError → String
  | strayReply transaction =>
    s!"reply for transaction {transaction} does not answer the call that is being handled"
  | levelTooLow level current =>
    s!"cannot send a sync message with level {level.name} inside a transaction of level " ++
    s!"{current.name}"
  | otherReply transaction awaited =>
    s!"received reply for transaction {transaction} while awaiting transaction {awaited}"
  | unexpectedReply transaction =>
    s!"received reply for transaction {transaction} without a pending call"

/-- The calls of one end of a channel. -/
structure Tracker where
  /-- Which end this is. -/
  role : Role
  /-- The number of the last message that this end sent. -/
  lastSeqno : Int32 := 0
  /-- The open transactions, innermost first. -/
  stack : List Transaction := []
  /-- The messages that wait, oldest first. -/
  waiting : List Message := []
deriving DecidableEq

namespace Tracker

/-- The tracker of an end that neither sent nor received anything. -/
def start (role : Role) : Tracker := { role }

/-- The innermost call of this end that waits for its answer. -/
def awaited? (t : Tracker) : Option Transaction := t.stack.find? Transaction.outgoing

/-- Whether a call of this end waits for its answer. -/
def isAwaiting (t : Tracker) : Bool := t.awaited?.isSome

/-- The innermost transaction, whichever end called. -/
def current? (t : Tracker) : Option Int32 := t.stack.head?.map Transaction.id

/-- The innermost transaction, if a call of the same level from the other end can be part of it. -/
def joinable? (t : Tracker) : Option Int32 :=
  match t.stack with
  | top :: _ => if top.level = .insideSync then some top.id else none
  | [] => none

/-- The number of the next message: the parent counts up from zero and the child counts down. -/
def nextSeqno (t : Tracker) : Int32 :=
  match t.role with
  | .parent => t.lastSeqno + 1
  | .child => t.lastSeqno - 1

/-- Numbers an outgoing message. A reply keeps the numbers of its call, and the reply to a
synchronous call closes the transaction. Any other message takes the next number, and a synchronous
call opens a transaction, inside the innermost one if there is any. The number is taken also by a
call that is refused because it nests too little. -/
def send (t : Tracker) (m : Message) : Except CallError Unit × Tracker × Message :=
  let flags := m.flags
  if flags.reply then
    if flags.sync then
      match t.stack with
      | top :: rest =>
        if !top.outgoing && top.id = m.header.transaction then
          (.ok (), { t with stack := rest }, m)
        else (.error (.strayReply m.header.transaction), t, m)
      | [] => (.error (.strayReply m.header.transaction), t, m)
    else (.ok (), t, m)
  else
    let seqno := t.nextSeqno
    let t := { t with lastSeqno := seqno }
    let m := m.setSeqno seqno
    if flags.sync then
      match t.stack with
      | top :: _ =>
        if flags.level < top.level then (.error (.levelTooLow flags.level top.level), t, m)
        else
          (.ok (),
            { t with stack := { id := top.id, level := flags.level, outgoing := true } :: t.stack },
            m.setTransaction top.id)
      | [] =>
        (.ok (), { t with stack := [{ id := seqno, level := flags.level, outgoing := true }] },
          m.setTransaction seqno)
    else (.ok (), t, m)

/-- Whether a message has to wait for the answer to a call of the given level. The deepest level
never waits, and below it a notice always does. A call waits if it nests less deeply. If it nests
equally deeply, both ends have called at the same time: the child handles the parent's call, and the
parent handles the child's only as part of its own innermost transaction. -/
def mustWait (t : Tracker) (m : Message) (awaited : Level) : Bool :=
  let level := m.flags.level
  if level = .insideCpow then false
  else if !m.flags.sync then true
  else if level ≠ awaited then decide (level < awaited)
  else
    match t.role with
    | .parent => some m.header.transaction ≠ t.joinable?
    | .child => false

/-- Takes a reply to a synchronous call, which has to answer the innermost transaction. -/
def acceptReply (t : Tracker) (m : Message) : Except CallError Action × Tracker :=
  match t.stack with
  | top :: rest =>
    if top.outgoing then
      if top.id = m.header.transaction then
        (.ok (if m.flags.replyError then .replyError m else .reply m), { t with stack := rest })
      else (.error (.otherReply m.header.transaction top.id), t)
    else (.error (.unexpectedReply m.header.transaction), t)
  | [] => (.error (.unexpectedReply m.header.transaction), t)

/-- Hands a message over to its actor; a synchronous call opens a transaction. -/
def accept (t : Tracker) (m : Message) : Action × Tracker :=
  if m.flags.sync then
    let transaction : Transaction :=
      { id := m.header.transaction, level := m.flags.level, outgoing := false }
    (.dispatch m, { t with stack := transaction :: t.stack })
  else (.dispatch m, t)

/-- Decides about a message that arrived. A reply to a notice is treated like any other notice. -/
def receive (t : Tracker) (m : Message) : Except CallError Action × Tracker :=
  if m.flags.reply && m.flags.sync then t.acceptReply m
  else
    match t.awaited? with
    | some awaited =>
      if t.mustWait m awaited.level then
        (.ok .deferred, { t with waiting := t.waiting ++ [m] })
      else
        let (action, t) := t.accept m
        (.ok action, t)
    | none =>
      let (action, t) := t.accept m
      (.ok action, t)

/-- Hands out the messages that waited, oldest first, unless a call is still pending. They are to be
decided about again. -/
def takeWaiting (t : Tracker) : List Message × Tracker :=
  if t.isAwaiting then ([], t) else (t.waiting, { t with waiting := [] })

/-- Lets go of a tracker: what its waiting messages hold is closed. -/
def close (t : Tracker) : Released := Released.gather (t.waiting.map Message.close)

end Tracker

end Interprocess
