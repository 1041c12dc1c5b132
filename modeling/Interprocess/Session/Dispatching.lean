import Interprocess.Session.Basic

/-!
# Dispatching in a session

These steps let handlers note the messages that they are given, keep messages waiting in the queue,
and lead synchronous calls through trackers. A message that breaks the order of calls when it
arrives is let go of.
-/

set_option autoImplicit false

namespace Interprocess.Session

/-- Registers a handler that notes each message behind its own label. -/
def registerHandler (type : MessageType) (label : String) : SessionM Unit := do
  match (← get).table.register type fun log m => log ++ [(label, m)] with
  | .ok table => modify fun s => { s with table := table }
  | .error e => throw (.table e)

/-- Takes the handler of a type away. -/
def deregisterHandler (type : MessageType) : SessionM Unit := do
  match (← get).table.deregister type with
  | .ok table => modify fun s => { s with table := table }
  | .error e => throw (.table e)

/-- Lets the handler of a message's type note it. -/
def dispatchMessage (name : String) : SessionM (DispatchResult × HandlerLog) := do
  let m ← message name
  return (← get).table.dispatch m []

/-- Moves a message into the queue. -/
def enqueue (name : String) : SessionM PendingQueue := do
  let m ← takeMessage name
  modifyGet fun s =>
    let queue := s.queue.push m
    (queue, { s with queue := queue })

/-- Moves the next message of the queue under a name. -/
def dequeue (into : String) : SessionM (Option Message × PendingQueue) := do
  match (← get).queue.pop with
  | none => return (none, (← get).queue)
  | some (m, queue) =>
    modify fun s => { s with queue := queue }
    store into m
    return (some m, queue)

/-- The tracker of a name. -/
def tracker (name : String) : SessionM Tracker := do
  match (← get).trackers.get? name with
  | some t => return t
  | none => throw (.missing (.noTracker name))

/-- Replaces the tracker of a name without letting go of anything. -/
def replaceTracker (name : String) (t : Tracker) : SessionM Unit :=
  modify fun s => { s with trackers := s.trackers.put name t }

/-- Puts a new tracker under a name, and lets go of the one that was there. -/
def startTracker (name : String) (role : Role) : SessionM Tracker := do
  let before := (← get).trackers.get? name
  replaceTracker name (.start role)
  match before with
  | some old => release old.close
  | none => pure ()
  tracker name

/-- Numbers a message before it is sent. -/
def sendTracked (trackerName name : String) :
    SessionM (Except CallError Unit × Message × Tracker) := do
  let t ← tracker trackerName
  let (result, t, m) := t.send (← message name)
  replaceTracker trackerName t
  replace name m
  return (result, m, t)

/-- Decides about a message that arrived. The message is moved in, and moved back unless it has to
wait or breaks the order of calls. -/
def receiveTracked (trackerName name : String) : SessionM (Except CallError Action × Tracker) := do
  let t ← tracker trackerName
  let m ← takeMessage name
  let (result, t) := t.receive m
  replaceTracker trackerName t
  match result with
  | .ok action =>
    match action.message? with
    | some m => replace name m
    | none => pure ()
  | .error _ => release m.close
  return (result, t)

/-- Puts messages under a name with numbers, starting with the given one. -/
def storeNumbered (into : String) (number : Nat) : List Message → SessionM Unit
  | [] => return ()
  | m :: ms => do
    store s!"{into}{number}" m
    storeNumbered into (number + 1) ms

/-- Hands out the messages that waited in a tracker. -/
def takeWaiting (trackerName into : String) : SessionM (List Message) := do
  let t ← tracker trackerName
  let (ms, t) := t.takeWaiting
  replaceTracker trackerName t
  storeNumbered into 0 ms
  return ms

end Interprocess.Session
