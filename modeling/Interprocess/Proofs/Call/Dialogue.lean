import Interprocess.Proofs.Call.Seats

/-!
# A parent and a child that call each other

The two ends of a channel have a tracker each, and what one of them sends arrives at the other in
order. `Step` is what can happen next: an end that waits for no answer sends a message of any kind
but an answer, an end that handles a call answers it, an end that handles no call takes what has
arrived, and at any time an end may fetch what had to wait and, once it has no open call, take that.
What an end sends may be restricted further by a rule. `Party` keeps beside the tracker which calls
are open and `Letter` which call an answer belongs to. No tracker sees any of this: it is there to
say what the trackers' decisions mean.
-/

set_option autoImplicit false

namespace Interprocess

/-- A message under way and, for the answer to a synchronous call, this call. -/
structure Letter where
  message : Message
  answers : Option Call := none
deriving DecidableEq

/-- One end of a channel. -/
structure Party where
  tracker : Tracker
  /-- The open calls, innermost first. -/
  calls : List Call := []
  /-- What is under way to this end, oldest first. -/
  inbox : List Letter := []
  /-- What had to wait and was fetched from the tracker, oldest first. -/
  handed : List Message := []
  /-- How many messages took a number. -/
  numbered : Nat := 0
deriving DecidableEq

/-- A message answers a synchronous call if it is a synchronous reply with the call's number. -/
structure Answers (c : Call) (m : Message) : Prop where
  reply : m.flags.reply = true
  sync : m.flags.sync = true
  transaction : m.header.transaction = c.id

/-- The reply that is made from a call answers it. -/
theorem answers_reply {c : Call} (proper : c.Proper) (type : MessageType) :
    Answers c (c.message.reply type) where
  reply := rfl
  sync := proper.sync
  transaction := rfl

/-- The notice of a failed dispatch answers the call whose number it is given. -/
theorem answers_failure (c : Call) (level : Level) :
    Answers c ((Message.dispatchFailure level).setTransaction c.id) where
  reply := rfl
  sync := rfl
  transaction := rfl

namespace Party

/-- Whether the innermost transaction is a call of this end. -/
def isWaiting (p : Party) : Bool := p.tracker.stack.head?.any Transaction.outgoing

/-- Whether the innermost transaction is a call of the other end. -/
def isHandling (p : Party) : Bool := p.tracker.stack.head?.any fun top => !top.outgoing

/-- Sends a message that is not the answer to a call. It is under way unless it is refused. -/
def give (p : Party) (m : Message) : Party × Option Letter :=
  let numbered := if m.flags.reply then p.numbered else p.numbered + 1
  match p.tracker.send m with
  | (.ok (), tracker, m) =>
    let calls :=
      if m.flags.sync then { caller := p.tracker.role, message := m } :: p.calls else p.calls
    ({ p with tracker, calls, numbered }, some { message := m })
  | (.error _, tracker, _) => ({ p with tracker, numbered }, none)

/-- Answers the innermost call. -/
def answer (p : Party) (c : Call) (m : Message) : Party × Option Letter :=
  match p.tracker.send m with
  | (.ok (), tracker, m) =>
    ({ p with tracker, calls := p.calls.tail }, some { message := m, answers := some c })
  | (.error _, tracker, _) => ({ p with tracker }, none)

/-- Lets the tracker decide about a message that arrived. -/
def take (p : Party) (m : Message) : Party :=
  match p.tracker.receive m with
  | (.ok (.dispatch m), tracker) =>
    let calls :=
      if m.flags.sync then { caller := p.tracker.role.other, message := m } :: p.calls else p.calls
    { p with tracker, calls }
  | (.ok (.reply _), tracker) | (.ok (.replyError _), tracker) =>
    { p with tracker, calls := p.calls.tail }
  | (.ok .deferred, tracker) | (.error _, tracker) => { p with tracker }

/-- Takes the first letter out of the queue. -/
def opened (p : Party) (letters : List Letter) : Party := { p with inbox := letters }

/-- Takes the first of the messages that had to wait. -/
def resumed (p : Party) (handed : List Message) : Party := { p with handed }

/-- Fetches what had to wait. -/
def drain (p : Party) : Party :=
  let (waited, tracker) := p.tracker.takeWaiting
  { p with tracker, handed := p.handed ++ waited }

end Party

/-- Both ends of a channel. -/
abbrev World := Role → Party

namespace World

/-- Nothing was sent. -/
def start : World := fun r => { tracker := .start r }

/-- One end changes and may post a letter to the other one. -/
def act (w : World) (r : Role) (outcome : Party × Option Letter) : World := fun s =>
  if s = r then outcome.1 else { w s with inbox := (w s).inbox ++ outcome.2.toList }

end World

/-- An end has one number less than this for the messages that it sends. -/
def seqnoLimit : Nat := 2147483648

/-- What an end may send, beside the rules that its tracker knows. -/
abbrev Rule := Party → Message → Prop

/-- What happens next, where the ends keep a rule for what they send. An end sends no more messages
than it has numbers. -/
inductive Step (permits : Rule) (w : World) : World → Prop
  | send {r : Role} {m : Message} :
      (w r).isWaiting = false → ¬ (m.flags.reply = true ∧ m.flags.sync = true) →
      permits (w r) m → ((w r).give m).1.numbered < seqnoLimit →
      Step permits w (w.act r ((w r).give m))
  | answer {r : Role} {c : Call} {calls : List Call} {m : Message} :
      (w r).isHandling = true → (w r).calls = c :: calls → Answers c m →
      Step permits w (w.act r ((w r).answer c m))
  | receive {r : Role} {letter : Letter} {letters : List Letter} :
      (w r).isHandling = false → (w r).inbox = letter :: letters →
      Step permits w (w.act r (((w r).opened letters).take letter.message, none))
  | drain {r : Role} : Step permits w (w.act r ((w r).drain, none))
  | refeed {r : Role} {m : Message} {handed : List Message} :
      (w r).tracker.stack = [] → (w r).handed = m :: handed →
      Step permits w (w.act r (((w r).resumed handed).take m, none))

/-- The states that come about from the first one. -/
inductive Reachable (permits : Rule) : World → Prop
  | start : Reachable permits World.start
  | step {w w' : World} : Reachable permits w → Step permits w w' → Reachable permits w'

/-- The deepest level is left to the child. -/
def Considerate (p : Party) (m : Message) : Prop :=
  m.flags.sync = true → m.flags.level = .insideCpow → p.tracker.role = .child

/-- A synchronous call of the deepest level. -/
structure DeepCall (m : Message) : Prop where
  sync : m.flags.sync = true
  reply : m.flags.reply = false
  deepest : m.flags.level = .insideCpow

/-- An end makes no call of the deepest level while one of the other end is under way to it. -/
def Uncrossed (p : Party) (m : Message) : Prop :=
  DeepCall m → ∀ letter ∈ p.inbox, ¬ DeepCall letter.message

/-- Calls that are made inside another one can be nested, and what had to wait comes before a call
that opens a transaction. -/
structure Patient (p : Party) (m : Message) : Prop where
  considerate : Considerate p m
  nested : m.flags.sync = true → p.tracker.stack ≠ [] → m.flags.level ≠ .notNested
  cleared : m.flags.sync = true → p.tracker.stack = [] → p.tracker.waiting = [] ∧ p.handed = []

/-! ## What a tracker decides -/

namespace Tracker

/-- Whether a message that is not the answer to a call has to wait. -/
def defers (t : Tracker) (m : Message) : Bool :=
  t.awaited?.any fun awaited => t.mustWait m awaited.level

variable {t : Tracker} {m : Message}

/-- A message that answers no call either waits or is handed over; it is never refused. -/
theorem receive_of_not_answer (ordinary : ¬ (m.flags.reply = true ∧ m.flags.sync = true)) :
    t.receive m =
      if t.defers m then (.ok .deferred, { t with waiting := t.waiting ++ [m] })
      else (.ok (t.accept m).1, (t.accept m).2) := by
  rw [receive, if_neg (by simpa using ordinary), defers]
  cases t.awaited? with
  | none => rfl
  | some awaited => rfl

/-- A message that is accepted goes to its actor as it is. -/
theorem fst_accept (t : Tracker) (m : Message) : (t.accept m).1 = .dispatch m := by
  unfold accept
  split <;> rfl

/-- Only an answer can be refused when it arrives. -/
theorem receive_isOk (t : Tracker) (ordinary : ¬ (m.flags.reply = true ∧ m.flags.sync = true)) :
    ∃ action, (t.receive m).1 = .ok action := by
  rw [receive_of_not_answer ordinary]
  split
  · exact ⟨_, rfl⟩
  · exact ⟨_, rfl⟩

/-- An answer to the innermost call is handed over, and the call is not open any more. -/
theorem receive_of_answer {top : Transaction} {rest : List Transaction}
    (reply : m.flags.reply = true) (sync : m.flags.sync = true) (stack : t.stack = top :: rest)
    (outgoing : top.outgoing = true) (same : top.id = m.header.transaction) :
    t.receive m =
      (.ok (if m.flags.replyError then .replyError m else .reply m), { t with stack := rest }) := by
  rw [receive, if_pos (by rw [reply, sync]; rfl), acceptReply, stack]
  simp only [outgoing, same, if_true]

/-- The message that opens a transaction, or continues the one that is given. -/
def numbered (t : Tracker) (transaction : Int32) (m : Message) : Message :=
  (m.setSeqno t.nextSeqno).setTransaction transaction

/-- A call that is sent outside of any other opens a transaction with its own number. -/
theorem send_opening (ordinary : m.flags.reply = false) (sync : m.flags.sync = true)
    (stack : t.stack = []) :
    t.send m =
      (.ok (),
        { t with
          lastSeqno := t.nextSeqno
          stack := [{ id := t.nextSeqno, level := m.flags.level, outgoing := true }] },
        t.numbered t.nextSeqno m) := by
  simp only [send, ordinary, sync, stack, Bool.false_eq_true, if_false, if_true]
  rfl

/-- A call that nests deeply enough becomes part of the innermost transaction. -/
theorem send_nested {top : Transaction} {rest : List Transaction}
    (ordinary : m.flags.reply = false) (sync : m.flags.sync = true) (stack : t.stack = top :: rest)
    (deep : ¬ m.flags.level < top.level) :
    t.send m =
      (.ok (),
        { t with
          lastSeqno := t.nextSeqno
          stack := { id := top.id, level := m.flags.level, outgoing := true } :: t.stack },
        t.numbered top.id m) := by
  simp only [send, ordinary, sync, stack, deep, Bool.false_eq_true, if_false, if_true]
  rfl

/-- A call that nests too little is refused and has taken a number all the same. -/
theorem send_refused {top : Transaction} {rest : List Transaction}
    (ordinary : m.flags.reply = false) (sync : m.flags.sync = true) (stack : t.stack = top :: rest)
    (low : m.flags.level < top.level) :
    t.send m =
      (.error (.levelTooLow m.flags.level top.level), { t with lastSeqno := t.nextSeqno },
        m.setSeqno t.nextSeqno) := by
  simp only [send, ordinary, sync, stack, low, Bool.false_eq_true, if_false, if_true]

/-- An answer to the innermost call of the other end is sent as it is and ends this call. -/
theorem send_of_answer {top : Transaction} {rest : List Transaction}
    (reply : m.flags.reply = true) (sync : m.flags.sync = true) (stack : t.stack = top :: rest)
    (incoming : top.outgoing = false) (same : top.id = m.header.transaction) :
    t.send m = (.ok (), { t with stack := rest }, m) := by
  simp only [send, reply, sync, stack, incoming, same, if_true, Bool.not_false, decide_true,
    Bool.and_self]

/-- What sending can come to: what the message is, what the tracker becomes, and whether the message
was refused. -/
inductive Sent (t : Tracker) (m : Message) : Except CallError Unit × Tracker × Message → Prop
  | notice : m.flags.reply = false → m.flags.sync = false →
      Sent t m (.ok (), { t with lastSeqno := t.nextSeqno }, m.setSeqno t.nextSeqno)
  | opening : m.flags.reply = false → m.flags.sync = true → t.stack = [] →
      Sent t m (.ok (),
        { t with
          lastSeqno := t.nextSeqno
          stack := [{ id := t.nextSeqno, level := m.flags.level, outgoing := true }] },
        t.numbered t.nextSeqno m)
  | nested {top : Transaction} {rest : List Transaction} :
      m.flags.reply = false → m.flags.sync = true → t.stack = top :: rest →
      ¬ m.flags.level < top.level →
      Sent t m (.ok (),
        { t with
          lastSeqno := t.nextSeqno
          stack := { id := top.id, level := m.flags.level, outgoing := true } :: t.stack },
        t.numbered top.id m)
  | refused {top : Transaction} {rest : List Transaction} :
      m.flags.reply = false → m.flags.sync = true → t.stack = top :: rest →
      m.flags.level < top.level →
      Sent t m (.error (.levelTooLow m.flags.level top.level),
        { t with lastSeqno := t.nextSeqno }, m.setSeqno t.nextSeqno)
  | reply : m.flags.reply = true → m.flags.sync = false → Sent t m (.ok (), t, m)
  | answer {top : Transaction} {rest : List Transaction} :
      m.flags.reply = true → m.flags.sync = true → t.stack = top :: rest →
      top.outgoing = false → top.id = m.header.transaction →
      Sent t m (.ok (), { t with stack := rest }, m)
  | stray : m.flags.reply = true → m.flags.sync = true →
      (∀ top ∈ t.stack.head?, ¬ (top.outgoing = false ∧ top.id = m.header.transaction)) →
      Sent t m (.error (.strayReply m.header.transaction), t, m)

/-- The cases of `Sent` are all that sending can come to. -/
theorem sent (t : Tracker) (m : Message) : Sent t m (t.send m) := by
  cases reply : m.flags.reply with
  | false =>
    cases sync : m.flags.sync with
    | false =>
      have result : t.send m =
          (.ok (), { t with lastSeqno := t.nextSeqno }, m.setSeqno t.nextSeqno) := by
        simp only [send, reply, sync, Bool.false_eq_true, if_false]
      rw [result]
      exact .notice reply sync
    | true =>
      cases stack : t.stack with
      | nil =>
        rw [send_opening reply sync stack]
        exact .opening reply sync stack
      | cons top rest =>
        by_cases low : m.flags.level < top.level
        · rw [send_refused reply sync stack low]
          exact .refused reply sync stack low
        · rw [send_nested reply sync stack low]
          exact .nested reply sync stack low
  | true =>
    cases sync : m.flags.sync with
    | false =>
      have result : t.send m = (.ok (), t, m) := by simp [send, reply, sync]
      rw [result]
      exact .reply reply sync
    | true =>
      by_cases answers : ∃ top ∈ t.stack.head?,
          top.outgoing = false ∧ top.id = m.header.transaction
      · obtain ⟨top, head, incoming, same⟩ := answers
        obtain ⟨rest, stack⟩ := List.head?_eq_some_iff.1 head
        rw [send_of_answer reply sync stack incoming same]
        exact .answer reply sync stack incoming same
      · have none (top : Transaction) (head : top ∈ t.stack.head?) :
            ¬ (top.outgoing = false ∧ top.id = m.header.transaction) :=
          fun same => answers ⟨top, head, same⟩
        have result : t.send m = (.error (.strayReply m.header.transaction), t, m) := by
          cases stack : t.stack with
          | nil => simp only [send, reply, sync, stack, if_true]
          | cons top rest =>
            have other := none top (by rw [stack]; rfl)
            simp only [send, reply, sync, stack, if_true]
            rw [if_neg (by simpa using other)]
        rw [result]
        exact .stray reply sync none

/-- What can become of a message that arrives: it completes the innermost transaction, it is refused
because it answers nothing, it has to wait, or it is handed over. -/
inductive Received (t : Tracker) (m : Message) : Except CallError Action × Tracker → Prop
  | answer {top : Transaction} {rest : List Transaction} :
      m.flags.reply = true → m.flags.sync = true → t.stack = top :: rest →
      top.outgoing = true → top.id = m.header.transaction →
      Received t m
        (.ok (if m.flags.replyError then .replyError m else .reply m), { t with stack := rest })
  | stray (e : CallError) : m.flags.reply = true → m.flags.sync = true →
      (∀ top ∈ t.stack.head?, ¬ (top.outgoing = true ∧ top.id = m.header.transaction)) →
      Received t m (.error e, t)
  | waits : ¬ (m.flags.reply = true ∧ m.flags.sync = true) → t.defers m = true →
      Received t m (.ok .deferred, { t with waiting := t.waiting ++ [m] })
  | call : m.flags.reply = false → m.flags.sync = true → t.defers m = false →
      Received t m (.ok (.dispatch m),
        { t with
          stack := { id := m.header.transaction, level := m.flags.level, outgoing := false } ::
            t.stack })
  | notice : m.flags.sync = false → t.defers m = false → Received t m (.ok (.dispatch m), t)

/-- A synchronous reply completes the innermost call or is refused. -/
theorem received_of_answer (reply : m.flags.reply = true) (sync : m.flags.sync = true) :
    Received t m (t.receive m) := by
  have taken : t.receive m = t.acceptReply m := by
    rw [receive, if_pos (by rw [reply, sync]; rfl)]
  rw [taken]
  unfold acceptReply
  cases stack : t.stack with
  | nil => exact .stray _ reply sync (by simp [stack])
  | cons top rest =>
    by_cases outgoing : top.outgoing = true
    · by_cases same : top.id = m.header.transaction
      · simp only [outgoing, same, if_true]
        exact .answer reply sync stack outgoing same
      · simp only [outgoing, same, if_true, if_false]
        exact .stray _ reply sync (by simp [stack, same])
    · simp only [if_neg outgoing]
      exact .stray _ reply sync (by simp [stack, outgoing])

/-- The cases of `Received` are all that can become of a message. -/
theorem received (t : Tracker) (m : Message) : Received t m (t.receive m) := by
  by_cases answer : m.flags.reply = true ∧ m.flags.sync = true
  · exact received_of_answer answer.1 answer.2
  rw [receive_of_not_answer answer]
  cases waits : t.defers m with
  | true => exact .waits answer waits
  | false =>
    simp only [Bool.false_eq_true, if_false]
    cases sync : m.flags.sync with
    | false =>
      simp only [accept, sync, Bool.false_eq_true, if_false]
      exact .notice sync waits
    | true =>
      have reply : m.flags.reply = false := Bool.eq_false_iff.2 fun reply => answer ⟨reply, sync⟩
      simp only [accept, sync, if_true]
      exact .call reply sync waits

/-- Numbers are all that sending changes about a message. -/
theorem flags_send (t : Tracker) (m : Message) : (t.send m).2.2.flags = m.flags := by
  have sent := t.sent m
  generalize t.send m = result at sent ⊢
  cases sent <;> rfl

end Tracker

end Interprocess
