import Interprocess.Proofs.Call.Dialogue

/-!
# One end of a dialogue

What an end sends and takes is described here by what becomes of its calls: a message takes a number
(`advanced`), a call is opened (`entered`) or closed (`left`), a message has to wait (`holding`).
`Party.Kept` says that the tracker has exactly the noted calls open and numbers its messages in its
own range; all of these keep it. So the tracker decides about a call by the order of calls
(`Kept.decides`), and a call that opens a transaction has a number that the other end does not give
out (`Kept.joins_numberedCall`).
-/

set_option autoImplicit false

namespace Interprocess

/-- The sign of the numbers that an end gives out. -/
def Role.sign : Role → Int
  | parent => 1
  | child => -1

/-- As long as there are numbers left, the next one is one further from zero. -/
theorem Tracker.toInt_nextSeqno {t : Tracker} {n : Nat}
    (last : t.lastSeqno.toInt = t.role.sign * n) (few : n + 1 < seqnoLimit) :
    t.nextSeqno.toInt = t.role.sign * ((n + 1 : Nat) : Int) := by
  have few' : n + 1 < 2147483648 := few
  unfold Tracker.nextSeqno
  cases role : t.role with
  | parent =>
    simp only [role, Role.sign] at last ⊢
    rw [Int32.toInt_add, last, Int.bmod_eq_of_le] <;> simp <;> omega
  | child =>
    simp only [role, Role.sign] at last ⊢
    rw [Int32.toInt_sub, last, Int.bmod_eq_of_le] <;> simp <;> omega

/-- What a letter from a given end means for the synchronous calls. -/
def Letter.item? (sender : Role) (letter : Letter) : Option Item :=
  match letter.answers with
  | some c => some (.answer c)
  | none =>
    if letter.message.flags.sync then some (.call { caller := sender, message := letter.message })
    else none

/-- A letter is an answer to the call that is noted, or no answer at all. -/
structure Letter.Sound (letter : Letter) : Prop where
  answers : ∀ c, letter.answers = some c → Answers c letter.message
  ordinary : letter.answers = none →
    ¬ (letter.message.flags.reply = true ∧ letter.message.flags.sync = true)

namespace Letter

variable {m : Message}

/-- A letter without an answered call is sound if its message is no synchronous reply. -/
theorem sound_of_ordinary (ordinary : ¬ (m.flags.reply = true ∧ m.flags.sync = true)) :
    Sound { message := m } where
  answers := fun _ h => by contradiction
  ordinary := fun _ => ordinary

/-- A letter that notes the call which its message answers is sound. -/
theorem sound_of_answers {c : Call} (answers : Answers c m) :
    Sound { message := m, answers := some c } where
  answers := by
    rintro _ ⟨⟩
    exact answers
  ordinary := fun h => by contradiction

/-- A notice under way means nothing for the synchronous calls. -/
theorem item?_notice (sender : Role) (notice : m.flags.sync = false) :
    item? sender { message := m } = none := by
  simp [item?, notice]

/-- A call under way is the call that its sender made. -/
theorem item?_call (c : Call) (proper : c.Proper) :
    item? c.caller { message := c.message } = some (.call c) :=
  if_pos proper.sync

end Letter

namespace Party

/-- What had to wait and was not decided about again, oldest first. -/
def backlog (p : Party) : List Message := p.handed ++ p.tracker.waiting

/-- The synchronous calls of an end. -/
def seat (p : Party) (r : Role) : Seat where
  calls := p.calls
  line := p.inbox.filterMap (Letter.item? r.other)
  held := (p.backlog.filter fun m => m.flags.sync).map fun m => { caller := r.other, message := m }

/-- The tracker of an end has the noted calls open and gave out the noted count of numbers. -/
structure Kept (p : Party) (r : Role) : Prop where
  role : p.tracker.role = r
  stack : p.tracker.stack = transactions r p.calls
  numbers : p.tracker.lastSeqno.toInt = r.sign * p.numbered
  few : p.numbered < seqnoLimit
  letters : ∀ letter ∈ p.inbox, letter.Sound
  waiting : ∀ m ∈ p.backlog, ¬ (m.flags.reply = true ∧ m.flags.sync = true)

/-- A message took the next number. -/
def advanced (p : Party) : Party :=
  { p with tracker.lastSeqno := p.tracker.nextSeqno, numbered := p.numbered + 1 }

/-- A call is open, inside those that were open before. -/
def entered (p : Party) (c : Call) : Party :=
  { p with
    calls := c :: p.calls
    tracker.stack := c.transaction p.tracker.role :: p.tracker.stack }

/-- The innermost call is not open any more. -/
def left (p : Party) : Party :=
  { p with calls := p.calls.tail, tracker.stack := p.tracker.stack.tail }

/-- A message waits until no call of this end is open. -/
def holding (p : Party) (m : Message) : Party :=
  { p with tracker.waiting := p.tracker.waiting ++ [m] }

variable {p : Party} {r : Role} {c : Call} {m : Message}

/-- Taking a number changes nothing about the calls of an end. -/
@[simp] theorem seat_advanced : p.advanced.seat r = p.seat r := rfl

/-- A call that is entered is the innermost one. -/
@[simp] theorem seat_entered :
    (p.entered c).seat r = { p.seat r with calls := c :: (p.seat r).calls } := rfl

/-- Leaving a call takes away the innermost one only. -/
@[simp] theorem seat_left : p.left.seat r = { p.seat r with calls := (p.seat r).calls.tail } := rfl

/-- A notice that has to wait is no call that is held back. -/
theorem seat_holding_notice (notice : m.flags.sync = false) :
    (p.holding m).seat r = p.seat r := by
  simp [seat, holding, backlog, List.filter_append, ← List.append_assoc, notice]

/-- A call that has to wait is held back behind those that waited before. -/
theorem seat_holding_call (caller : c.caller = r.other) (proper : c.Proper) :
    (p.holding c.message).seat r = { p.seat r with held := (p.seat r).held ++ [c] } := by
  simp [seat, holding, backlog, List.filter_append, ← List.append_assoc, proper.sync, ← caller]

/-! ## What an end posts, and what is left in its queue -/

/-- Sending leaves what is under way to the sender as it is. -/
theorem inbox_give : (p.give m).1.inbox = p.inbox := by
  rcases sent : p.tracker.send m with ⟨_ | _, tracker, n⟩ <;> simp only [give, sent]

/-- Answering leaves what is under way to the sender as it is. -/
theorem inbox_answer : (p.answer c m).1.inbox = p.inbox := by
  rcases sent : p.tracker.send m with ⟨_ | _, tracker, n⟩ <;> simp only [answer, sent]

/-- Deciding about a message leaves what is under way as it is. -/
theorem inbox_take : (p.take m).inbox = p.inbox := by
  unfold take
  split <;> rfl

/-- The letter that is posted has the flags of the message that was given. -/
theorem flags_of_give {letter : Letter} (posted : letter ∈ (p.give m).2) :
    letter.message.flags = m.flags := by
  have flags := p.tracker.flags_send m
  rcases sent : p.tracker.send m with ⟨_ | _, tracker, n⟩
  · simp [give, sent] at posted
  · rw [sent] at flags
    simp only [give, sent, Option.mem_def, Option.some.injEq] at posted
    rw [← posted, ← flags]

/-- The answer that is posted has the flags that it was made with. -/
theorem flags_of_answer {letter : Letter} (posted : letter ∈ (p.answer c m).2) :
    letter.message.flags = m.flags := by
  have flags := p.tracker.flags_send m
  rcases sent : p.tracker.send m with ⟨_ | _, tracker, n⟩
  · simp [answer, sent] at posted
  · rw [sent] at flags
    simp only [answer, sent, Option.mem_def, Option.some.injEq] at posted
    rw [← posted, ← flags]

/-! ## What an end does, as a change of its calls -/

/-- The call that a message becomes when it is sent. -/
def numberedCall (p : Party) (m : Message) : Call :=
  { caller := p.tracker.role
    message := p.tracker.numbered (p.tracker.current?.getD p.tracker.nextSeqno) m }

/-- The reply to a notice is posted as it is and changes nothing. -/
theorem give_reply (reply : m.flags.reply = true) (notice : m.flags.sync = false) :
    p.give m = (p, some { message := m }) := by
  simp [give, Tracker.send, reply, notice]

/-- A notice takes the next number and is posted. -/
theorem give_notice (ordinary : m.flags.reply = false) (notice : m.flags.sync = false) :
    p.give m = (p.advanced, some { message := m.setSeqno p.tracker.nextSeqno }) := by
  have flags : (m.setSeqno p.tracker.nextSeqno).flags.sync = false := notice
  simp [give, Tracker.send, ordinary, notice, flags, advanced]

/-- A call is sent as part of the innermost transaction, or refused because it nests less deeply. -/
theorem give_call (ordinary : m.flags.reply = false) (sync : m.flags.sync = true) :
    p.give m = (p.advanced, none) ∨
      (p.give m = (p.advanced.entered (p.numberedCall m),
          some { message := (p.numberedCall m).message }) ∧
        ∀ top ∈ p.tracker.stack.head?, top.level ≤ m.flags.level) := by
  have stays (id : Int32) : (p.tracker.numbered id m).flags.sync = true := sync
  cases stack : p.tracker.stack with
  | nil =>
    refine Or.inr ⟨?_, fun _ mem => nomatch mem⟩
    have id : p.tracker.current?.getD p.tracker.nextSeqno = p.tracker.nextSeqno := by
      rw [Tracker.current?, stack]
      rfl
    rw [give, Tracker.send_opening ordinary sync stack, numberedCall, id]
    simp only [stays, ordinary, entered, advanced, Call.transaction, stack, if_true,
      Bool.false_eq_true, if_false]
    rfl
  | cons top rest =>
    by_cases low : m.flags.level < top.level
    · refine Or.inl ?_
      rw [give, Tracker.send_refused ordinary sync stack low]
      simp only [ordinary, advanced, stack, Bool.false_eq_true, if_false]
    · refine Or.inr ⟨?_, ?_⟩
      · have id : p.tracker.current?.getD p.tracker.nextSeqno = top.id := by
          rw [Tracker.current?, stack]
          rfl
        rw [give, Tracker.send_nested ordinary sync stack low, numberedCall, id]
        simp only [stays, ordinary, entered, advanced, Call.transaction, stack, if_true,
          Bool.false_eq_true, if_false]
        rfl
      · rintro _ ⟨⟩
        exact Nat.le_of_not_lt low

/-- An answer to the innermost call is accepted and ends it. -/
theorem Kept.send_answer {calls : List Call} (kept : p.Kept r) (innermost : p.calls = c :: calls)
    (caller : c.caller = r.other) (answers : Answers c m) :
    p.tracker.send m = (.ok (), { p.tracker with stack := transactions r calls }, m) := by
  have stack := kept.stack
  rw [innermost, transactions_cons] at stack
  have incoming : (c.transaction r).outgoing = false := by
    refine decide_eq_false ?_
    rw [caller]
    exact Role.other_ne r
  exact Tracker.send_of_answer answers.reply answers.sync stack incoming answers.transaction.symm

/-- The answer to the innermost call is posted, and the call is left. -/
theorem answer_eq {calls : List Call} (kept : p.Kept r) (innermost : p.calls = c :: calls)
    (caller : c.caller = r.other) (answers : Answers c m) :
    p.answer c m = (p.left, some { message := m, answers := some c }) := by
  rw [answer, kept.send_answer innermost caller answers, left, kept.stack, innermost]
  rfl

/-- A message that is no answer waits, or is handled at once. -/
theorem take_ordinary (ordinary : ¬ (m.flags.reply = true ∧ m.flags.sync = true)) :
    p.take m =
      if p.tracker.defers m then p.holding m
      else if m.flags.sync then p.entered { caller := p.tracker.role.other, message := m }
      else p := by
  have foreign : decide (p.tracker.role.other = p.tracker.role) = false :=
    decide_eq_false (Role.other_ne _)
  rw [take, Tracker.receive_of_not_answer ordinary]
  by_cases waits : p.tracker.defers m
  · simp only [if_pos waits]
    rfl
  · simp only [if_neg waits, Tracker.accept]
    cases sync : m.flags.sync with
    | true =>
      simp only [if_true, sync, entered, Call.transaction, foreign]
      rfl
    | false => simp [sync]

/-- The answer to the innermost call is accepted and ends it. -/
theorem Kept.receive_answer {calls : List Call} (kept : p.Kept r) (innermost : p.calls = c :: calls)
    (caller : c.caller = r) (answers : Answers c m) :
    p.tracker.receive m =
      (.ok (if m.flags.replyError then .replyError m else .reply m),
        { p.tracker with stack := transactions r calls }) := by
  have stack := kept.stack
  rw [innermost, transactions_cons] at stack
  have outgoing : (c.transaction r).outgoing = true := decide_eq_true caller
  exact Tracker.receive_of_answer answers.reply answers.sync stack outgoing
    answers.transaction.symm

/-- The end whose innermost call is answered leaves this call. -/
theorem take_answer {calls : List Call} (kept : p.Kept r) (innermost : p.calls = c :: calls)
    (caller : c.caller = r) (answers : Answers c m) : p.take m = p.left := by
  rw [take, kept.receive_answer innermost caller answers, left, kept.stack, innermost]
  cases m.flags.replyError with
  | true => rfl
  | false => rfl

/-! ## What stays known of an end -/

/-- As long as the numbers last, the notes stay right when a message takes one. -/
theorem Kept.advanced (kept : p.Kept r) (few : p.numbered + 1 < seqnoLimit) :
    p.advanced.Kept r where
  role := kept.role
  stack := kept.stack
  numbers := by
    have last := kept.numbers
    rw [← kept.role] at last ⊢
    exact Tracker.toInt_nextSeqno last few
  few := few
  letters := kept.letters
  waiting := kept.waiting

/-- The notes stay right when a call is entered. -/
theorem Kept.entered (kept : p.Kept r) (c : Call) : (p.entered c).Kept r where
  role := kept.role
  stack := by
    show c.transaction p.tracker.role :: p.tracker.stack = transactions r (c :: p.calls)
    rw [kept.role, kept.stack, transactions_cons]
  numbers := kept.numbers
  few := kept.few
  letters := kept.letters
  waiting := kept.waiting

/-- The notes stay right when the innermost call is left. -/
theorem Kept.left (kept : p.Kept r) : p.left.Kept r where
  role := kept.role
  stack := by
    show p.tracker.stack.tail = transactions r p.calls.tail
    rw [kept.stack, transactions, transactions, List.map_tail]
  numbers := kept.numbers
  few := kept.few
  letters := kept.letters
  waiting := kept.waiting

/-- The notes stay right when a message that answers no call has to wait. -/
theorem Kept.holding (kept : p.Kept r)
    (ordinary : ¬ (m.flags.reply = true ∧ m.flags.sync = true)) : (p.holding m).Kept r where
  role := kept.role
  stack := kept.stack
  numbers := kept.numbers
  few := kept.few
  letters := kept.letters
  waiting := by
    intro n mem
    have backlog : (p.holding m).backlog = p.backlog ++ [m] := (List.append_assoc _ _ _).symm
    rw [backlog] at mem
    rcases List.mem_append.1 mem with old | new
    · exact kept.waiting n old
    · rw [List.mem_singleton.1 new]
      exact ordinary

/-- What was taken out of the queue is not under way any more. -/
theorem Kept.opened {letter : Letter} {letters : List Letter} (kept : p.Kept r)
    (inbox : p.inbox = letter :: letters) : (p.opened letters).Kept r where
  role := kept.role
  stack := kept.stack
  numbers := kept.numbers
  few := kept.few
  letters := fun l mem => kept.letters l (inbox ▸ List.mem_cons_of_mem _ mem)
  waiting := kept.waiting

/-- What had to wait and is decided about again waits no more. -/
theorem Kept.resumed {handed : List Message} (kept : p.Kept r) (more : p.handed = m :: handed) :
    (p.resumed handed).Kept r where
  role := kept.role
  stack := kept.stack
  numbers := kept.numbers
  few := kept.few
  letters := kept.letters
  waiting := by
    intro n mem
    refine kept.waiting n ?_
    rw [backlog, more]
    exact List.mem_cons_of_mem _ mem

/-- What is neither an answer nor a call changes nothing about the calls, waiting or not. -/
theorem Kept.take_notice (kept : p.Kept r) (notice : m.flags.sync = false) :
    (p.take m).Kept r ∧ (p.take m).seat r = p.seat r := by
  have ordinary : ¬ (m.flags.reply = true ∧ m.flags.sync = true) := by simp [notice]
  rw [take_ordinary ordinary, notice]
  split
  · exact ⟨kept.holding ordinary, seat_holding_notice notice⟩
  · rw [if_neg Bool.false_ne_true]
    exact ⟨kept, rfl⟩

/-- Fetching what had to wait changes where it is kept and nothing else. -/
theorem drain_cases (p : Party) :
    p.drain = p ∨
      p.drain = { p with tracker.waiting := [], handed := p.handed ++ p.tracker.waiting } := by
  cases awaiting : p.tracker.isAwaiting with
  | true =>
    refine Or.inl ?_
    simp [drain, Tracker.takeWaiting, awaiting]
  | false =>
    refine Or.inr ?_
    simp [drain, Tracker.takeWaiting, awaiting]

/-- The notes stay right when the end fetches what had to wait. -/
theorem Kept.drain (kept : p.Kept r) : p.drain.Kept r := by
  rcases p.drain_cases with drained | drained
  · rw [drained]
    exact kept
  · rw [drained]
    refine ⟨kept.role, kept.stack, kept.numbers, kept.few, kept.letters, ?_⟩
    simpa [backlog] using kept.waiting

/-- Fetching what had to wait changes nothing about the calls. -/
theorem seat_drain : p.drain.seat r = p.seat r := by
  rcases p.drain_cases with drained | drained <;> rw [drained]
  simp [seat, backlog]

/-! ## What an end can tell from its tracker -/

/-- The innermost call of an end that does not wait, if any, is one of the other end. -/
theorem Kept.ready (kept : p.Kept r) (free : p.isWaiting = false) :
    ∀ top ∈ p.calls.head?, top.caller = r.other := by
  intro top mem
  obtain ⟨calls, innermost⟩ := List.head?_eq_some_iff.1 mem
  rw [isWaiting, kept.stack, innermost] at free
  exact Role.eq_other_of_ne (of_decide_eq_false free)

/-- The innermost call of an end that handles none, if any, is one of its own. -/
theorem Kept.listening (kept : p.Kept r) (free : p.isHandling = false) :
    ∀ top ∈ p.calls.head?, top.caller = r := by
  intro top mem
  obtain ⟨calls, innermost⟩ := List.head?_eq_some_iff.1 mem
  rw [isHandling, kept.stack, innermost] at free
  have outgoing : (!decide (top.caller = r)) = false := free
  simpa using outgoing

/-- The call that an end handles is one of the other end. -/
theorem Kept.handling (kept : p.Kept r) (busy : p.isHandling = true)
    (head : p.calls.head? = some c) : c.caller = r.other := by
  obtain ⟨calls, innermost⟩ := List.head?_eq_some_iff.1 head
  rw [isHandling, kept.stack, innermost] at busy
  have incoming : (!decide (c.caller = r)) = true := busy
  exact Role.eq_other_of_ne (by simpa using incoming)

/-- An end that handles a call has one open. -/
theorem Kept.head_of_handling (kept : p.Kept r) (busy : p.isHandling = true) :
    ∃ c, p.calls.head? = some c := by
  rw [isHandling, kept.stack] at busy
  cases innermost : p.calls with
  | nil =>
    rw [innermost] at busy
    contradiction
  | cons c calls => exact ⟨c, rfl⟩

/-- An end that waits has an innermost call, which is its own. -/
theorem Kept.head_of_waiting (kept : p.Kept r) (waits : p.isWaiting = true) :
    ∃ c, p.calls.head? = some c ∧ c.caller = r := by
  rw [isWaiting, kept.stack] at waits
  cases innermost : p.calls with
  | nil =>
    rw [innermost] at waits
    contradiction
  | cons c calls =>
    rw [innermost] at waits
    exact ⟨c, rfl, of_decide_eq_true waits⟩

/-- An end whose tracker has nothing open has no open calls. -/
theorem Kept.idle (kept : p.Kept r) (stack : p.tracker.stack = []) : p.calls = [] := by
  rw [kept.stack] at stack
  exact List.map_eq_nil_iff.1 stack

/-- A tracker decides about a call by the order of the calls. -/
theorem Kept.decides (kept : p.Kept r) (listening : ∀ top ∈ p.calls.head?, top.caller = r)
    (caller : c.caller = r.other) :
    Decides (p.tracker.defers c.message = true) c p.calls := by
  have role := kept.role
  have awaited (top : Call) (mem : top ∈ p.calls.head?) :
      ∃ calls, p.tracker.stack = transactions p.tracker.role (top :: calls) ∧
        top.caller = p.tracker.role ∧
        p.tracker.defers c.message = p.tracker.mustWait c.message top.level := by
    obtain ⟨calls, innermost⟩ := List.head?_eq_some_iff.1 mem
    have stack : p.tracker.stack = transactions p.tracker.role (top :: calls) := by
      rw [kept.stack, role, innermost]
    have own : top.caller = p.tracker.role := by
      rw [role]
      exact listening top mem
    refine ⟨calls, stack, own, ?_⟩
    rw [Tracker.defers, Tracker.awaited?_of_outgoing stack own]
    rfl
  constructor
  · intro top mem proper _ ne
    obtain ⟨calls, stack, own, defers⟩ := awaited top mem
    rw [defers]
    exact Tracker.mustWait_iff_rank stack own (by rw [role]; exact caller) proper ne
  · intro top mem proper same deep waits
    obtain ⟨calls, stack, own, defers⟩ := awaited top mem
    rw [defers] at waits
    exact Tracker.levels_of_mustWait_nested stack same deep proper waits

/-- An end without open calls lets nothing wait. -/
theorem Kept.defers_of_idle (kept : p.Kept r) (idle : p.calls = []) (m : Message) :
    p.tracker.defers m = false := by
  have stack : p.tracker.stack = [] := by rw [kept.stack, idle, transactions_nil]
  rw [Tracker.defers, Tracker.awaited?_of_nil stack]
  rfl

/-- A call that is sent is synchronous and no reply. -/
theorem proper_numberedCall (ordinary : m.flags.reply = false) (sync : m.flags.sync = true) :
    (p.numberedCall m).Proper where
  sync := sync
  reply := ordinary

/-- A call that is under way to an end was sent by the other one. -/
theorem Kept.letter_of_mem_line (kept : p.Kept r) (mem : .call c ∈ (p.seat r).line) :
    ∃ letter ∈ p.inbox, letter.message = c.message ∧ c.message.flags.reply = false ∧
      c.message.flags.sync = true := by
  obtain ⟨letter, there, item⟩ := List.mem_filterMap.1 mem
  obtain ⟨m, answers⟩ := letter
  cases answers with
  | some d => simp [Letter.item?] at item
  | none =>
    cases sync : m.flags.sync with
    | false => simp [Letter.item?, sync] at item
    | true =>
      obtain rfl : { caller := r.other, message := m } = c := by
        simpa [Letter.item?, sync] using item
      refine ⟨_, there, rfl, ?_, sync⟩
      have ordinary := (kept.letters _ there).ordinary rfl
      exact Bool.eq_false_iff.2 fun reply => ordinary ⟨reply, sync⟩

/-- A call that is sent is part of the innermost transaction or opens one. -/
theorem Kept.joins_numberedCall (kept : p.Kept r) (few : p.numbered + 1 < seqnoLimit)
    (deep : ∀ top ∈ p.tracker.stack.head?, top.level ≤ m.flags.level) :
    Joins (p.numberedCall m) p.calls := by
  have stack := kept.stack
  cases innermost : p.calls with
  | nil =>
    rw [innermost, transactions_nil] at stack
    have id : (p.numberedCall m).id = p.tracker.nextSeqno := by
      rw [numberedCall, Tracker.current?, stack]
      rfl
    have numbers : p.tracker.nextSeqno.toInt = r.sign * ((p.numbered + 1 : Nat) : Int) :=
      (kept.advanced few).numbers
    -- the numbers have not run out, so they still have the sign of their end
    show 0 < (p.numberedCall m).id ↔ p.tracker.role = .parent
    have zero : (0 : Int32).toInt = 0 := rfl
    rw [id, kept.role, Int32.lt_iff_toInt_lt, numbers, zero]
    cases r with
    | parent =>
      refine ⟨fun _ => rfl, fun _ => ?_⟩
      simp only [Role.sign]
      omega
    | child =>
      refine ⟨fun positive => ?_, fun h => by contradiction⟩
      simp only [Role.sign] at positive
      omega
  | cons top calls =>
    rw [innermost, transactions_cons] at stack
    have id : (p.numberedCall m).id = top.id := by
      rw [numberedCall, Tracker.current?, stack]
      rfl
    exact ⟨id, deep (top.transaction r) (by rw [stack]; rfl)⟩

end Party

end Interprocess
