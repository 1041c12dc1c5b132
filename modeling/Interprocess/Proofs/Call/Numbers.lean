import Interprocess.Proofs.Call.History
import Interprocess.Proofs.Call.Parties
import Mathlib.Data.List.Chain

/-!
# Numbers of messages and transactions

The parent numbers its messages upwards from zero and the child downwards, and a transaction that an
end opens has the number of the call that opens it. `Numbered` says how far an end has counted and
what numbers it gave out; every request keeps it, `Numbered.step`, as long as there are numbers
left. A call inside an open transaction takes over the number of this transaction: `Chained` says
that it is the number of the entry below it as long as it is pending. Two ends that count apart
therefore never give out the same number. The main statement is `numbers_never_collide`.
-/

set_option autoImplicit false

namespace Interprocess

open Tracker (Request Outcome)

/-! ## What is numbered -/

/-- Whether a message takes a number. A call that is refused does so as well. -/
def Tracker.Request.takesNumber : Request → Bool
  | send m => !m.flags.reply
  | _ => false

namespace Tracker.Outcome

/-- The number of a message that was sent and is no reply. -/
def number? : Outcome → Option Int32
  | sent _ (.ok _) m => if m.flags.reply then none else some m.header.seqno
  | _ => none

/-- The number of the transaction that was opened by a call outside of any other. -/
def opening? : Outcome → Option Int32
  | sent none (.ok _) m =>
    if m.flags.sync && !m.flags.reply then some m.header.transaction else none
  | _ => none

section

variable {inside : Option Int32} {m : Message}

/-- A message that is sent and no reply bears the number that it was given. -/
theorem number?_sent (reply : m.flags.reply = false) :
    (sent inside (.ok ()) m).number? = some m.header.seqno := by
  simp [number?, reply]

/-- A reply takes no number. -/
theorem number?_reply (reply : m.flags.reply = true) :
    (sent inside (.ok ()) m).number? = none := by
  simp [number?, reply]

/-- The number of a transaction is the number of the call that opens it. -/
theorem opening?_eq_some {o : Outcome} {id : Int32} (opening : o.opening? = some id) :
    ∃ m, o = sent none (.ok ()) m ∧ m.flags.sync = true ∧ m.flags.reply = false ∧
      m.header.transaction = id := by
  unfold opening? at opening
  split at opening
  · next m =>
    split at opening
    · next call =>
      rw [Bool.and_eq_true, Bool.not_eq_true'] at call
      exact ⟨m, rfl, call.1, call.2, Option.some.inj opening⟩
    · contradiction
  · contradiction

end

end Tracker.Outcome

namespace History

/-- The numbers of all messages that were sent and are no replies, in the order of sending. -/
def numbers (h : History) : List Int32 := h.log.filterMap Outcome.number?

/-- The numbers of the transactions that this end opened, in the order of opening. -/
def openings (h : History) : List Int32 := h.log.filterMap Outcome.opening?

end History

namespace Tracker

/-- A request takes the next number and may give it to a message, or it takes and gives none. -/
inductive Counts (t : Tracker) (q : Request) (o : Outcome) (s : Tracker) : Prop
  | taken : q.takesNumber = true → s.lastSeqno = t.nextSeqno →
      o.number? = none ∨ o.number? = some t.nextSeqno → Counts t q o s
  | kept : q.takesNumber = false → s.lastSeqno = t.lastSeqno → o.number? = none → Counts t q o s

variable {t : Tracker} {q : Request} {response : Outcome × Tracker}

/-- Whatever comes of a request, the tracker counts on by one number or stays where it is. -/
theorem Responds.counts (responds : t.Responds q response) :
    t.Counts q response.1 response.2 := by
  cases responds with
  | @send m result sent =>
    have takes (reply : m.flags.reply = false) : (Request.send m).takesNumber = true := by
      simp [Request.takesNumber, reply]
    have keeps (reply : m.flags.reply = true) : (Request.send m).takesNumber = false := by
      simp [Request.takesNumber, reply]
    cases sent with
    | notice reply | opening reply | nested reply =>
      exact .taken (takes reply) rfl (Or.inr (Outcome.number?_sent reply))
    | refused reply => exact .taken (takes reply) rfl (Or.inl rfl)
    | reply reply | answer reply => exact .kept (keeps reply) rfl (Outcome.number?_reply reply)
    | stray reply => exact .kept (keeps reply) rfl rfl
  | receive received => cases received <;> exact .kept rfl rfl rfl
  | nothing | everything => exact .kept rfl rfl rfl

/-- No request changes which end a tracker belongs to. -/
theorem Responds.role (responds : t.Responds q response) : response.2.role = t.role := by
  cases responds with
  | send sent => cases sent <;> rfl
  | receive received => cases received <;> rfl
  | nothing | everything => rfl

/-- A call that is sent takes over the number of the transaction that it is sent in, or its own. -/
theorem Responds.transaction (responds : t.Responds q response) {inside : Option Int32}
    {m : Message} (sent : response.1 = .sent inside (.ok ()) m) (call : m.flags.sync = true)
    (ordinary : m.flags.reply = false) : m.header.transaction = inside.getD m.header.seqno := by
  cases responds with
  | @send n result was =>
    have same := Outcome.sent.inj sent
    cases was with
    | notice _ notice =>
      obtain ⟨-, -, rfl⟩ := same
      exact absurd call (by rw [Bool.not_eq_true]; exact notice)
    | opening _ _ stack =>
      obtain ⟨rfl, -, rfl⟩ := same
      rw [current?, stack]
      rfl
    | nested _ _ stack =>
      obtain ⟨rfl, -, rfl⟩ := same
      rw [current?, stack]
      rfl
    | reply reply | answer reply =>
      obtain ⟨-, -, rfl⟩ := same
      rw [ordinary] at reply
      contradiction
    | refused | stray =>
      obtain ⟨-, accepted, -⟩ := same
      contradiction
  | receive | nothing | everything => contradiction

/-- A reply is sent as it is. -/
theorem send_of_reply (t : Tracker) {m : Message} (reply : m.flags.reply = true) :
    (t.send m).2.2 = m := by
  have sent := t.sent m
  generalize t.send m = result at sent ⊢
  cases sent with
  | reply | answer | stray => rfl
  | notice ordinary | opening ordinary | nested ordinary | refused ordinary =>
    rw [reply] at ordinary
    contradiction

/-! ## Inherited numbers -/

/-- A call that is accepted becomes the innermost transaction, with the number that it bears. -/
theorem stack_send_of_ok (t : Tracker) {m : Message} (sync : m.flags.sync = true)
    (reply : m.flags.reply = false) (accepted : (t.send m).1 = .ok ()) :
    (t.send m).2.1.stack =
      { id := (t.send m).2.2.header.transaction, level := m.flags.level, outgoing := true } ::
        t.stack := by
  have sent := t.sent m
  generalize t.send m = result at sent accepted ⊢
  cases sent with
  | opening _ _ stack =>
    rw [stack]
    rfl
  | nested => rfl
  | refused | stray => cases accepted
  | notice _ notice =>
    rw [sync] at notice
    contradiction
  | reply answer | answer answer =>
    rw [reply] at answer
    contradiction

/-- Every call of this end bears the number of the transaction that it was sent in. -/
def Chained (stack : List Transaction) : Prop :=
  stack.IsChain fun inner outer => inner.outgoing = true → inner.id = outer.id

/-- Every request keeps the calls of this end within the transactions that they were sent in. -/
theorem Responds.chained (responds : t.Responds q response) (chained : Chained t.stack) :
    Chained response.2.stack := by
  cases responds with
  | send sent =>
    cases sent with
    | opening => exact List.isChain_singleton _
    | nested _ _ stack =>
      rw [stack] at chained ⊢
      exact List.isChain_cons_cons.2 ⟨fun _ => rfl, chained⟩
    | answer _ _ stack =>
      rw [stack] at chained
      exact chained.tail
    | notice | refused | reply | stray => exact chained
  | receive received =>
    cases received with
    | answer _ _ stack =>
      rw [stack] at chained
      exact chained.tail
    -- a call of the other end may bear any number
    | call => exact List.isChain_cons.2 ⟨fun _ _ outgoing => by contradiction, chained⟩
    | stray | waits | notice => exact chained
  | nothing | everything => exact chained

end Tracker

/-! ## How far an end has counted -/

namespace History

/-- An end has counted so far, and all numbers that it gave out lie between, in ascending order. -/
structure Numbered (r : Role) (n : Nat) (h : History) : Prop where
  role : h.tracker.role = r
  last : h.tracker.lastSeqno.toInt = r.sign * n
  within : ∀ x ∈ h.numbers, 0 < r.sign * x.toInt ∧ r.sign * x.toInt ≤ n
  ascending : h.numbers.Pairwise fun x y => r.sign * x.toInt < r.sign * y.toInt

/-- One more request adds the number that it gives out, if any, behind all others. -/
theorem numbers_step (h : History) (q : Request) :
    (h.step q).numbers = h.numbers ++ (h.tracker.respond q).1.number?.toList := by
  unfold numbers step
  rw [List.filterMap_append]
  cases number : (h.tracker.respond q).1.number? <;> simp [number]

/-- A number that is given out is one further from zero than all before. -/
theorem Numbered.given {r : Role} {n : Nat} {h : History} (numbered : h.Numbered r n)
    (few : n + 1 < seqnoLimit) :
    h.tracker.nextSeqno.toInt = r.sign * ((n + 1 : Nat) : Int) ∧
      r.sign * h.tracker.nextSeqno.toInt = ((n + 1 : Nat) : Int) := by
  have last := numbered.last
  have next : h.tracker.nextSeqno.toInt = r.sign * ((n + 1 : Nat) : Int) := by
    rw [← numbered.role] at last ⊢
    exact Tracker.toInt_nextSeqno last few
  refine ⟨next, ?_⟩
  rw [next]
  cases r with
  | parent => exact (Int.one_mul _).trans (Int.one_mul _)
  | child =>
    simp only [Role.sign]
    omega

/-- As long as the numbers last, one more request keeps the count and the order of the numbers. -/
theorem Numbered.step {r : Role} {n : Nat} {h : History} (numbered : h.Numbered r n)
    {q : Request} (few : n + [q].countP Request.takesNumber < seqnoLimit) :
    (h.step q).Numbered r (n + [q].countP Request.takesNumber) := by
  have responds := h.tracker.responds q
  have role : (h.step q).tracker.role = r := responds.role.trans numbered.role
  have numbers := h.numbers_step q
  rw [List.countP_singleton] at few ⊢
  cases responds.counts with
  | kept takes same none =>
    rw [none, Option.toList_none, List.append_nil] at numbers
    simp only [takes, Bool.false_eq_true, if_false, Nat.add_zero]
    refine ⟨role, ?_, ?_, ?_⟩
    · exact (congrArg Int32.toInt same).trans numbered.last
    · rw [numbers]
      exact numbered.within
    · rw [numbers]
      exact numbered.ascending
  | taken takes next given =>
    simp only [takes, if_true] at few ⊢
    obtain ⟨last, place⟩ := numbered.given few
    have last' : (h.step q).tracker.lastSeqno.toInt = r.sign * ((n + 1 : Nat) : Int) :=
      (congrArg Int32.toInt next).trans last
    have old : ∀ x ∈ h.numbers, 0 < r.sign * x.toInt ∧ r.sign * x.toInt ≤ ((n + 1 : Nat) : Int) := by
      intro x mem
      have := numbered.within x mem
      omega
    -- a call that was refused took a number that nothing bears
    rcases given with none | given
    · rw [none, Option.toList_none, List.append_nil] at numbers
      refine ⟨role, last', ?_, ?_⟩
      · rw [numbers]
        exact old
      · rw [numbers]
        exact numbered.ascending
    · rw [given, Option.toList_some] at numbers
      refine ⟨role, last', ?_, ?_⟩
      · rw [numbers]
        intro x mem
        rcases List.mem_append.1 mem with before | new
        · exact old x before
        · rw [List.mem_singleton.1 new, place]
          omega
      · rw [numbers]
        refine List.pairwise_append.2 ⟨numbered.ascending, List.pairwise_singleton _ _, ?_⟩
        intro x before y new
        have := numbered.within x before
        rw [List.mem_singleton.1 new, place]
        omega

/-- As long as the numbers last, an end has counted every request that takes a number. -/
theorem numbered_run {r : Role} {qs : List Request}
    (few : qs.countP Request.takesNumber < seqnoLimit) :
    (run r qs).Numbered r (qs.countP Request.takesNumber) := by
  induction qs using List.reverseRecOn with
  | nil =>
    refine ⟨rfl, ?_, fun x mem => by contradiction, List.Pairwise.nil⟩
    exact (Int.mul_zero _).symm
  | append_singleton qs q ih =>
    rw [List.countP_append] at few ⊢
    rw [run_append_singleton]
    exact (ih (by omega)).step few

/-- Every entry of a log is what came of one of the requests. -/
theorem exists_of_mem_log {r : Role} {qs : List Request} {o : Outcome}
    (mem : o ∈ (run r qs).log) : ∃ (t : Tracker) (q : Request), o = (t.respond q).1 := by
  induction qs using List.reverseRecOn with
  | nil => contradiction
  | append_singleton qs q ih =>
    rw [run_append_singleton] at mem
    rcases List.mem_append.1 mem with before | new
    · exact ih before
    · exact ⟨_, q, List.mem_singleton.1 new⟩

/-- A call in the log bears the number of the transaction that it was sent in, or its own if it was
sent outside of any. -/
theorem transaction_of_mem_log {r : Role} {qs : List Request} {inside : Option Int32} {m : Message}
    (mem : .sent inside (.ok ()) m ∈ (run r qs).log) (sync : m.flags.sync = true)
    (reply : m.flags.reply = false) : m.header.transaction = inside.getD m.header.seqno := by
  obtain ⟨t, q, outcome⟩ := exists_of_mem_log mem
  exact (t.responds q).transaction outcome.symm sync reply

/-- A transaction that this end opened has one of the numbers that it gave out. -/
theorem mem_numbers_of_mem_openings {r : Role} {qs : List Request} {id : Int32}
    (mem : id ∈ (run r qs).openings) : id ∈ (run r qs).numbers := by
  obtain ⟨o, there, opening⟩ := List.mem_filterMap.1 mem
  obtain ⟨m, rfl, sync, reply, rfl⟩ := Outcome.opening?_eq_some opening
  refine List.mem_filterMap.2 ⟨_, there, ?_⟩
  rw [Outcome.number?_sent reply]
  exact congrArg some (transaction_of_mem_log there sync reply).symm

/-- After any requests, the calls of this end belong to the transactions that they were sent in. -/
theorem chained_run (r : Role) (qs : List Request) : Tracker.Chained (run r qs).tracker.stack := by
  induction qs using List.reverseRecOn with
  | nil => exact List.isChain_nil
  | append_singleton qs q ih =>
    rw [run_append_singleton]
    exact (Tracker.responds _ q).chained ih

/-- As long as they last, the parent's numbers are positive and increase. -/
theorem numbers_parent {qs : List Request} (few : qs.countP Request.takesNumber < seqnoLimit) :
    (∀ n ∈ (run .parent qs).numbers, 0 < n) ∧ (run .parent qs).numbers.Pairwise (· < ·) := by
  have numbered := numbered_run (r := .parent) few
  constructor
  · intro n mem
    have := numbered.within n mem
    simp only [Role.sign, Int.one_mul] at this
    exact Int32.lt_iff_toInt_lt.2 this.1
  · refine numbered.ascending.imp fun lt => ?_
    simp only [Role.sign, Int.one_mul] at lt
    exact Int32.lt_iff_toInt_lt.2 lt

/-- As long as they last, the child's numbers are negative and decrease. -/
theorem numbers_child {qs : List Request} (few : qs.countP Request.takesNumber < seqnoLimit) :
    (∀ n ∈ (run .child qs).numbers, n < 0) ∧ (run .child qs).numbers.Pairwise (· > ·) := by
  have numbered := numbered_run (r := .child) few
  constructor
  · intro n mem
    have := numbered.within n mem
    simp only [Role.sign] at this
    apply Int32.lt_iff_toInt_lt.2
    show n.toInt < 0
    omega
  · refine numbered.ascending.imp fun lt => ?_
    simp only [Role.sign] at lt
    apply Int32.lt_iff_toInt_lt.2
    omega

end History

open History (run)

/-- As long as neither end has sent more messages than it has numbers, those that were refused
included, the messages of the parent are numbered upwards from zero and those of the child
downwards, so no number is given out twice. Replies keep the numbers that they bear, and a reply to
a call bears the numbers of the call. A call that is sent outside of any transaction opens one with
its own number, so no transaction of the parent has the number of one of the child's; a call that is
sent inside a transaction bears the number of the entry below it as long as it is pending. -/
theorem numbers_never_collide {requests : Role → List Request}
    (few : ∀ r, (requests r).countP Request.takesNumber < seqnoLimit) :
    let h := fun r => run r (requests r)
    ((∀ n ∈ (h .parent).numbers, 0 < n) ∧ (h .parent).numbers.Pairwise (· < ·)) ∧
      ((∀ n ∈ (h .child).numbers, n < 0) ∧ (h .child).numbers.Pairwise (· > ·)) ∧
      ((h .parent).numbers ++ (h .child).numbers).Nodup ∧
      (∀ (r : Role) (m : Message), m.flags.reply = true → ((h r).tracker.send m).2.2 = m) ∧
      (∀ (r : Role) (call : Message) (type : MessageType),
        let sent := ((h r).tracker.send (call.reply type)).2.2
        sent.header.seqno = call.header.seqno ∧
          sent.header.transaction = call.header.transaction) ∧
      (∀ (r : Role) (inside : Option Int32) (m : Message),
        .sent inside (.ok ()) m ∈ (h r).log → m.flags.sync = true → m.flags.reply = false →
          m.header.transaction = inside.getD m.header.seqno) ∧
      (∀ a ∈ (h .parent).openings, ∀ b ∈ (h .child).openings, a ≠ b) ∧
      (∀ (r : Role) (m : Message), m.flags.sync = true → m.flags.reply = false →
        ((h r).tracker.send m).1 = .ok () →
          ((h r).tracker.send m).2.1.stack =
            { id := ((h r).tracker.send m).2.2.header.transaction, level := m.flags.level
              outgoing := true } :: (h r).tracker.stack) ∧
      ∀ r, Tracker.Chained (h r).tracker.stack := by
  intro h
  obtain ⟨positive, ascending⟩ := History.numbers_parent (few .parent)
  obtain ⟨negative, descending⟩ := History.numbers_child (few .child)
  have apart : ∀ a ∈ (h .parent).numbers, ∀ b ∈ (h .child).numbers, a ≠ b := by
    rintro a ours b theirs rfl
    exact Int32.lt_irrefl (Int32.lt_trans (positive a ours) (negative a theirs))
  refine ⟨⟨positive, ascending⟩, ⟨negative, descending⟩, ?_, ?_, ?_, ?_, ?_, ?_, ?_⟩
  · refine List.nodup_append.2 ⟨ascending.imp ?_, descending.imp ?_, apart⟩
    · exact fun lt => Int32.ne_of_lt lt
    · exact fun lt => (Int32.ne_of_lt lt).symm
  · exact fun r m reply => (h r).tracker.send_of_reply reply
  · intro r call type sent
    have same : sent = call.reply type := (h r).tracker.send_of_reply rfl
    rw [same]
    exact ⟨rfl, rfl⟩
  · exact fun r inside m mem => History.transaction_of_mem_log mem
  · intro a ours b theirs
    exact apart a (History.mem_numbers_of_mem_openings ours) b
      (History.mem_numbers_of_mem_openings theirs)
  · exact fun r m sync reply => (h r).tracker.stack_send_of_ok sync reply
  · exact fun r => History.chained_run r (requests r)

/-- Both ends send a notice and a call, the child handles the parent's call and calls back, and the
parent's next call is refused. -/
def crossedRequests : Role → List Request
  | .parent =>
    [.send (.addressed 1 2 {}), .send (.addressed 1 2 { level := .insideSync, sync := true }),
      .send (.addressed 1 2 { sync := true })]
  | .child =>
    [.receive ((Message.addressed 1 2 { level := .insideSync, sync := true }).setTransaction 2),
      .send (.addressed 1 2 {}), .send (.addressed 1 2 { level := .insideSync, sync := true })]

/-- The refused call has cost the parent a number; the child's call bears the number of the
parent's. -/
theorem numbers_never_collide_crossed :
    (∀ r, (crossedRequests r).countP Request.takesNumber < seqnoLimit) ∧
      (run .parent (crossedRequests .parent)).tracker.lastSeqno = 3 ∧
      (run .parent (crossedRequests .parent)).numbers = [1, 2] ∧
      (run .child (crossedRequests .child)).numbers = [-1, -2] ∧
      ([1, 2, -1, -2] : List Int32).Nodup ∧
      (run .child (crossedRequests .child)).tracker.stack.map Transaction.id = [2, 2] ∧
      Tracker.Chained (run .child (crossedRequests .child)).tracker.stack := by
  have few : ∀ r, (crossedRequests r).countP Request.takesNumber < seqnoLimit := by
    intro r
    cases r <;> decide
  obtain ⟨-, -, apart, -, -, -, -, -, chained⟩ := numbers_never_collide few
  exact ⟨few, rfl, rfl, rfl, apart, rfl, chained .child⟩

end Interprocess
