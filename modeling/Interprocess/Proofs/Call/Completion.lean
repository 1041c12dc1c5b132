import Interprocess.Proofs.Call.History

/-!
# Calls are completed innermost first

Which calls an end has opened, and which of them are completed, can be told from its log alone, by
what was accepted and by the numbers that the messages bear. `History.dealings` keeps such an
account: a synchronous call that is sent or handed over is added to it, and an answer completes the
latest open call that goes in the opposite direction and bears its number. The tracker keeps no
account but a stack, and looks at its top only. The main statement,
`History.completed_innermost_first`, says that the two come to the same, whatever is sent and
whatever arrives, forged answers included.
-/

set_option autoImplicit false

namespace Interprocess

open Tracker (Request Outcome)

namespace Tracker.Outcome

/-- The call that is opened: one that was sent and accepted, or one that was handed over. -/
def opened? : Outcome → Option Transaction
  | sent _ (.ok _) m =>
    if m.flags.sync && !m.flags.reply then
      some { id := m.header.transaction, level := m.flags.level, outgoing := true }
    else none
  | received _ (.ok (.dispatch m)) =>
    if m.flags.sync then
      some { id := m.header.transaction, level := m.flags.level, outgoing := false }
    else none
  | _ => none

/-- Whether the call that is completed is one of this end, and the number that it has to bear. -/
def completed? : Outcome → Option (Bool × Int32)
  | sent _ (.ok _) m =>
    if m.flags.sync && m.flags.reply then some (false, m.header.transaction) else none
  | received _ (.ok (.reply m)) | received _ (.ok (.replyError m)) =>
    some (true, m.header.transaction)
  | _ => none

/-- Whether a synchronous call was sent and accepted. -/
def isCall : Outcome → Bool
  | sent _ (.ok _) m => m.flags.sync && !m.flags.reply
  | _ => false

/-- Whether the answer to a call of this end was accepted. -/
def isAnswer : Outcome → Bool
  | received _ (.ok (.reply _)) | received _ (.ok (.replyError _)) => true
  | _ => false

section

variable {inside : Option Int32} {m : Message}

/-- A call that is sent and accepted opens a transaction of this end, with the number that it
bears. -/
theorem opened?_call (reply : m.flags.reply = false) (sync : m.flags.sync = true) :
    (sent inside (.ok ()) m).opened? =
      some { id := m.header.transaction, level := m.flags.level, outgoing := true } := by
  simp [opened?, reply, sync]

/-- Sending a reply opens nothing. -/
theorem opened?_of_reply (reply : m.flags.reply = true) :
    (sent inside (.ok ()) m).opened? = none := by
  simp [opened?, reply]

/-- Sending a message that is no reply completes nothing. -/
theorem completed?_of_not_reply (reply : m.flags.reply = false) :
    (sent inside (.ok ()) m).completed? = none := by
  simp [completed?, reply]

/-- Sending the reply to a synchronous call completes a call of the other end. -/
theorem completed?_answer (reply : m.flags.reply = true) (sync : m.flags.sync = true) :
    (sent inside (.ok ()) m).completed? = some (false, m.header.transaction) := by
  simp [completed?, reply, sync]

/-- Sending a notice opens nothing. -/
theorem opened?_notice (sync : m.flags.sync = false) :
    (sent inside (.ok ()) m).opened? = none := by
  simp [opened?, sync]

/-- Sending a notice completes nothing. -/
theorem completed?_notice (sync : m.flags.sync = false) :
    (sent inside (.ok ()) m).completed? = none := by
  simp [completed?, sync]

/-- An answer that arrives opens nothing, whether it reports a failure or not. -/
theorem opened?_received_answer :
    (received m (.ok (if m.flags.replyError then .replyError m else .reply m))).opened? = none := by
  cases m.flags.replyError <;> rfl

/-- An answer that is accepted completes the call of this end whose number it bears. -/
theorem completed?_received_answer :
    (received m (.ok (if m.flags.replyError then .replyError m else .reply m))).completed? =
      some (true, m.header.transaction) := by
  cases m.flags.replyError <;> rfl

/-- A call that is handed over opens a transaction of the other end. -/
theorem opened?_dispatch (sync : m.flags.sync = true) :
    (received m (.ok (.dispatch m))).opened? =
      some { id := m.header.transaction, level := m.flags.level, outgoing := false } := by
  simp [opened?, sync]

/-- A notice that is handed over opens nothing. -/
theorem opened?_dispatch_notice (sync : m.flags.sync = false) :
    (received m (.ok (.dispatch m))).opened? = none := by
  simp [opened?, sync]

end

/-- Whether a message was not refused. -/
def isAccepted : Outcome → Bool
  | sent _ (.ok _) _ | received _ (.ok _) => true
  | _ => false

/-- An outcome counts as a call exactly if it opens a transaction of this end. -/
theorem isCall_eq (o : Outcome) : o.isCall = o.opened?.any Transaction.outgoing := by
  rcases o with ⟨inside, _ | _, m⟩ | ⟨m, _ | action⟩ | ms
  · rfl
  · simp only [isCall, opened?]
    cases (m.flags.sync && !m.flags.reply) <;> rfl
  · rfl
  · cases action with
    | dispatch n =>
      simp only [isCall, opened?]
      cases n.flags.sync <;> rfl
    | reply | replyError | deferred => rfl
  · rfl

/-- An outcome counts as an answer exactly if it completes a call of this end. -/
theorem isAnswer_eq (o : Outcome) : o.isAnswer = o.completed?.any Prod.fst := by
  rcases o with ⟨inside, _ | _, m⟩ | ⟨m, _ | action⟩ | ms
  · rfl
  · simp only [isAnswer, completed?]
    cases (m.flags.sync && m.flags.reply) <;> rfl
  · rfl
  · cases action <;> rfl
  · rfl

end Tracker.Outcome

/-! ## Accounts of calls -/

/-- A synchronous call that was made or handled, and whether it is completed. -/
structure Dealing where
  call : Transaction
  completed : Bool := false

namespace Dealing

/-- Completes the latest open call of a direction that bears a number. -/
def complete (key : Bool × Int32) : List Dealing → List Dealing
  | [] => []
  | d :: ds =>
    if d.completed = false ∧ (d.call.outgoing, d.call.id) = key then
      { d with completed := true } :: ds
    else d :: complete key ds

/-- Enters into an account what came of a request. -/
def enter (ds : List Dealing) (o : Outcome) : List Dealing :=
  match o.opened?, o.completed? with
  | some call, _ => { call } :: ds
  | none, some key => complete key ds
  | none, none => ds

/-- The calls that are not completed, the latest one first. -/
def openCalls (ds : List Dealing) : List Transaction :=
  (ds.filter fun d => !d.completed).map call

/-- One account becomes another by completing the latest of the open calls, which goes in a
direction and bears a number. -/
def CompletesLatest (outgoing : Bool) (id : Int32) (before after : List Dealing) : Prop :=
  ∃ later d earlier, before = later ++ d :: earlier ∧ (∀ e ∈ later, e.completed = true) ∧
    d.completed = false ∧ d.call.outgoing = outgoing ∧ d.call.id = id ∧
    after = later ++ { d with completed := true } :: earlier

/-- The latest open call is completed by its number, whatever calls were completed since. -/
theorem completesLatest_complete {ds : List Dealing} {top : Transaction} {rest : List Transaction}
    (calls : openCalls ds = top :: rest) :
    CompletesLatest top.outgoing top.id ds (complete (top.outgoing, top.id) ds) ∧
      openCalls (complete (top.outgoing, top.id) ds) = rest := by
  -- entries that are completed lie before the latest open one and are passed over
  induction ds with
  | nil => contradiction
  | cons d ds ih =>
    obtain ⟨call, completed⟩ := d
    cases completed with
    | true =>
      obtain ⟨⟨later, e, earlier, before, done, isOpen, outgoing, id, after⟩, left⟩ := ih calls
      refine ⟨⟨⟨call, true⟩ :: later, e, earlier, ?_, ?_, isOpen, outgoing, id, ?_⟩, left⟩
      · rw [before, List.cons_append]
      · exact List.forall_mem_cons.2 ⟨rfl, done⟩
      · rw [complete, if_neg (by simp), after, List.cons_append]
    | false =>
      obtain ⟨rfl, rfl⟩ := List.cons.inj calls
      have here : complete (call.outgoing, call.id) (⟨call, false⟩ :: ds) = ⟨call, true⟩ :: ds :=
        if_pos ⟨rfl, rfl⟩
      rw [here]
      exact ⟨⟨[], ⟨call, false⟩, ds, rfl, by simp, rfl, rfl, rfl, rfl⟩, rfl⟩

/-- Calls are completed in place. -/
theorem map_call_complete (key : Bool × Int32) (ds : List Dealing) :
    (complete key ds).map call = ds.map call := by
  induction ds with
  | nil => rfl
  | cons d ds ih =>
    unfold complete
    split
    · rfl
    · rw [List.map_cons, ih, List.map_cons]

end Dealing

/-! ## What a request does to the open transactions -/

/-- Nothing is opened or completed, a call is opened inside the others, or the innermost one is
completed. -/
inductive Tracker.Turns (t : Tracker) (o : Outcome) (s : Tracker) : Prop
  | same : o.opened? = none → o.completed? = none → s.stack = t.stack → Turns t o s
  | opened (call : Transaction) : o.opened? = some call → o.completed? = none →
      s.stack = call :: t.stack → Turns t o s
  | completed {top : Transaction} {rest : List Transaction} : o.opened? = none →
      o.completed? = some (top.outgoing, top.id) → t.stack = top :: rest → s.stack = rest →
      Turns t o s

/-- Whatever comes of a request, the stack changes by one call at most, at its top. -/
theorem Tracker.Responds.turns {t : Tracker} {q : Request} {response : Outcome × Tracker}
    (responds : t.Responds q response) : t.Turns response.1 response.2 := by
  cases responds with
  | send sent =>
    cases sent with
    | notice reply sync =>
      exact .same (Outcome.opened?_notice sync) (Outcome.completed?_notice sync) rfl
    | opening reply sync stack =>
      refine .opened _ (Outcome.opened?_call reply sync) (Outcome.completed?_of_not_reply reply) ?_
      rw [stack]
      rfl
    | nested reply sync =>
      exact .opened _ (Outcome.opened?_call reply sync) (Outcome.completed?_of_not_reply reply) rfl
    | reply reply sync =>
      exact .same (Outcome.opened?_notice sync) (Outcome.completed?_notice sync) rfl
    | answer reply sync stack incoming same =>
      refine .completed (Outcome.opened?_of_reply reply) ?_ stack rfl
      rw [incoming, same]
      exact Outcome.completed?_answer reply sync
    | refused | stray => exact .same rfl rfl rfl
  | receive received =>
    cases received with
    | answer reply sync stack outgoing same =>
      refine .completed Outcome.opened?_received_answer ?_ stack rfl
      rw [outgoing, same]
      exact Outcome.completed?_received_answer
    | call reply sync => exact .opened _ (Outcome.opened?_dispatch sync) rfl rfl
    | notice sync => exact .same (Outcome.opened?_dispatch_notice sync) rfl rfl
    | stray | waits => exact .same rfl rfl rfl
  | nothing | everything => exact .same rfl rfl rfl

/-- An answer is accepted if the innermost transaction has the given direction and number, and
refused otherwise. -/
inductive Tracker.Answered (t : Tracker) (outgoing : Bool) (id : Int32) (o : Outcome) : Prop
  | accepted (top : Transaction) : top ∈ t.stack.head? → top.outgoing = outgoing → top.id = id →
      o.isAccepted = true → o.opened? = none → o.completed? = some (outgoing, id) →
      Answered t outgoing id o
  | refused : (∀ top ∈ t.stack.head?, ¬ (top.outgoing = outgoing ∧ top.id = id)) →
      o.isAccepted = false → o.opened? = none → o.completed? = none → Answered t outgoing id o

namespace Tracker

variable {m : Message}

/-- A synchronous reply that arrives is accepted only as the answer to an innermost call of this
end. -/
theorem answered_receive (t : Tracker) (reply : m.flags.reply = true)
    (sync : m.flags.sync = true) :
    t.Answered true m.header.transaction (t.respond (.receive m)).1 := by
  have responds := t.responds (.receive m)
  generalize t.respond (.receive m) = response at responds ⊢
  cases responds with
  | receive received =>
    cases received with
    | answer _ _ stack outgoing same =>
      refine .accepted _ ?_ outgoing same rfl Outcome.opened?_received_answer
        Outcome.completed?_received_answer
      rw [stack]
      rfl
    | stray e _ _ none => exact .refused none rfl rfl rfl
    | waits ordinary => exact absurd ⟨reply, sync⟩ ordinary
    | call ordinary =>
      rw [reply] at ordinary
      contradiction
    | notice notice =>
      rw [sync] at notice
      contradiction

/-- A synchronous reply is sent only as the answer to an innermost call of the other end. -/
theorem answered_send (t : Tracker) (reply : m.flags.reply = true) (sync : m.flags.sync = true) :
    t.Answered false m.header.transaction (t.respond (.send m)).1 := by
  have responds := t.responds (.send m)
  generalize t.respond (.send m) = response at responds ⊢
  cases responds with
  | send sent =>
    cases sent with
    | answer _ _ stack incoming same =>
      refine .accepted _ ?_ incoming same rfl (Outcome.opened?_of_reply reply)
        (Outcome.completed?_answer reply sync)
      rw [stack]
      rfl
    | stray _ _ none => exact .refused none rfl rfl rfl
    | notice ordinary | opening ordinary | nested ordinary | refused ordinary =>
      rw [reply] at ordinary
      contradiction
    | reply _ notice =>
      rw [sync] at notice
      contradiction

/-- A message that is not synchronous is no call, and it answers none. -/
theorem respond_of_notice (t : Tracker) (notice : m.flags.sync = false) {q : Request}
    (asked : q = .send m ∨ q = .receive m) :
    (t.respond q).1.opened? = none ∧ (t.respond q).1.completed? = none := by
  have responds := t.responds q
  generalize t.respond q = response at responds ⊢
  rcases asked with rfl | rfl
  · cases responds with
    | send sent =>
      cases sent with
      | notice | reply =>
        exact ⟨Outcome.opened?_notice notice, Outcome.completed?_notice notice⟩
      | refused | stray => exact ⟨rfl, rfl⟩
      | opening _ sync | nested _ sync | answer _ sync =>
        rw [notice] at sync
        contradiction
  · cases responds with
    | receive received =>
      cases received with
      | notice => exact ⟨Outcome.opened?_dispatch_notice notice, rfl⟩
      | stray | waits => exact ⟨rfl, rfl⟩
      | answer _ sync | call _ sync =>
        rw [notice] at sync
        contradiction

/-- An answer that is accepted is handed over as what it says it is. -/
theorem receive_answer_eq_ok {t : Tracker} (reply : m.flags.reply = true)
    (sync : m.flags.sync = true) {action : Action} (accepted : (t.receive m).1 = .ok action) :
    action = if m.flags.replyError then .replyError m else .reply m := by
  have received := t.received m
  generalize t.receive m = result at received accepted
  cases received with
  | answer => exact (Except.ok.inj accepted).symm
  | stray => cases accepted
  | waits ordinary => exact absurd ⟨reply, sync⟩ ordinary
  | call ordinary =>
    rw [reply] at ordinary
    contradiction
  | notice notice =>
    rw [sync] at notice
    contradiction

/-- An end waits exactly if one of its open transactions is a call of its own. -/
theorem isAwaiting_iff (t : Tracker) :
    t.isAwaiting = true ↔ 0 < t.stack.countP Transaction.outgoing := by
  unfold isAwaiting awaited?
  rw [List.find?_isSome, List.countP_pos_iff]

end Tracker

namespace History

/-- The account of the calls of an end, the latest one first. -/
def dealings (h : History) : List Dealing := h.log.foldl Dealing.enter []

/-- The tracker's stack is what the account says to be open, and the account has every call that was
accepted. -/
structure Booked (h : History) : Prop where
  stack : h.tracker.stack = Dealing.openCalls h.dealings
  calls : h.dealings.map Dealing.call = (h.log.filterMap Outcome.opened?).reverse
  balance : h.log.countP Outcome.isCall =
    h.log.countP Outcome.isAnswer + h.tracker.stack.countP Transaction.outgoing

/-- The account after one more request has what came of this request entered last. -/
theorem dealings_step (h : History) (q : Request) :
    (h.step q).dealings = Dealing.enter h.dealings (h.tracker.respond q).1 := by
  unfold dealings step
  rw [List.foldl_append]
  rfl

/-- One more request adds to the opened calls the one that it opens, if any. -/
theorem filterMap_opened?_step (h : History) (q : Request) :
    (h.step q).log.filterMap Outcome.opened? =
      h.log.filterMap Outcome.opened? ++ (h.tracker.respond q).1.opened?.toList := by
  unfold step
  rw [List.filterMap_append]
  cases opened : (h.tracker.respond q).1.opened? <;> simp [opened]

/-- One more request adds one to the calls that were sent exactly if it opens one of this end. -/
theorem countP_isCall_step (h : History) (q : Request) :
    (h.step q).log.countP Outcome.isCall =
      h.log.countP Outcome.isCall +
        if (h.tracker.respond q).1.opened?.any Transaction.outgoing then 1 else 0 := by
  rw [← Outcome.isCall_eq]
  exact List.countP_append.trans (congrArg _ List.countP_singleton)

/-- One more request adds one to the answers exactly if it completes a call of this end. -/
theorem countP_isAnswer_step (h : History) (q : Request) :
    (h.step q).log.countP Outcome.isAnswer =
      h.log.countP Outcome.isAnswer +
        if (h.tracker.respond q).1.completed?.any Prod.fst then 1 else 0 := by
  rw [← Outcome.isAnswer_eq]
  exact List.countP_append.trans (congrArg _ List.countP_singleton)

/-- Every request keeps the account right. -/
theorem Booked.step {h : History} (booked : h.Booked) (q : Request) : (h.step q).Booked := by
  have dealings := h.dealings_step q
  have entries := h.filterMap_opened?_step q
  have calls := h.countP_isCall_step q
  have answers := h.countP_isAnswer_step q
  have balance := booked.balance
  have after : (h.step q).tracker = (h.tracker.respond q).2 := rfl
  -- what a request does to the stack decides what it does to the account
  cases (h.tracker.responds q).turns with
  | same opened completed stack =>
    simp only [Dealing.enter, opened, completed] at dealings calls answers entries
    rw [← after] at stack
    refine ⟨?_, ?_, ?_⟩
    · rw [stack, dealings]
      exact booked.stack
    · rw [dealings, entries, booked.calls]
      simp
    · rw [calls, answers, stack]
      exact balance
  | opened call opened completed stack =>
    simp only [Dealing.enter, opened, completed] at dealings calls answers entries
    rw [← after] at stack
    refine ⟨?_, ?_, ?_⟩
    · rw [stack, dealings, booked.stack]
      rfl
    · rw [dealings, entries, List.map_cons, booked.calls]
      simp
    · rw [calls, answers, stack, balance, List.countP_cons]
      simp [Nat.add_assoc]
  | @completed top rest opened completed before stack =>
    simp only [Dealing.enter, opened, completed] at dealings calls answers entries
    rw [← after] at stack
    obtain ⟨-, left⟩ := Dealing.completesLatest_complete (booked.stack.symm.trans before)
    refine ⟨?_, ?_, ?_⟩
    · rw [stack, dealings, left]
    · rw [dealings, Dealing.map_call_complete, entries, booked.calls]
      simp
    · rw [before, List.countP_cons] at balance
      rw [calls, answers, stack, balance]
      simp only [Option.any_none, Option.any_some, Bool.false_eq_true, if_false]
      omega

/-- The account is right after any requests. -/
theorem booked_run (role : Role) (qs : List Request) : (run role qs).Booked := by
  induction qs using List.reverseRecOn with
  | nil => exact ⟨rfl, rfl, rfl⟩
  | append_singleton qs q ih =>
    rw [run_append_singleton]
    exact ih.step q

/-- An answer is accepted exactly if the innermost transaction has a given direction and number.
Then it completes the latest open call, which has them, and otherwise it changes no call. -/
structure CompletesIf (h : History) (q : Request) (outgoing : Bool) (id : Int32) : Prop where
  accepted_iff : (h.tracker.respond q).1.isAccepted = true ↔
    ∃ top ∈ h.tracker.stack.head?, top.outgoing = outgoing ∧ top.id = id
  accepted : (h.tracker.respond q).1.isAccepted = true →
    Dealing.CompletesLatest outgoing id h.dealings (h.step q).dealings ∧
      (h.step q).tracker.stack = h.tracker.stack.tail
  refused : (h.tracker.respond q).1.isAccepted = false →
    (h.step q).dealings = h.dealings ∧ (h.step q).tracker.stack = h.tracker.stack

/-- A request that completes nothing and opens nothing changes no call. -/
theorem unchanged_step {h : History} {q : Request}
    (opened : (h.tracker.respond q).1.opened? = none)
    (completed : (h.tracker.respond q).1.completed? = none) :
    (h.step q).dealings = h.dealings ∧ (h.step q).tracker.stack = h.tracker.stack := by
  have dealings := h.dealings_step q
  simp only [Dealing.enter, opened, completed] at dealings
  refine ⟨dealings, ?_⟩
  cases (h.tracker.responds q).turns with
  | same _ _ stack => exact stack
  | opened call some =>
    rw [opened] at some
    contradiction
  | completed _ some =>
    rw [completed] at some
    contradiction

/-- A request that completes a call completes the latest open one, and the stack loses its top. -/
theorem Booked.completesLatest_step {h : History} (booked : h.Booked) {q : Request}
    {outgoing : Bool} {id : Int32} (opened : (h.tracker.respond q).1.opened? = none)
    (completed : (h.tracker.respond q).1.completed? = some (outgoing, id)) :
    Dealing.CompletesLatest outgoing id h.dealings (h.step q).dealings ∧
      (h.step q).tracker.stack = h.tracker.stack.tail := by
  have dealings := h.dealings_step q
  simp only [Dealing.enter, opened, completed] at dealings
  cases (h.tracker.responds q).turns with
  | same _ none =>
    rw [completed] at none
    contradiction
  | opened call some =>
    rw [opened] at some
    contradiction
  | completed _ key before stack =>
    rw [completed] at key
    obtain ⟨rfl, rfl⟩ := Prod.mk.inj (Option.some.inj key)
    rw [dealings, before]
    obtain ⟨latest, -⟩ := Dealing.completesLatest_complete (booked.stack.symm.trans before)
    exact ⟨latest, stack⟩

/-- What the tracker does with an answer says what becomes of the account. -/
theorem Booked.completesIf {h : History} (booked : h.Booked) {q : Request} {outgoing : Bool}
    {id : Int32} (answered : h.tracker.Answered outgoing id (h.tracker.respond q).1) :
    h.CompletesIf q outgoing id := by
  cases answered with
  | accepted top head direction number accepted opened completed =>
    refine ⟨⟨fun _ => ⟨top, head, direction, number⟩, fun _ => accepted⟩, fun _ => ?_, ?_⟩
    · exact booked.completesLatest_step opened completed
    · rw [accepted]
      exact fun refused => by contradiction
  | refused none refused opened completed =>
    refine ⟨⟨?_, ?_⟩, ?_, fun _ => unchanged_step opened completed⟩
    · rw [refused]
      exact fun accepted => by contradiction
    · rintro ⟨top, head, same⟩
      exact absurd same (none top head)
    · rw [refused]
      exact fun accepted => by contradiction

/-- Whatever is asked of an end, its open transactions are the calls that were accepted, in the
order of opening, without those that were completed. The answer to a call, one that arrives or one
that is sent, is accepted exactly if the innermost transaction goes in the opposite direction and
bears its number, and it completes that one and no other. So an answer is awaited exactly if more
calls were sent than were answered, and no message that is not synchronous changes any of this. -/
theorem completed_innermost_first (role : Role) (qs : List Request) :
    let h := run role qs
    h.tracker.stack = Dealing.openCalls h.dealings ∧
      h.dealings.map Dealing.call = (h.log.filterMap Outcome.opened?).reverse ∧
      (∀ m : Message, m.flags.reply = true → m.flags.sync = true →
        h.CompletesIf (.receive m) true m.header.transaction ∧
          h.CompletesIf (.send m) false m.header.transaction ∧
          ∀ action, (h.tracker.receive m).1 = .ok action →
            action = if m.flags.replyError then .replyError m else .reply m) ∧
      (h.tracker.isAwaiting = true ↔
        h.log.countP Outcome.isAnswer < h.log.countP Outcome.isCall) ∧
      ∀ m : Message, m.flags.sync = false → ∀ q ∈ [Request.send m, .receive m],
        (h.step q).dealings = h.dealings ∧ (h.step q).tracker.stack = h.tracker.stack := by
  intro h
  have booked : h.Booked := booked_run role qs
  refine ⟨booked.stack, booked.calls, ?_, ?_, ?_⟩
  · intro m reply sync
    exact ⟨booked.completesIf (h.tracker.answered_receive reply sync),
      booked.completesIf (h.tracker.answered_send reply sync),
      fun action => Tracker.receive_answer_eq_ok reply sync⟩
  · rw [Tracker.isAwaiting_iff, booked.balance]
    omega
  · intro m notice q asked
    obtain ⟨opened, completed⟩ := h.tracker.respond_of_notice notice (by simpa using asked)
    exact unchanged_step opened completed

/-- While the parent handles a call inside its own one, and with the same number, an answer with
that number is refused if it arrives, and completes the inner call if it is sent. -/
theorem completed_innermost_first_nested :
    let call : Message := .addressed 1 2 { level := .insideSync, sync := true }
    let answer : Message := (call.setTransaction 1).reply 3
    let h := run .parent [.send call, .receive (call.setTransaction 1)]
    answer.flags.reply = true ∧ answer.flags.sync = true ∧
      h.tracker.stack.map Transaction.outgoing = [false, true] ∧
      (h.tracker.respond (.receive answer)).1.isAccepted = false ∧
      (h.step (.receive answer)).dealings = h.dealings ∧
      (h.tracker.respond (.send answer)).1.isAccepted = true ∧
      Dealing.CompletesLatest false 1 h.dealings (h.step (.send answer)).dealings ∧
      h.log.countP Outcome.isAnswer < h.log.countP Outcome.isCall := by
  intro call answer h
  obtain ⟨-, -, answers, awaiting, -⟩ :=
    completed_innermost_first .parent [.send call, .receive (call.setTransaction 1)]
  obtain ⟨arrives, leaves, -⟩ := answers answer rfl rfl
  have refused : (h.tracker.respond (.receive answer)).1.isAccepted = false := rfl
  have accepted : (h.tracker.respond (.send answer)).1.isAccepted = true := rfl
  exact ⟨rfl, rfl, rfl, refused, (arrives.refused refused).1, accepted, (leaves.accepted accepted).1,
    awaiting.1 rfl⟩

end History

end Interprocess
