import Interprocess.Proofs.Call.Reentry
import Mathlib.Data.List.Induction

/-!
# What one end was asked, and what it answered

A `History` is the tracker of one end together with the log of all that was asked of it so far and
of what came of each request. Nothing is assumed of the requests: this end may send what it likes,
the other end may be faulty, and what had to wait may be fetched at any time. The log is what a
caller can see. What the tracker keeps to itself is determined by it: the messages that wait, the
open transactions and the numbers that were given out. This file has the first of these: whatever
waits was handed back to wait, and leaves in the order in which it came (`History.InLine`).
-/

set_option autoImplicit false

namespace Interprocess

namespace Tracker

/-- What is asked of a tracker. -/
inductive Request
  | send (m : Message)
  | receive (m : Message)
  | takeWaiting

/-- What came of a request. -/
inductive Outcome
  /-- A message was to be sent, inside an open transaction or outside of any, and left as it is
  here. -/
  | sent (inside : Option Int32) (result : Except CallError Unit) (m : Message)
  | received (m : Message) (result : Except CallError Action)
  | taken (ms : List Message)

/-- What comes of a request, and the tracker afterwards. -/
def respond (t : Tracker) : Request → Outcome × Tracker
  | .send m => (.sent t.current? (t.send m).1 (t.send m).2.2, (t.send m).2.1)
  | .receive m => (.received m (t.receive m).1, (t.receive m).2)
  | .takeWaiting => (.taken t.takeWaiting.1, t.takeWaiting.2)

/-- An end waits for no answer exactly if none of its calls is pending. -/
theorem isAwaiting_eq_false_iff (t : Tracker) : t.isAwaiting = false ↔ t.pending = [] := by
  unfold isAwaiting awaited? pending
  simp

/-- No call is pending exactly if all open transactions are calls of the other end. -/
theorem pending_eq_nil_iff (t : Tracker) :
    t.pending = [] ↔ ∀ call ∈ t.stack, call.outgoing = false := by
  unfold pending
  simp

/-- Without a pending call nothing has to wait. -/
theorem defers_of_pending_eq_nil {t : Tracker} (free : t.pending = []) (m : Message) :
    t.defers m = false := by
  have none : t.awaited? = none := by
    have idle := t.isAwaiting_eq_false_iff.2 free
    unfold isAwaiting at idle
    simpa using idle
  rw [defers, none]
  rfl

/-- A message that answers no call is handed over at once if no call is pending, and then there is
still none. -/
theorem receive_of_pending_eq_nil {t : Tracker} (free : t.pending = []) {m : Message}
    (ordinary : ¬ (m.flags.reply = true ∧ m.flags.sync = true)) :
    (t.receive m).1 = .ok (.dispatch m) ∧ (t.receive m).2.pending = [] := by
  have now := defers_of_pending_eq_nil free m
  rw [pending_eq_nil_iff] at free
  have received := t.received m
  generalize t.receive m = result at received ⊢
  cases received with
  | answer reply sync | stray e reply sync => exact absurd ⟨reply, sync⟩ ordinary
  | waits ordinary waits =>
    rw [now] at waits
    contradiction
  | call =>
    refine ⟨rfl, (pending_eq_nil_iff _).2 ?_⟩
    exact List.forall_mem_cons.2 ⟨rfl, free⟩
  | notice => exact ⟨rfl, (pending_eq_nil_iff _).2 free⟩

/-- Without a pending call everything that waits is fetched, in order. -/
theorem takeWaiting_of_pending_eq_nil {t : Tracker} (free : t.pending = []) :
    t.takeWaiting = (t.waiting, { t with waiting := [] }) := by
  rw [takeWaiting, t.isAwaiting_eq_false_iff.2 free]
  rfl

/-- Either a call is pending and nothing is fetched, or all that waits is. -/
theorem takeWaiting_cases (t : Tracker) :
    t.takeWaiting = ([], t) ∨
      t.pending = [] ∧ t.takeWaiting = (t.waiting, { t with waiting := [] }) := by
  cases awaiting : t.isAwaiting with
  | true =>
    rw [takeWaiting, awaiting]
    exact Or.inl rfl
  | false =>
    have free := t.isAwaiting_eq_false_iff.1 awaiting
    exact Or.inr ⟨free, takeWaiting_of_pending_eq_nil free⟩

/-- What can come of a request. -/
inductive Responds (t : Tracker) : Request → Outcome × Tracker → Prop
  | send {m : Message} {result : Except CallError Unit × Tracker × Message} : Sent t m result →
      Responds t (.send m) (.sent t.current? result.1 result.2.2, result.2.1)
  | receive {m : Message} {result : Except CallError Action × Tracker} : Received t m result →
      Responds t (.receive m) (.received m result.1, result.2)
  | nothing : Responds t .takeWaiting (.taken [], t)
  | everything : t.pending = [] →
      Responds t .takeWaiting (.taken t.waiting, { t with waiting := [] })

/-- The cases of `Responds` are all that can come of a request. -/
theorem responds (t : Tracker) (q : Request) : Responds t q (t.respond q) := by
  cases q with
  | send m => exact .send (t.sent m)
  | receive m => exact .receive (t.received m)
  | takeWaiting =>
    rw [respond]
    rcases t.takeWaiting_cases with nothing | ⟨free, everything⟩
    · rw [nothing]
      exact .nothing
    · rw [everything]
      exact .everything free

end Tracker

open Tracker (Request Outcome)

/-- The tracker of one end and the log of what came of all requests, the first one first. -/
structure History where
  tracker : Tracker
  log : List Outcome := []

namespace History

/-- One more request. -/
def step (h : History) (q : Request) : History where
  tracker := (h.tracker.respond q).2
  log := h.log ++ [(h.tracker.respond q).1]

/-- What has come of some requests at an end that neither sent nor received anything before. -/
def run (role : Role) (qs : List Request) : History :=
  qs.foldl step { tracker := .start role }

/-- One more request is one more step. -/
@[simp] theorem run_append_singleton (role : Role) (qs : List Request) (q : Request) :
    run role (qs ++ [q]) = (run role qs).step q := by
  unfold run
  rw [List.foldl_append]
  rfl

/-- The messages that arrive one after the other, with nothing else in between. -/
def feed (h : History) (ms : List Message) : History := (ms.map Request.receive).foldl step h

end History

/-! ## What had to wait -/

/-- The message that has to wait because of an outcome. -/
def Tracker.Outcome.deferred? : Outcome → Option Message
  | received m (.ok .deferred) => some m
  | _ => none

/-- An answer that is accepted does not have to wait. -/
theorem Tracker.Outcome.deferred?_answer (m : Message) :
    (received m (.ok (if m.flags.replyError then .replyError m else .reply m))).deferred? =
      none := by
  cases m.flags.replyError <;> rfl

/-- The messages that were fetched with an outcome. -/
def Tracker.Outcome.fetched : Outcome → List Message
  | taken ms => ms
  | _ => []

namespace History

/-- All messages that had to wait when they arrived, in the order of arrival. -/
def deferred (h : History) : List Message := h.log.filterMap Outcome.deferred?

/-- All messages that were fetched, in the order of fetching. -/
def fetched (h : History) : List Message := h.log.flatMap Outcome.fetched

/-- What had to wait was fetched or is still waiting, and none of it answers a call. -/
structure InLine (h : History) : Prop where
  whole : h.fetched ++ h.tracker.waiting = h.deferred
  ordinary : ∀ m ∈ h.deferred, ¬ (m.flags.reply = true ∧ m.flags.sync = true)

/-- What waited or has to wait now is what is fetched now or still waits. -/
theorem InLine.append {h : History} (line : h.InLine) {o : Outcome} {t : Tracker}
    (moved : h.tracker.waiting ++ o.deferred?.toList = o.fetched ++ t.waiting)
    (ordinary : ∀ m ∈ o.deferred?, ¬ (m.flags.reply = true ∧ m.flags.sync = true)) :
    InLine { tracker := t, log := h.log ++ [o] } := by
  have deferred : deferred { tracker := t, log := h.log ++ [o] } =
      h.deferred ++ o.deferred?.toList := by
    unfold History.deferred
    rw [List.filterMap_append]
    cases deferred : o.deferred? <;> simp [deferred]
  have fetched : fetched { tracker := t, log := h.log ++ [o] } = h.fetched ++ o.fetched := by
    unfold History.fetched
    simp
  refine ⟨?_, ?_⟩
  · rw [deferred, fetched, ← line.whole, List.append_assoc, List.append_assoc, moved]
  · intro m mem
    rw [deferred] at mem
    rcases List.mem_append.1 mem with old | new
    · exact line.ordinary m old
    · exact ordinary m (by simpa using new)

/-- An outcome that is no reason to wait and fetches nothing leaves the line as it is. -/
theorem InLine.same {h : History} (line : h.InLine) {o : Outcome} {t : Tracker}
    (deferred : o.deferred? = none) (fetched : o.fetched = [])
    (waiting : t.waiting = h.tracker.waiting) : InLine { tracker := t, log := h.log ++ [o] } := by
  apply line.append
  · rw [deferred, fetched, waiting]
    exact List.append_nil _
  · rw [deferred]
    exact fun m mem => nomatch mem

/-- Every request keeps what had to wait in line. -/
theorem InLine.step {h : History} (line : h.InLine) (q : Request) : (h.step q).InLine := by
  have responds := h.tracker.responds q
  unfold History.step
  generalize h.tracker.respond q = response at responds ⊢
  cases responds with
  | send sent => cases sent <;> exact line.same rfl rfl rfl
  | receive received =>
    cases received with
    | answer => exact line.same (Outcome.deferred?_answer _) rfl rfl
    | stray | call | notice => exact line.same rfl rfl rfl
    | waits ordinary =>
      apply line.append rfl
      rintro n ⟨⟩
      exact ordinary
  | nothing => exact line.same rfl rfl rfl
  | everything => exact line.append rfl (fun m mem => nomatch mem)

/-- After any requests, what had to wait is in line. -/
theorem inLine_run (role : Role) (qs : List Request) : (run role qs).InLine := by
  -- logs grow at the end, so the induction takes the last request off
  induction qs using List.reverseRecOn with
  | nil => exact ⟨rfl, fun m mem => nomatch mem⟩
  | append_singleton qs q ih =>
    rw [run_append_singleton]
    exact ih.step q

/-- Messages that answer no call are handed over one after the other if no call is pending. -/
theorem feed_of_pending_eq_nil {h : History} (free : h.tracker.pending = []) {ms : List Message}
    (ordinary : ∀ m ∈ ms, ¬ (m.flags.reply = true ∧ m.flags.sync = true)) :
    (h.feed ms).log = h.log ++ ms.map fun m => .received m (.ok (.dispatch m)) := by
  -- a synchronous call that is handed over opens a transaction, but none of this end, so no call
  -- becomes pending before the next message
  induction ms generalizing h with
  | nil => exact (List.append_nil _).symm
  | cons m ms ih =>
    obtain ⟨first, others⟩ := List.forall_mem_cons.1 ordinary
    obtain ⟨handed, still⟩ := Tracker.receive_of_pending_eq_nil free first
    have rest := @ih (h.step (.receive m)) still others
    unfold feed at rest ⊢
    rw [List.map_cons, List.foldl_cons, rest, step, Tracker.respond, handed]
    simp

/-- Whatever is asked of an end, the messages that had to wait are fetched in the order of arrival,
each of them once and unchanged, and the others are still waiting. Nothing is fetched while a call
is pending. Where none is, all that waits is fetched, and it is handed over message by message when
it is given to the end again, like anything else that had to wait before. -/
theorem waits_in_line (role : Role) (qs : List Request) :
    let h := run role qs
    h.fetched ++ h.tracker.waiting = h.deferred ∧
      (h.tracker.takeWaiting.1 ≠ [] → h.tracker.pending = []) ∧
      (h.tracker.pending = [] →
        let drained := h.tracker.takeWaiting.1
        drained = h.tracker.waiting ∧
          ((h.step .takeWaiting).feed drained).log =
            (h.step .takeWaiting).log ++ drained.map fun m => .received m (.ok (.dispatch m))) ∧
      (h.tracker.pending = [] → ∀ ms : List Message, (∀ m ∈ ms, m ∈ h.deferred) →
        (h.feed ms).log = h.log ++ ms.map fun m => .received m (.ok (.dispatch m))) := by
  intro h
  have line : h.InLine := inLine_run role qs
  refine ⟨line.whole, ?_, ?_, ?_⟩
  · intro some
    rcases h.tracker.takeWaiting_cases with nothing | ⟨free, -⟩
    · rw [nothing] at some
      contradiction
    · exact free
  · intro free drained
    have all : h.tracker.takeWaiting = (h.tracker.waiting, { h.tracker with waiting := [] }) :=
      h.tracker.takeWaiting_of_pending_eq_nil free
    have drained_eq : drained = h.tracker.waiting := congrArg Prod.fst all
    have after : (h.step .takeWaiting).tracker.pending = [] := by
      unfold step Tracker.respond
      rw [all]
      exact free
    refine ⟨drained_eq, feed_of_pending_eq_nil after fun m mem => line.ordinary m ?_⟩
    rw [← line.whole, ← drained_eq]
    exact List.mem_append_right _ mem
  · intro free ms had
    exact feed_of_pending_eq_nil free fun m mem => line.ordinary m (had m mem)

/-- A notice and a crossing call wait for the parent's own call to fail. Then both are fetched, and
handed over when they are given to the parent again. -/
theorem waits_in_line_crossing :
    let notice : Message := .addressed 7 2 {}
    let call : Message := (Message.addressed 8 2 { sync := true }).setTransaction (-1)
    let h := run .parent
      [.send (.addressed 1 2 { sync := true }), .receive notice, .receive call,
        .receive ((Message.dispatchFailure .notNested).setTransaction 1)]
    h.deferred = [notice, call] ∧ h.tracker.pending = [] ∧
      h.tracker.takeWaiting.1 = [notice, call] ∧
      ((h.step .takeWaiting).feed [notice, call]).log =
        (h.step .takeWaiting).log ++
          [.received notice (.ok (.dispatch notice)), .received call (.ok (.dispatch call))] := by
  intro notice call h
  have free : h.tracker.pending = [] := rfl
  obtain ⟨whole, -, drained, -⟩ := waits_in_line .parent
    [.send (.addressed 1 2 { sync := true }), .receive notice, .receive call,
      .receive ((Message.dispatchFailure .notNested).setTransaction 1)]
  have deferred : h.deferred = [notice, call] := rfl
  have waiting : h.tracker.waiting = [notice, call] := whole.trans deferred
  obtain ⟨all, handed⟩ := drained free
  have fetched : h.tracker.takeWaiting.1 = [notice, call] := all.trans waiting
  rw [fetched] at handed
  exact ⟨deferred, free, fetched, handed⟩

end History

end Interprocess
