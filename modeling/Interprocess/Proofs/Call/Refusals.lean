import Interprocess.Proofs.Call.History

/-!
# Requests that are refused

A tracker refuses replies that answer nothing, whichever way they go, and calls that nest less
deeply than the innermost transaction. A reply is looked at before anything is changed, so a refusal
leaves no trace: `History.foldl_kept` drops such requests from any run, and nothing else becomes of
it. A call takes its number before it is looked at, and it keeps the number when it is refused. The
main statement is `refused_without_trace`.
-/

set_option autoImplicit false

namespace Interprocess

namespace Tracker

variable {t : Tracker} {m : Message}

/-- A message that is refused when it arrives leaves the tracker as it was. -/
theorem receive_of_error {e : CallError} (refused : (t.receive m).1 = .error e) :
    t.receive m = (.error e, t) := by
  have received := t.received m
  generalize t.receive m = result at received refused ⊢
  cases received with
  | stray => rw [Except.error.inj refused]
  | answer | waits | call | notice => contradiction

/-- A reply is refused before anything is changed. -/
theorem send_of_error_of_reply {e : CallError} (reply : m.flags.reply = true)
    (refused : (t.send m).1 = .error e) : t.send m = (.error e, t, m) := by
  have sent := t.sent m
  generalize t.send m = result at sent refused ⊢
  cases sent with
  | stray => rw [Except.error.inj refused]
  | refused ordinary =>
    rw [reply] at ordinary
    contradiction
  | notice | opening | nested | reply | answer => contradiction

/-- A call is refused after it took a number. -/
theorem send_of_error_of_call {e : CallError} (ordinary : m.flags.reply = false)
    (refused : (t.send m).1 = .error e) :
    t.send m = (.error e, { t with lastSeqno := t.nextSeqno }, m.setSeqno t.nextSeqno) := by
  have sent := t.sent m
  generalize t.send m = result at sent refused ⊢
  cases sent with
  | refused => rw [Except.error.inj refused]
  | stray reply =>
    rw [ordinary] at reply
    contradiction
  | notice | opening | nested | reply | answer => contradiction

/-- A call is refused if it nests less deeply than the innermost transaction, and nothing else is
refused of what is no reply. -/
theorem send_isError_iff (ordinary : m.flags.reply = false) :
    (∃ e, (t.send m).1 = .error e) ↔
      m.flags.sync = true ∧ ∃ top ∈ t.stack.head?, m.flags.level < top.level := by
  have sent := t.sent m
  generalize t.send m = result at sent ⊢
  cases sent with
  | refused _ sync stack low =>
    refine iff_of_true ⟨_, rfl⟩ ⟨sync, _, ?_, low⟩
    rw [stack]
    rfl
  | notice _ notice =>
    refine iff_of_false (fun ⟨e, refused⟩ => nomatch refused) fun ⟨sync, _⟩ => ?_
    rw [notice] at sync
    contradiction
  | opening _ _ stack =>
    refine iff_of_false (fun ⟨e, refused⟩ => nomatch refused) fun ⟨_, top, head, _⟩ => ?_
    rw [stack] at head
    contradiction
  | nested _ _ stack deep =>
    refine iff_of_false (fun ⟨e, refused⟩ => nomatch refused) fun ⟨_, top, head, low⟩ => ?_
    rw [stack] at head
    obtain rfl := Option.some.inj head
    exact deep low
  | reply reply | answer reply | stray reply =>
    rw [ordinary] at reply
    contradiction

/-- Counting on changes the number, even where it wraps around. -/
theorem nextSeqno_ne (t : Tracker) : t.nextSeqno ≠ t.lastSeqno := by
  unfold nextSeqno
  cases t.role with
  | parent => simp
  | child =>
    rw [Int32.sub_eq_add_neg]
    simp

/-- An outcome is moot if it is the refusal of a reply. -/
def Outcome.isMoot : Outcome → Bool
  | sent _ (.error (.strayReply _)) _ => true
  | received _ (.error _) => true
  | _ => false

/-- The refusal of a reply leaves the tracker as it was. -/
theorem Responds.eq_of_isMoot {q : Request} {response : Outcome × Tracker}
    (responds : t.Responds q response) (moot : response.1.isMoot = true) : response.2 = t := by
  cases responds with
  | send sent =>
    cases sent with
    | stray => rfl
    | notice | opening | nested | refused | reply | answer => contradiction
  | receive received =>
    cases received with
    | stray => rfl
    | answer | waits | call | notice => exact absurd moot Bool.false_ne_true
  | nothing => rfl
  | everything => contradiction

/-- The requests that are left when those with a moot outcome are dropped. -/
def kept (t : Tracker) : List Request → List Request
  | [] => []
  | q :: qs =>
    let rest := (t.respond q).2.kept qs
    if (t.respond q).1.isMoot then rest else q :: rest

end Tracker

open Tracker (Request Outcome)

namespace History

/-- A history without the moot outcomes. -/
def trimmed (h : History) : History := { h with log := h.log.filter fun o => !o.isMoot }

/-- A step with a moot outcome leaves no trace in the trimmed history. -/
theorem trimmed_step_of_isMoot {h : History} {q : Request}
    (moot : (h.tracker.respond q).1.isMoot = true) : (h.step q).trimmed = h.trimmed := by
  have same := (h.tracker.responds q).eq_of_isMoot moot
  simp only [trimmed, step, same, List.filter_append, List.filter_cons, moot]
  simp

/-- A step with any other outcome is the same step of the trimmed history. -/
theorem trimmed_step {h : History} {q : Request}
    (moot : (h.tracker.respond q).1.isMoot = false) : (h.step q).trimmed = h.trimmed.step q := by
  simp [trimmed, step, List.filter_append, moot]

/-- Requests with a moot outcome may be dropped: all others come to the same. -/
theorem foldl_kept (h : History) (qs : List Request) :
    (h.tracker.kept qs).foldl step h.trimmed = (qs.foldl step h).trimmed := by
  induction qs generalizing h with
  | nil => rfl
  | cons q qs ih =>
    have rest := ih (h.step q)
    rw [List.foldl_cons, ← rest, Tracker.kept]
    cases moot : (h.tracker.respond q).1.isMoot with
    | true =>
      rw [trimmed_step_of_isMoot moot]
      rfl
    | false =>
      rw [trimmed_step moot]
      rfl

/-- A reply that is refused, on its way out or in, changes nothing, and all else comes to what it
would have come to without it. Of other messages just those calls are refused that nest less deeply
than the innermost transaction, and each of them costs a number, which it bears from then on. -/
theorem refused_without_trace (role : Role) (qs : List Request) :
    let h := run role qs
    let t := h.tracker
    (∀ m e, (t.receive m).1 = .error e → (t.receive m).2 = t) ∧
      (∀ m e, m.flags.reply = true → (t.send m).1 = .error e → (t.send m).2 = (t, m)) ∧
      (∀ m, m.flags.reply = false →
        ((∃ e, (t.send m).1 = .error e) ↔
          m.flags.sync = true ∧ ∃ top ∈ t.stack.head?, m.flags.level < top.level)) ∧
      (∀ m e, m.flags.reply = false → (t.send m).1 = .error e →
        (t.send m).2 = ({ t with lastSeqno := t.nextSeqno }, m.setSeqno t.nextSeqno) ∧
          (t.send m).2.1.nextSeqno ≠ t.nextSeqno) ∧
      run role (Tracker.kept (.start role) qs) = h.trimmed := by
  intro h t
  refine ⟨?_, ?_, ?_, ?_, ?_⟩
  · intro m e refused
    exact congrArg Prod.snd (Tracker.receive_of_error refused)
  · intro m e reply refused
    exact congrArg Prod.snd (Tracker.send_of_error_of_reply reply refused)
  · intro m ordinary
    exact Tracker.send_isError_iff ordinary
  · intro m e ordinary refused
    have left := congrArg Prod.snd (Tracker.send_of_error_of_call ordinary refused)
    refine ⟨left, ?_⟩
    rw [left]
    exact Tracker.nextSeqno_ne _
  · exact foldl_kept { tracker := .start role } qs

/-- A reply of which no call is known. -/
def strayReply : Message := (Message.dispatchFailure .notNested).setTransaction 9

/-- A call that can be part of another one. -/
def nestedCall : Message := .addressed 1 2 { level := .insideSync, sync := true }

/-- A call that cannot be part of another one. -/
def plainCall : Message := .addressed 1 2 { sync := true }

/-- The stray replies are refused in both directions and can be dropped; the refused call cannot. -/
theorem refused_without_trace_mixed :
    let h := run .child [.send nestedCall, .receive strayReply, .send strayReply, .send plainCall]
    (h.tracker.receive strayReply).2 = h.tracker ∧
      (h.tracker.send strayReply).2 = (h.tracker, strayReply) ∧
      (h.tracker.send plainCall).2 =
        ({ h.tracker with lastSeqno := -3 }, plainCall.setSeqno (-3)) ∧
      run .child [.send nestedCall, .send plainCall] = h.trimmed := by
  intro h
  obtain ⟨received, replied, -, called, trimmed⟩ := refused_without_trace .child
    [.send nestedCall, .receive strayReply, .send strayReply, .send plainCall]
  obtain ⟨left, -⟩ := called plainCall _ rfl rfl
  exact ⟨received strayReply _ rfl, replied strayReply _ rfl rfl, left, trimmed⟩

/-- A call is refused, and yet the tracker has counted, the message bears a number, and the next
message that is sent has another number than without the refusal. -/
theorem refused_call_takes_number :
    let t := (run .child [.send nestedCall]).tracker
    let notice : Message := .addressed 1 2 {}
    (t.send plainCall).1 = .error (.levelTooLow .notNested .insideSync) ∧
      (t.send plainCall).2.1 ≠ t ∧ (t.send plainCall).2.2 ≠ plainCall ∧
      (t.send notice).2.2.header.seqno = -2 ∧
      ((t.send plainCall).2.1.send notice).2.2.header.seqno = -3 := by
  decide

end History

end Interprocess
