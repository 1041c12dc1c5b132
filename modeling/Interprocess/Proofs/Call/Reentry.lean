import Interprocess.Proofs.Call.Dialogue

/-!
# Calls that arrive while an answer is awaited

Nothing is assumed here of the other end. It may send any levels, numbers and replies, in any order,
and this end may send at any time. Still an end that waits for answers never begins to handle a
message that could not be nested inside each of the calls that are pending, although what arrives is
compared with the innermost pending call only, and what is sent with the innermost transaction,
whoever made it. This is because of `Layered`: every transaction nests at least as deeply as all
calls of this end around it.
-/

set_option autoImplicit false

namespace Interprocess

/-- Nesting at least as deeply is passed on from level to level. -/
theorem Level.le_trans {a b c : Level} (first : a ≤ b) (second : b ≤ c) : a ≤ c :=
  Nat.le_trans (m := b.number) first second

namespace Tracker

/-- The calls of this end that wait for an answer, outermost first. -/
def pending (t : Tracker) : List Transaction := (t.stack.filter Transaction.outgoing).reverse

/-- The states that an end comes to, whatever it sends and whatever arrives. -/
inductive Reached (role : Role) : Tracker → Prop
  | start : Reached role (.start role)
  | send {t : Tracker} (m : Message) : Reached role t → Reached role (t.send m).2.1
  | receive {t : Tracker} (m : Message) : Reached role t → Reached role (t.receive m).2
  | takeWaiting {t : Tracker} : Reached role t → Reached role t.takeWaiting.2

/-! ## What becomes of the open transactions -/

/-- A message that is sent leaves the transactions as they are, closes the innermost one, or opens
one inside it that nests at least as deeply. -/
theorem stack_send (t : Tracker) (m : Message) :
    (t.send m).2.1.stack = t.stack ∨ (t.send m).2.1.stack = t.stack.tail ∨
      ∃ id, (t.send m).2.1.stack =
          { id, level := m.flags.level, outgoing := true } :: t.stack ∧
        ∀ top ∈ t.stack.head?, top.level ≤ m.flags.level := by
  have sent := t.sent m
  generalize t.send m = result at sent ⊢
  cases sent with
  | notice | reply | refused | stray => exact Or.inl rfl
  | answer reply sync stack incoming same =>
    rw [stack]
    exact Or.inr (Or.inl rfl)
  | opening reply sync stack =>
    rw [stack]
    exact Or.inr (Or.inr ⟨_, rfl, by simp⟩)
  | nested reply sync stack deep =>
    refine Or.inr (Or.inr ⟨_, rfl, fun top head => ?_⟩)
    rw [stack] at head
    obtain rfl := Option.some.inj head
    exact Nat.le_of_not_lt deep

/-- What does not have to wait for the answer to a call nests at least as deeply as that call, and
it is a call itself unless it is of the deepest level. -/
theorem le_of_mustWait_eq_false {t : Tracker} {m : Message} {awaited : Level}
    (now : t.mustWait m awaited = false) :
    awaited ≤ m.flags.level ∧ (m.flags.level ≠ .insideCpow → m.flags.sync = true) := by
  by_cases deepest : m.flags.level = .insideCpow
  · refine ⟨?_, fun shallow => absurd deepest shallow⟩
    rw [deepest]
    cases awaited <;> decide
  cases sync : m.flags.sync with
  | false => simp [mustWait, deepest, sync] at now
  | true =>
    refine ⟨?_, fun _ => rfl⟩
    by_cases same : m.flags.level = awaited
    · rw [same]
      exact Nat.le_refl _
    · have deep : ¬ m.flags.level < awaited := by
        simpa [mustWait, deepest, sync, same] using now
      exact Nat.le_of_not_lt deep

/-- A message that arrives leaves the transactions as they are, closes the innermost one, or opens
one inside it that nests at least as deeply as the call of this end that is awaited. -/
theorem stack_receive (t : Tracker) (m : Message) :
    (t.receive m).2.stack = t.stack ∨ (t.receive m).2.stack = t.stack.tail ∨
      ∃ id, (t.receive m).2.stack =
          { id, level := m.flags.level, outgoing := false } :: t.stack ∧
        ∀ awaited ∈ t.awaited?, awaited.level ≤ m.flags.level := by
  have received := t.received m
  generalize t.receive m = result at received ⊢
  cases received with
  | answer reply sync stack =>
    rw [stack]
    exact Or.inr (Or.inl rfl)
  | stray | waits | notice => exact Or.inl rfl
  | call reply sync now =>
    refine Or.inr (Or.inr ⟨_, rfl, fun awaited mem => ?_⟩)
    rw [defers, Option.mem_def.1 mem] at now
    exact (le_of_mustWait_eq_false (by simpa using now)).1

/-- Fetching what had to wait changes no transaction. -/
theorem stack_takeWaiting (t : Tracker) : t.takeWaiting.2.stack = t.stack := by
  unfold takeWaiting
  split <;> rfl

/-! ## How the transactions are nested -/

/-- Every transaction nests at least as deeply as each call of this end around it. -/
def Layered (stack : List Transaction) : Prop :=
  stack.Pairwise fun inner outer => outer.outgoing = true → outer.level ≤ inner.level

variable {stack : List Transaction} {id : Int32} {level : Level}

/-- When the innermost transaction closes, those around it stay layered. -/
theorem Layered.tail (layered : Layered stack) : Layered stack.tail :=
  List.Pairwise.tail layered

/-- A call that is compared with the innermost transaction is compared with all pending calls. -/
theorem Layered.outgoing (layered : Layered stack)
    (deep : ∀ top ∈ stack.head?, top.level ≤ level) :
    Layered ({ id, level, outgoing := true } :: stack) := by
  refine List.pairwise_cons.2 ⟨fun call mem pending => ?_, layered⟩
  cases stack with
  | nil => contradiction
  | cons top rest =>
    have above := deep top rfl
    rcases List.mem_cons.1 mem with rfl | inside
    · exact above
    · exact Level.le_trans ((List.pairwise_cons.1 layered).1 call inside pending) above

/-- The innermost pending call nests at least as deeply as all the others, whatever the transactions
of the other end are that lie between them. -/
theorem Layered.le_awaited (layered : Layered stack) {awaited call : Transaction}
    (innermost : stack.find? Transaction.outgoing = some awaited) (mem : call ∈ stack)
    (pending : call.outgoing = true) : call.level ≤ awaited.level := by
  obtain ⟨-, inner, outer, rfl, handled⟩ := List.find?_eq_some_iff_append.1 innermost
  rcases List.mem_append.1 mem with inside | around
  · have incoming := handled call inside
    rw [pending] at incoming
    contradiction
  · rcases List.mem_cons.1 around with rfl | outside
    · exact Nat.le_refl _
    · have nested := (List.pairwise_append.1 layered).2.1
      exact (List.pairwise_cons.1 nested).1 call outside pending

/-- A call that is compared with the innermost pending call is compared with all of them. -/
theorem Layered.incoming (layered : Layered stack)
    (deep : ∀ awaited ∈ stack.find? Transaction.outgoing, awaited.level ≤ level) :
    Layered ({ id, level, outgoing := false } :: stack) := by
  refine List.pairwise_cons.2 ⟨fun call mem pending => ?_, layered⟩
  cases innermost : stack.find? Transaction.outgoing with
  | none => exact absurd pending (List.find?_eq_none.1 innermost call mem)
  | some awaited =>
    exact Level.le_trans (layered.le_awaited innermost mem pending) (deep awaited innermost)

/-- Whatever is sent and whatever arrives, the transactions stay layered. -/
theorem Reached.layered {role : Role} {t : Tracker} (reached : Reached role t) :
    Layered t.stack := by
  -- only a transaction that is opened inside the others has to be compared with them
  induction reached with
  | start => exact List.Pairwise.nil
  | @send t m _ ih =>
    rcases t.stack_send m with same | closed | ⟨id, opened, deep⟩
    · rw [same]
      exact ih
    · rw [closed]
      exact ih.tail
    · rw [opened]
      exact ih.outgoing deep
  | @receive t m _ ih =>
    rcases t.stack_receive m with same | closed | ⟨id, opened, deep⟩
    · rw [same]
      exact ih
    · rw [closed]
      exact ih.tail
    · rw [opened]
      exact ih.incoming deep
  | @takeWaiting t _ ih =>
    rw [stack_takeWaiting]
    exact ih

/-! ## What is handled while an answer is awaited -/

/-- The pending calls are the open transactions of this end. -/
theorem mem_pending {t : Tracker} {call : Transaction} :
    call ∈ t.pending ↔ call ∈ t.stack ∧ call.outgoing = true := by
  rw [pending, List.mem_reverse, List.mem_filter]

/-- A message that is handed over is the one that arrived, and it did not have to wait. -/
theorem defers_eq_false_of_dispatch {t : Tracker} {m n : Message}
    (handed : (t.receive m).1 = .ok (.dispatch n)) : n = m ∧ t.defers m = false := by
  have received := t.received m
  generalize t.receive m = result at received handed
  cases received with
  | answer =>
    injection handed with same
    split at same
    · contradiction
    · contradiction
  | stray | waits => cases handed
  | call reply sync now | notice sync now =>
    injection handed with same
    injection same with same
    exact ⟨same.symm, now⟩

/-- Whatever the other end does, the pending calls of an end nest the deeper the later they were
made, and what is handled while they are pending nests at least as deeply as all of them. It is a
call unless it is of the deepest level. -/
theorem handled_inside_pending {role : Role} {t : Tracker} (reached : Reached role t) :
    (t.pending.Pairwise fun outer inner => outer.level ≤ inner.level) ∧
      ∀ m n, t.isAwaiting = true → (t.receive m).1 = .ok (.dispatch n) →
        n = m ∧ (∀ call ∈ t.pending, call.level ≤ n.flags.level) ∧
          (n.flags.level ≠ .insideCpow → n.flags.sync = true) := by
  have layered := reached.layered
  constructor
  · rw [pending, List.pairwise_reverse]
    refine List.Pairwise.imp_of_mem ?_ (List.Pairwise.filter _ layered)
    intro inner outer _ mem nested
    exact nested (List.mem_filter.1 mem).2
  · intro m n awaiting handed
    obtain ⟨rfl, now⟩ := defers_eq_false_of_dispatch handed
    obtain ⟨awaited, innermost⟩ := Option.isSome_iff_exists.1 awaiting
    rw [defers, innermost] at now
    obtain ⟨deep, call⟩ := le_of_mustWait_eq_false (by simpa using now)
    refine ⟨rfl, fun call mem => ?_, call⟩
    obtain ⟨mem, outgoing⟩ := mem_pending.1 mem
    exact Level.le_trans (layered.le_awaited innermost mem outgoing) deep

/-- The child handles a call of the parent between two calls of its own, and then one more. -/
theorem handled_inside_pending_interleaved :
    ∃ t m, Reached .child t ∧ t.stack.map Transaction.outgoing = [true, false, true] ∧
      t.isAwaiting = true ∧ (t.receive m).1 = .ok (.dispatch m) ∧
      (∀ call ∈ t.pending, call.level ≤ m.flags.level) ∧ m.flags.sync = true := by
  let call (level : Level) : Message := .addressed 1 2 { level, sync := true }
  have reached : Reached .child _ :=
    ((Reached.start.send (call .notNested)).receive (call .notNested)).send (call .insideSync)
  have inside := (handled_inside_pending reached).2 (call .insideSync) (call .insideSync) rfl rfl
  exact ⟨_, call .insideSync, reached, rfl, rfl, rfl, inside.2.1, inside.2.2 (by decide)⟩

end Tracker

end Interprocess
