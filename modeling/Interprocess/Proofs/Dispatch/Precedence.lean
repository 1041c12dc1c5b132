import Interprocess.Dispatch.Queue
import Interprocess.Flags.Bits
import Mathlib.Data.List.Basic

/-!
# Which pending message goes first

The lanes of a queue stand for one row of messages in the order of arrival. A message is pushed to
the end of the row, and `takeFirst?` pops from it: the earliest of those that no other is more
urgent than. `Holds` ties the lanes to the row, each lane to the messages of its priority, and both
operations keep it. So a queue and the row bring the same messages, whatever is pushed and popped in
between (`pops_as_row`), and a queue that is emptied sorts its messages by priority and leaves
equals in the order in which they came.
-/

set_option autoImplicit false

namespace Interprocess

/-- Whether a message is at least as urgent as another. -/
def Message.isUrgentAs (m n : Message) : Bool := decide (n.flags.priority ≤ m.flags.priority)

/-- The messages of one priority, in their order. -/
def ofPriority (p : Priority) (ms : List Message) : List Message :=
  ms.filter fun m => m.flags.priority = p

/-- Takes the first of the most urgent messages out of a row. -/
def takeFirst? (waiting : List Message) : Option (Message × List Message) :=
  (waiting.find? fun m => waiting.all m.isUrgentAs).map fun m => (m, waiting.erase m)

/-- What is done with waiting messages. -/
inductive Turn
  | push (m : Message)
  | pop

namespace Turn

/-- Takes some turns with waiting messages, however they are kept. Each pop brings a message or, if
none waits, nothing. -/
def run {σ : Type} (push : σ → Message → σ) (pop : σ → Option (Message × σ)) :
    List Turn → σ → List (Option Message) × σ
  | [], s => ([], s)
  | .push m :: turns, s => run push pop turns (push s m)
  | .pop :: turns, s =>
    match pop s with
    | some (m, rest) =>
      let (popped, left) := run push pop turns rest
      (some m :: popped, left)
    | none =>
      let (popped, left) := run push pop turns s
      (none :: popped, left)

/-- Takes some turns with a queue. -/
def runQueue : List Turn → PendingQueue → List (Option Message) × PendingQueue :=
  run PendingQueue.push PendingQueue.pop

/-- Takes some turns with a row of messages in the order of arrival. -/
def runRow : List Turn → List Message → List (Option Message) × List Message :=
  run (fun waiting m => waiting ++ [m]) takeFirst?

/-- The messages that some turns push. -/
def pushed (turns : List Turn) : List Message :=
  turns.filterMap fun
    | push m => some m
    | pop => none

end Turn

/-! ## The row -/

/-- Being at least as urgent is passed on from message to message. -/
theorem Message.isUrgentAs_trans (a b c : Message) (first : a.isUrgentAs b) (second : b.isUrgentAs c) :
    a.isUrgentAs c := by
  have first : b.flags.priority.number ≤ a.flags.priority.number := of_decide_eq_true first
  have second : c.flags.priority.number ≤ b.flags.priority.number := of_decide_eq_true second
  exact decide_eq_true (Nat.le_trans second first)

/-- Of two messages one is at least as urgent as the other. -/
theorem Message.isUrgentAs_total (a b : Message) : (a.isUrgentAs b || b.isUrgentAs a) = true := by
  rw [Bool.or_eq_true]
  exact (Nat.le_total b.flags.priority.number a.flags.priority.number).imp decide_eq_true
    decide_eq_true

/-- A message is not as urgent as another exactly if its priority is lower. -/
theorem Message.isUrgentAs_eq_false {m n : Message} :
    m.isUrgentAs n = false ↔ m.flags.priority < n.flags.priority := by
  rw [Message.isUrgentAs, decide_eq_false_iff_not]
  exact Nat.not_le

/-- The message that is taken is more urgent than all before it, and no message behind it is more
urgent. -/
theorem takeFirst?_eq_some_iff {waiting left : List Message} {m : Message} :
    takeFirst? waiting = some (m, left) ↔
      ∃ before after, waiting = before ++ m :: after ∧ left = before ++ after ∧
        (∀ n ∈ before, n.flags.priority < m.flags.priority) ∧
        ∀ n ∈ after, n.flags.priority ≤ m.flags.priority := by
  have erased {before after : List Message}
      (less : ∀ n ∈ before, n.flags.priority < m.flags.priority) :
      (before ++ m :: after).erase m = before ++ after := by
    have fresh : m ∉ before := fun mem => absurd (less m mem) (Nat.lt_irrefl _)
    rw [List.erase_append_right _ fresh, List.erase_cons_head]
  constructor
  · intro taken
    obtain ⟨first, found, eq⟩ := Option.map_eq_some_iff.1 taken
    obtain ⟨rfl, rfl⟩ := Prod.mk.inj eq
    obtain ⟨all, before, after, rfl, others⟩ := List.find?_eq_some_iff_append.1 found
    rw [List.all_eq_true] at all
    have less : ∀ n ∈ before, n.flags.priority < first.flags.priority := by
      intro n mem
      -- a message before it is beaten by some message, and that one is no more urgent than it
      have surpassed := others n mem
      rw [Bool.not_eq_true', List.all_eq_false] at surpassed
      obtain ⟨other, there, beaten⟩ := surpassed
      rw [Bool.not_eq_true] at beaten
      have below : other.flags.priority ≤ first.flags.priority :=
        of_decide_eq_true (all other there)
      exact Nat.lt_of_lt_of_le (Message.isUrgentAs_eq_false.1 beaten) below
    refine ⟨before, after, rfl, erased less, less, ?_⟩
    intro n mem
    exact of_decide_eq_true (all n (by simp [mem]))
  · rintro ⟨before, after, rfl, rfl, less, most⟩
    refine Option.map_eq_some_iff.2 ⟨m, ?_, by rw [erased less]⟩
    refine List.find?_eq_some_iff_append.2 ⟨?_, before, after, rfl, ?_⟩
    · rw [List.all_eq_true]
      intro n mem
      apply decide_eq_true
      rcases List.mem_append.1 mem with early | late
      · exact Nat.le_of_lt (less n early)
      rcases List.mem_cons.1 late with rfl | later
      · exact Nat.le_refl _
      · exact most n later
    · intro n mem
      rw [Bool.not_eq_true', List.all_eq_false]
      refine ⟨m, by simp, ?_⟩
      rw [Bool.not_eq_true]
      exact Message.isUrgentAs_eq_false.2 (less n mem)

/-- Taking a message out of a row leaves all the others. -/
theorem perm_of_takeFirst? {waiting left : List Message} {m : Message}
    (taken : takeFirst? waiting = some (m, left)) : waiting.Perm (m :: left) := by
  obtain ⟨before, after, rfl, rfl, -, -⟩ := takeFirst?_eq_some_iff.1 taken
  exact List.perm_middle

/-! ## Sorting by priority -/

/-- The messages of a priority are those of the row that have it. -/
theorem mem_ofPriority {p : Priority} {ms : List Message} {m : Message} :
    m ∈ ofPriority p ms ↔ m ∈ ms ∧ m.flags.priority = p := by
  rw [ofPriority, List.mem_filter, decide_eq_true_iff]

/-- The messages of a priority in two rows are those of the first one and then those of the second
one. -/
theorem ofPriority_append (p : Priority) (ms ns : List Message) :
    ofPriority p (ms ++ ns) = ofPriority p ms ++ ofPriority p ns := List.filter_append ms ns

/-- The first message of a row is the first one of its priority. -/
theorem ofPriority_cons_self (m : Message) (ms : List Message) :
    ofPriority m.flags.priority (m :: ms) = m :: ofPriority m.flags.priority ms :=
  List.filter_cons_of_pos (decide_eq_true rfl)

/-- The first message of a row is not among those of another priority. -/
theorem ofPriority_cons_of_ne {p : Priority} {m : Message} (other : m.flags.priority ≠ p)
    (ms : List Message) : ofPriority p (m :: ms) = ofPriority p ms :=
  List.filter_cons_of_neg (by simpa using other)

/-- A row that is sorted by priority is known if the messages of each priority are, in their
order. -/
theorem eq_of_ofPriority {ms ns : List Message} (first : ms.Pairwise fun m n => m.isUrgentAs n)
    (second : ns.Pairwise fun m n => m.isUrgentAs n)
    (same : ∀ p, ofPriority p ms = ofPriority p ns) : ms = ns := by
  have among {as bs : List Message} (same : ∀ p, ofPriority p as = ofPriority p bs) (m : Message)
      (mem : m ∈ as) : m ∈ bs := by
    have own : m ∈ ofPriority m.flags.priority as := mem_ofPriority.2 ⟨mem, rfl⟩
    rw [same] at own
    exact (mem_ofPriority.1 own).1
  induction ms generalizing ns with
  | nil =>
    symm
    rw [List.eq_nil_iff_forall_not_mem]
    intro n mem
    exact absurd (among (fun p => (same p).symm) n mem) List.not_mem_nil
  | cons m ms ih =>
    cases ns with
    | nil => exact absurd (among same m List.mem_cons_self) List.not_mem_nil
    | cons n ns =>
      rw [List.pairwise_cons] at first second
      -- each head is among the other messages, and so at least as urgent as the other head
      have above : m.isUrgentAs n := by
        rcases List.mem_cons.1 (among (fun p => (same p).symm) n List.mem_cons_self) with rfl | later
        · exact decide_eq_true (Nat.le_refl _)
        · exact first.1 n later
      have below : n.isUrgentAs m := by
        rcases List.mem_cons.1 (among same m List.mem_cons_self) with rfl | later
        · exact decide_eq_true (Nat.le_refl _)
        · exact second.1 m later
      have level : m.flags.priority = n.flags.priority :=
        Priority.number_injective (Nat.le_antisymm (of_decide_eq_true below) (of_decide_eq_true above))
      have heads := same m.flags.priority
      rw [ofPriority_cons_self, level, ofPriority_cons_self] at heads
      obtain ⟨rfl, tails⟩ := List.cons.inj heads
      rw [ih first.2 second.2]
      intro p
      by_cases own : m.flags.priority = p
      · rw [← own]
        exact tails
      · have rest := same p
        rwa [ofPriority_cons_of_ne own, ofPriority_cons_of_ne own] at rest

/-- Sorting keeps the messages of one priority in their order. -/
theorem ofPriority_mergeSort (p : Priority) (ms : List Message) :
    ofPriority p (ms.mergeSort Message.isUrgentAs) = ofPriority p ms := by
  have equals : (ofPriority p ms).Pairwise fun m n => m.isUrgentAs n := by
    apply List.pairwise_of_forall_mem_list
    intro m first n second
    have level := (mem_ofPriority.1 second).2.trans (mem_ofPriority.1 first).2.symm
    exact decide_eq_true (Nat.le_of_eq (congrArg Priority.number level))
  have within : (ofPriority p ms).Sublist (ms.mergeSort Message.isUrgentAs) :=
    List.sublist_mergeSort Message.isUrgentAs_trans Message.isUrgentAs_total equals
      List.filter_sublist
  have kept : (ofPriority p ms).Sublist (ofPriority p (ms.mergeSort Message.isUrgentAs)) := by
    have filtered := within.filter fun m => m.flags.priority = p
    rwa [ofPriority, List.filter_filter, funext fun m => Bool.and_self _] at filtered
  have count := ((List.mergeSort_perm ms Message.isUrgentAs).filter
    fun m => m.flags.priority = p).length_eq
  exact (kept.eq_of_length count.symm).symm

/-- A stable sort by priority begins with the message that is taken. -/
theorem mergeSort_eq_cons {waiting left : List Message} {m : Message}
    (taken : takeFirst? waiting = some (m, left)) :
    waiting.mergeSort Message.isUrgentAs = m :: left.mergeSort Message.isUrgentAs := by
  obtain ⟨before, after, rfl, rfl, less, most⟩ := takeFirst?_eq_some_iff.1 taken
  have sorted (ms : List Message) :
      (ms.mergeSort Message.isUrgentAs).Pairwise fun m n => m.isUrgentAs n :=
    List.pairwise_mergeSort Message.isUrgentAs_trans Message.isUrgentAs_total ms
  apply eq_of_ofPriority (sorted _)
  · rw [List.pairwise_cons]
    refine ⟨?_, sorted _⟩
    intro n mem
    apply decide_eq_true
    rcases List.mem_append.1 ((List.mergeSort_perm _ _).mem_iff.1 mem) with early | late
    · exact Nat.le_of_lt (less n early)
    · exact most n late
  · intro p
    by_cases own : m.flags.priority = p
    · subst own
      -- all before it are less urgent, so it is the first of its priority
      have none : ofPriority m.flags.priority before = [] := by
        rw [List.eq_nil_iff_forall_not_mem]
        intro n mem
        obtain ⟨there, level⟩ := mem_ofPriority.1 mem
        exact Nat.ne_of_lt (less n there) (congrArg Priority.number level)
      rw [ofPriority_cons_self, ofPriority_mergeSort, ofPriority_mergeSort, ofPriority_append,
        ofPriority_append, none, ofPriority_cons_self]
      rfl
    · rw [ofPriority_cons_of_ne own, ofPriority_mergeSort, ofPriority_mergeSort, ofPriority_append,
        ofPriority_append, ofPriority_cons_of_ne own]

namespace PendingQueue

/-- A queue holds a row of waiting messages, each in the lane of its priority. -/
def Holds (q : PendingQueue) (waiting : List Message) : Prop :=
  ∀ p, q.lane p = ofPriority p waiting

/-- A new queue holds no messages. -/
theorem holds_empty : empty.Holds [] := lane_empty

/-- A message that is pushed waits behind all others. -/
theorem Holds.push {q : PendingQueue} {waiting : List Message} (holds : q.Holds waiting)
    (m : Message) : (q.push m).Holds (waiting ++ [m]) := by
  intro p
  unfold PendingQueue.push
  rw [lane_setLane, ofPriority_append, holds]
  by_cases own : p = m.flags.priority
  · rw [if_pos own, own, ofPriority_cons_self]
    rfl
  · rw [if_neg own, holds, ofPriority_cons_of_ne (Ne.symm own)]
    exact (List.append_nil _).symm

/-- The search stops at the first lane, in the given order, in which a message waits. -/
theorem popFrom_eq_some {q rest : PendingQueue} {ps : List Priority} {m : Message}
    (popped : q.popFrom ps = some (m, rest)) :
    ∃ above p below line, ps = above ++ p :: below ∧ (∀ r ∈ above, q.lane r = []) ∧
      q.lane p = m :: line ∧ rest = q.setLane p line := by
  induction ps with
  | nil => contradiction
  | cons p ps ih =>
    unfold popFrom at popped
    split at popped
    · next n line here =>
      obtain ⟨rfl, rfl⟩ := Prod.mk.inj (Option.some.inj popped)
      exact ⟨[], p, ps, line, rfl, by simp, here, rfl⟩
    · next nothing =>
      obtain ⟨above, r, below, line, rfl, clear, here, left⟩ := ih popped
      exact ⟨p :: above, r, below, line, rfl, List.forall_mem_cons.2 ⟨nothing, clear⟩, here, left⟩

/-- A search in vain has found every lane empty. -/
theorem popFrom_eq_none {q : PendingQueue} {ps : List Priority} (popped : q.popFrom ps = none) :
    ∀ p ∈ ps, q.lane p = [] := by
  induction ps with
  | nil => simp
  | cons p ps ih =>
    unfold popFrom at popped
    split at popped
    · contradiction
    · next nothing => exact List.forall_mem_cons.2 ⟨nothing, ih popped⟩

/-- Lanes that are searched in vain hold no message. -/
theorem Holds.eq_nil {q : PendingQueue} {waiting : List Message} (holds : q.Holds waiting)
    (popped : q.pop = none) : waiting = [] := by
  rw [List.eq_nil_iff_forall_not_mem]
  intro m mem
  have clear : q.lane m.flags.priority = [] :=
    popFrom_eq_none popped _ (List.mem_reverse.2 (Priority.mem_all _))
  rw [holds] at clear
  exact absurd (clear ▸ mem_ofPriority.2 ⟨mem, rfl⟩) List.not_mem_nil

/-- The message that is popped is the one that the row gives up, and the others stay. -/
theorem Holds.pop {q rest : PendingQueue} {waiting : List Message} {m : Message}
    (holds : q.Holds waiting) (popped : q.pop = some (m, rest)) :
    ∃ left, takeFirst? waiting = some (m, left) ∧ rest.Holds left := by
  obtain ⟨above, p, below, line, order, clear, here, rfl⟩ := popFrom_eq_some popped
  rw [holds] at here
  obtain ⟨before, after, rfl, others, own, behind⟩ := List.filter_eq_cons_iff.1 here
  have own : m.flags.priority = p := of_decide_eq_true own
  -- lanes of higher priority are searched earlier, and they are empty
  have most (n : Message) (mem : n ∈ before ++ m :: after) : n.flags.priority ≤ p := by
    have sorted : List.Pairwise (fun r s => s ≤ r) (above ++ p :: below) := by
      rw [← order]
      decide
    have searched : n.flags.priority ∈ above ++ p :: below := by
      rw [← order]
      exact List.mem_reverse.2 (Priority.mem_all _)
    rcases List.mem_append.1 searched with higher | lower
    · have empty := clear _ higher
      rw [holds] at empty
      exact absurd (empty ▸ mem_ofPriority.2 ⟨mem, rfl⟩) List.not_mem_nil
    rcases List.mem_cons.1 lower with same | lower
    · rw [same]
      exact Nat.le_refl _
    · obtain ⟨-, tail, -⟩ := List.pairwise_append.1 sorted
      exact (List.pairwise_cons.1 tail).1 _ lower
  refine ⟨before ++ after, takeFirst?_eq_some_iff.2 ⟨before, after, rfl, rfl, ?_, ?_⟩, ?_⟩
  · intro n mem
    have below := most n (List.mem_append_left _ mem)
    have other : n.flags.priority ≠ p := fun same => others n mem (decide_eq_true same)
    rw [own]
    exact Nat.lt_of_le_of_ne below fun same => other (Priority.number_injective same)
  · intro n mem
    rw [own]
    exact most n (by simp [mem])
  · intro r
    rw [lane_setLane, ofPriority_append]
    by_cases same : r = p
    · subst same
      have none : ofPriority r before = [] := List.filter_eq_nil_iff.2 others
      rw [if_pos rfl, none, List.nil_append]
      exact behind.symm
    · rw [if_neg same, holds, ofPriority_append, ofPriority_cons_of_ne (own ▸ Ne.symm same)]

/-- The lanes hold as many messages as wait. -/
theorem Holds.size {q : PendingQueue} {waiting : List Message} (holds : q.Holds waiting) :
    q.size = waiting.length := by
  have counted (ms : List Message) :
      Priority.all.foldr (fun p n => (ofPriority p ms).length + n) 0 = ms.length := by
    induction ms with
    | nil => rfl
    | cons m ms ih =>
      simp only [Priority.all, List.foldr_cons, List.foldr_nil, ofPriority, List.filter_cons,
        List.length_cons] at ih ⊢
      cases m.flags.priority <;> simp <;> omega
  unfold PendingQueue.size
  rw [← counted waiting]
  simp only [holds _]

/-- A queue is empty exactly if no message waits in it. -/
theorem isEmpty_iff (q : PendingQueue) : q.isEmpty = true ↔ q.size = 0 := by
  simp [isEmpty, size, Priority.all]

/-- A queue gives no message exactly if none waits in it. -/
theorem Holds.pop_eq_none_iff {q : PendingQueue} {waiting : List Message} (holds : q.Holds waiting) :
    q.pop = none ↔ q.size = 0 := by
  rw [holds.size, List.length_eq_zero_iff]
  constructor
  · exact holds.eq_nil
  · rintro rfl
    cases popped : q.pop with
    | none => rfl
    | some found =>
      obtain ⟨left, taken, -⟩ := holds.pop popped
      contradiction

/-! ## The number of a lane -/

/-- Adds a message to the lane whose number stands in its flags word. The word may hold no priority,
and the number no lane. -/
def pushByWord? (q : PendingQueue) (m : Message) : Option PendingQueue :=
  match Priority.ofNumber? (m.flags.bits.toNat / 4 % 8) with
  | none => none
  | some p =>
    match q.lanes[p.number]? with
    | none => none
    | some line => some { lanes := q.lanes.setIfInBounds p.number (line ++ [m]) }

/-- The flags word of a message holds a priority, and there is a lane for it. -/
theorem pushByWord?_eq (q : PendingQueue) (m : Message) : q.pushByWord? m = some (q.push m) := by
  have word : Priority.ofNumber? (m.flags.bits.toNat / 4 % 8) = some m.flags.priority := by
    rw [Flags.toNat_bits]
    exact Priority.ofNumber?_eq_some_iff.2 (Flags.fields_bits m.flags).2.1
  have number : m.flags.priority.number = m.flags.priority.lane := by
    cases m.flags.priority <;> rfl
  have place (line : List Message) : q.lanes.setIfInBounds m.flags.priority.lane line =
      q.lanes.set m.flags.priority.lane line := by
    apply Vector.ext
    intro i inside
    rw [Vector.getElem_setIfInBounds, Vector.getElem_set]
  unfold pushByWord?
  rw [word]
  simp only [number, place]
  rw [Vector.getElem?_eq_getElem m.flags.priority.lane.isLt]
  rfl

/-! ## Whole runs -/

/-- Whatever is pushed and popped, the queue brings what the row brings, and goes on holding it. -/
theorem Holds.run {q : PendingQueue} {waiting : List Message} (holds : q.Holds waiting)
    (turns : List Turn) :
    (Turn.runQueue turns q).1 = (Turn.runRow turns waiting).1 ∧
      (Turn.runQueue turns q).2.Holds (Turn.runRow turns waiting).2 := by
  induction turns generalizing q waiting with
  | nil => exact ⟨rfl, holds⟩
  | cons turn turns ih =>
    cases turn with
    | push m => exact ih (holds.push m)
    | pop =>
      cases popped : q.pop with
      | none =>
        obtain rfl := holds.eq_nil popped
        obtain ⟨same, held⟩ := ih holds
        simp only [Turn.runQueue, Turn.runRow, Turn.run, popped] at same held ⊢
        exact ⟨congrArg (none :: ·) same, held⟩
      | some found =>
        obtain ⟨m, rest⟩ := found
        obtain ⟨left, taken, held⟩ := holds.pop popped
        obtain ⟨same, held⟩ := ih held
        simp only [Turn.runQueue, Turn.runRow, Turn.run, popped, taken] at same held ⊢
        exact ⟨congrArg (some m :: ·) same, held⟩

/-- As many pops as messages wait bring all of them, sorted. -/
theorem Holds.run_pops {q : PendingQueue} {waiting : List Message} (holds : q.Holds waiting) :
    (Turn.runQueue (List.replicate waiting.length .pop) q).1 =
      (waiting.mergeSort Message.isUrgentAs).map some := by
  induction count : waiting.length generalizing q waiting with
  | zero =>
    obtain rfl := List.length_eq_zero_iff.1 count
    rw [List.mergeSort_nil]
    rfl
  | succ n ih =>
    cases popped : q.pop with
    | none =>
      rw [holds.eq_nil popped] at count
      contradiction
    | some found =>
      obtain ⟨m, rest⟩ := found
      obtain ⟨left, taken, held⟩ := holds.pop popped
      have fewer : left.length = n := by
        have total := (perm_of_takeFirst? taken).length_eq
        rw [count, List.length_cons] at total
        omega
      have others := ih held fewer
      rw [mergeSort_eq_cons taken, List.map_cons, ← others]
      simp only [Turn.runQueue, List.replicate_succ, Turn.run, popped]

/-- Messages that are pushed one after the other wait behind all others, and bring nothing. -/
theorem Holds.run_pushes {q : PendingQueue} {waiting : List Message} (holds : q.Holds waiting)
    (ms : List Message) (turns : List Turn) :
    ∃ r, r.Holds (waiting ++ ms) ∧
      Turn.runQueue (ms.map .push ++ turns) q = Turn.runQueue turns r := by
  induction ms generalizing q waiting with
  | nil => exact ⟨q, by rwa [List.append_nil], rfl⟩
  | cons m ms ih =>
    obtain ⟨r, held, same⟩ := ih (holds.push m)
    rw [List.append_assoc] at held
    exact ⟨r, held, same⟩

end PendingQueue

namespace Turn

/-- Nothing is lost, doubled or made up on the way through a row. -/
theorem perm_runRow (turns : List Turn) (waiting : List Message) :
    (waiting ++ pushed turns).Perm
      ((runRow turns waiting).1.filterMap id ++ (runRow turns waiting).2) := by
  induction turns generalizing waiting with
  | nil => exact List.Perm.of_eq (List.append_nil _)
  | cons turn turns ih =>
    cases turn with
    | push m =>
      have passed := ih (waiting ++ [m])
      rw [List.append_assoc] at passed
      exact passed
    | pop =>
      cases taken : takeFirst? waiting with
      | none =>
        have passed := ih waiting
        simp only [runRow, run, taken] at passed ⊢
        exact passed
      | some found =>
        obtain ⟨m, left⟩ := found
        have passed := ih left
        simp only [runRow, run, taken] at passed ⊢
        exact ((perm_of_takeFirst? taken).append_right _).trans (passed.cons m)

end Turn

namespace PendingQueue

/-- Whatever is pushed and popped on a new queue, the pops bring what they would bring from a row in
the order of arrival, and what was pushed was popped or still waits. The queue knows how many wait
and whether any does, and each message finds the lane that its flags word names. So a queue that is
filled and then emptied sorts its messages by priority and keeps equally urgent ones in order. -/
theorem pops_as_row (turns : List Turn) :
    let popped := (Turn.runQueue turns .empty).1
    let q := (Turn.runQueue turns .empty).2
    let waiting := (Turn.runRow turns []).2
    popped = (Turn.runRow turns []).1 ∧
      (Turn.pushed turns).Perm (popped.filterMap id ++ waiting) ∧
      q.size = waiting.length ∧
      (Turn.pushed turns).length = (popped.filterMap id).length + q.size ∧
      (q.isEmpty = true ↔ q.size = 0) ∧
      (q.pop = none ↔ q.size = 0) ∧
      (∀ m, q.pushByWord? m = some (q.push m)) ∧
      ∀ ms : List Message,
        (Turn.runQueue (ms.map .push ++ List.replicate ms.length .pop) .empty).1 =
          (ms.mergeSort Message.isUrgentAs).map some := by
  intro popped q waiting
  obtain ⟨same, held⟩ := holds_empty.run turns
  have passed : (Turn.pushed turns).Perm (popped.filterMap id ++ waiting) := by
    have passed := Turn.perm_runRow turns []
    rwa [← same] at passed
  refine ⟨same, passed, held.size, ?_, q.isEmpty_iff, held.pop_eq_none_iff, q.pushByWord?_eq, ?_⟩
  · rw [passed.length_eq, List.length_append, held.size]
  · intro ms
    obtain ⟨r, held, run⟩ := holds_empty.run_pushes ms (List.replicate ms.length .pop)
    rw [run]
    exact held.run_pops

end PendingQueue

end Interprocess
