import Interprocess.Proofs.Call.Rank

/-!
# What two ends know of their calls

Of each end, `Seat` keeps the calls that are open there, the calls and answers that are under way to
it, and the calls that it holds back. Two seats can fit together in two ways only. Either no call is
being handled: then each end has made one call at most (`Apart`). Or there is a tower of calls, each
but the first made while the one below it was handled: then both ends have the whole tower open,
below it the first callee may have a call of its own that it made before, and above it the end that
handles the innermost call may have made one more (`Within`). `Agrees` says that two seats fit
together.
-/

set_option autoImplicit false

namespace Interprocess

/-- What is under way to an end and matters for its synchronous calls. -/
inductive Item
  | call (c : Call)
  /-- The answer to a call. -/
  | answer (c : Call)
deriving DecidableEq

/-- The calls of one end. -/
structure Seat where
  /-- The open calls, innermost first. -/
  calls : List Call := []
  /-- What is under way to this end, oldest first. -/
  line : List Item := []
  /-- The calls that this end holds back, oldest first. -/
  held : List Call := []

/-- How far a call has come that its caller waits for and its callee does not handle. -/
inductive Phase
  | travelling
  | held
  | answered
deriving DecidableEq

/-- A call that is not being handled, if there is one. -/
abbrev Slot := Option (Call × Phase)

namespace Slot

/-- What the caller has open. -/
@[simp] def calls : Slot → List Call
  | some (c, _) => [c]
  | none => []

/-- What is under way to the callee. -/
@[simp] def travelling : Slot → List Item
  | some (c, .travelling) => [.call c]
  | some (_, .held) | some (_, .answered) | none => []

/-- What the callee holds back. -/
@[simp] def held : Slot → List Call
  | some (c, .held) => [c]
  | some (_, .travelling) | some (_, .answered) | none => []

/-- What is under way to the caller. -/
@[simp] def answered : Slot → List Item
  | some (c, .answered) => [.answer c]
  | some (_, .travelling) | some (_, .held) | none => []

/-- What the callee holds back if it was called by a given end. -/
@[simp] def heldFrom (r : Role) (slot : Slot) : List Call :=
  slot.held.filter fun c => c.caller = r

end Slot

/-! ## No call is being handled -/

/-- A call and an answer under way to one end. A call overtakes no answer, and where it goes ahead
of one it comes after the call that was answered. -/
def Mingled (call answer : Slot) (line : List Item) : Prop :=
  line = answer.answered ++ call.travelling ∨
    ∃ c d, call = some (c, .travelling) ∧ answer = some (d, .answered) ∧
      line = [.call c, .answer d] ∧ c.rank < d.rank

/-- If a call arrives first, it is the one that its caller has made, and an answer behind it belongs
to a call that goes before it. -/
theorem Mingled.head_call {call answer : Slot} {line rest : List Item} {c : Call}
    (mingled : Mingled call answer line) (head : line = .call c :: rest) :
    call = some (c, .travelling) ∧ rest = answer.answered ∧
      ∀ d, answer = some (d, .answered) → c.rank < d.rank := by
  rcases mingled with line' | ⟨c', d', rfl, rfl, line', before⟩
  · rw [head] at line'
    rcases answer with _ | ⟨d, _ | _ | _⟩ <;> rcases call with _ | ⟨c', _ | _ | _⟩ <;> simp_all
  · rw [head] at line'
    obtain ⟨rfl, rfl⟩ : c = c' ∧ rest = [.answer d'] := by simpa using line'
    refine ⟨rfl, rfl, ?_⟩
    rintro _ ⟨⟩
    exact before

/-- If an answer arrives first, it answers the call of this end, and only a call can be behind
it. -/
theorem Mingled.head_answer {call answer : Slot} {line rest : List Item} {d : Call}
    (mingled : Mingled call answer line) (head : line = .answer d :: rest) :
    answer = some (d, .answered) ∧ rest = call.travelling := by
  rcases mingled with line' | ⟨c', d', rfl, rfl, line', -⟩
  · rw [head] at line'
    rcases answer with _ | ⟨d, _ | _ | _⟩ <;> rcases call with _ | ⟨c', _ | _ | _⟩ <;> simp_all
  · rw [head] at line'
    simp at line'

/-- A call that is under way is the one that its caller has made. -/
theorem Mingled.mem_call {call answer : Slot} {line : List Item} {c : Call}
    (mingled : Mingled call answer line) (mem : .call c ∈ line) :
    call = some (c, .travelling) := by
  rcases mingled with line' | ⟨c', d', rfl, rfl, line', -⟩
  · rw [line'] at mem
    rcases answer with _ | ⟨d, _ | _ | _⟩ <;> rcases call with _ | ⟨c', _ | _ | _⟩ <;> simp_all
  · rw [line'] at mem
    simp_all

/-- If nothing is under way, neither the call nor the answer is. -/
theorem Mingled.nil {call answer : Slot} (mingled : Mingled call answer []) :
    call.travelling = [] ∧ answer.answered = [] := by
  rcases mingled with line | ⟨c, d, -, -, line, -⟩
  · exact (List.append_eq_nil_iff.1 line.symm).symm
  · contradiction

/-- Where ends are patient, a call that is held back comes after a call that is under way the other
way, and no two calls are held back at the same time. -/
def Yields (x y : Slot) : Prop :=
  ∀ c d phase, x = some (c, .held) → y = some (d, phase) →
    phase ≠ .held ∧ (phase = .travelling → c.rank < d.rank)

/-- Two calls that are not answered yet have different places in the order of crossing calls. -/
def Distinct (x y : Slot) : Prop :=
  ∀ c d phase phase', x = some (c, phase) → y = some (d, phase') → phase ≠ .answered →
    phase' ≠ .answered → c.rank ≠ d.rank

/-- Having different places does not depend on which call is looked at first. -/
theorem Distinct.symm {x y : Slot} (distinct : Distinct x y) : Distinct y x :=
  fun c d phase phase' first second early late =>
    (distinct d c phase' phase second first late early).symm

/-- A call that its caller made outside of any other. It is not held back if it is of the deepest
level. -/
structure Free (r : Role) (slot : Slot) : Prop where
  caller : ∀ c phase, slot = some (c, phase) → c.caller = r
  proper : ∀ c phase, slot = some (c, phase) → c.Proper
  opening : ∀ c phase, slot = some (c, phase) → c.Opening
  shallow : ∀ c, slot = some (c, .held) → c.level ≠ .insideCpow

/-- An end that has made no call is free. -/
theorem Free.none (r : Role) : Free r none :=
  ⟨fun _ _ h => by contradiction, fun _ _ h => by contradiction, fun _ _ h => by contradiction,
    fun _ h => by contradiction⟩

/-- A call outside of any other is free to travel, and to be held back unless it is of the deepest
level. -/
theorem Free.some {r : Role} {c : Call} (phase : Phase) (caller : c.caller = r) (proper : c.Proper)
    (opening : c.Opening) (shallow : phase = .held → c.level ≠ .insideCpow) :
    Free r (some (c, phase)) := by
  refine ⟨?_, ?_, ?_, ?_⟩
  · rintro _ _ ⟨⟩
    exact caller
  · rintro _ _ ⟨⟩
    exact proper
  · rintro _ _ ⟨⟩
    exact opening
  · rintro _ ⟨⟩
    exact shallow rfl

/-- A call stays the same when it is held back. -/
theorem Free.hold {r : Role} {c : Call} {before : Phase} (free : Free r (Option.some (c, before)))
    (shallow : c.level ≠ .insideCpow) : Free r (Option.some (c, .held)) :=
  .some .held (free.caller c before rfl) (free.proper c before rfl) (free.opening c before rfl)
    fun _ => shallow

/-- Neither of two ends handles a call. The first one is in the given role and has made the first
call, if any. -/
structure Apart (careful : Prop) (r : Role) (x y : Slot) (a b : Seat) : Prop where
  callsHere : a.calls = x.calls
  callsThere : b.calls = y.calls
  lineHere : Mingled y x a.line
  lineThere : Mingled x y b.line
  heldHere : a.held = y.held
  heldThere : b.held = x.held
  freeHere : Free r x
  freeThere : Free r.other y
  distinct : Distinct x y
  yieldsHere : careful → Yields x y
  yieldsThere : careful → Yields y x

/-- That nothing is handled does not depend on which end is looked at first. -/
theorem Apart.symm {careful : Prop} {r : Role} {x y : Slot} {a b : Seat}
    (apart : Apart careful r x y a b) : Apart careful r.other y x b a where
  callsHere := apart.callsThere
  callsThere := apart.callsHere
  lineHere := apart.lineThere
  lineThere := apart.lineHere
  heldHere := apart.heldThere
  heldThere := apart.heldHere
  freeHere := apart.freeThere
  freeThere := by rw [Role.other_other]; exact apart.freeHere
  distinct := apart.distinct.symm
  yieldsHere := apart.yieldsThere
  yieldsThere := apart.yieldsHere

/-! ## A call is being handled -/

/-- A call that is made while another one is handled. -/
structure Inside (careful : Prop) (d f : Call) : Prop where
  caller : d.caller = f.caller.other
  id : d.id = f.id
  deep : f.level ≤ d.level
  proper : d.Proper
  nested : careful → d.level ≠ .notNested

/-- The calls that are being handled, with what is open below the innermost one at its caller and at
its callee. -/
inductive Tower (careful : Prop) (outer : List Call) : Call → List Call → List Call → Prop
  /-- The first callee may have made a call of its own before, which comes after the first one. -/
  | base {f : Call} : f.Proper → f.Opening →
      (∀ b ∈ outer, b.caller = f.caller.other ∧ b.Proper ∧ b.Opening ∧ b.rank < f.rank) →
      Tower careful outer f [] outer
  | nest {f g : Call} {mine theirs : List Call} : Tower careful outer g mine theirs →
      Inside careful f g → Tower careful outer f (g :: theirs) (g :: mine)

/-- The innermost call of a tower is synchronous and no reply. -/
theorem Tower.proper {careful : Prop} {outer mine theirs : List Call} {f : Call}
    (tower : Tower careful outer f mine theirs) : f.Proper := by
  cases tower with
  | base proper => exact proper
  | nest _ inside => exact inside.proper

/-- Both ends have the same calls open if the first callee made none before. -/
theorem Tower.mirror {careful : Prop} {mine theirs : List Call} {f : Call}
    (tower : Tower careful [] f mine theirs) : mine = theirs := by
  induction tower with
  | base => rfl
  | nest _ _ ih => rw [ih]

/-- The first of two ends waits for the answer to a call that the second one handles. The first slot
is the call that the first callee made before, the second one what the second end called last. -/
structure Within (careful : Prop) (outer tip : Slot) (f : Call) (mine theirs : List Call)
    (a b : Seat) : Prop where
  tower : Tower careful outer.calls f mine theirs
  callsHere : a.calls = f :: mine
  callsThere : b.calls = tip.calls ++ f :: theirs
  lineHere : a.line = outer.travelling ++ tip.travelling
  lineThere : b.line = tip.answered
  heldHere : a.held = outer.heldFrom f.caller.other ++ tip.held
  heldThere : b.held = outer.heldFrom f.caller
  inside : ∀ d phase, tip = some (d, phase) → Inside careful d f
  stuck : ∀ d, tip = some (d, .held) → d.level = .notNested
  early : ∀ c, outer = some (c, .travelling) →
    mine = [] ∧ ∀ d phase, tip = some (d, phase) → phase = .travelling
  unanswered : ∀ c, outer ≠ some (c, .answered)

/-- The calls of two ends fit together. The first one is in the given role. -/
inductive Agrees (careful : Prop) (r : Role) (a b : Seat) : Prop
  | apart {x y : Slot} : Apart careful r x y a b → Agrees careful r a b
  | caller (outer tip : Slot) {f : Call} {mine theirs : List Call} : f.caller = r →
      Within careful outer tip f mine theirs a b → Agrees careful r a b
  | callee (outer tip : Slot) {f : Call} {mine theirs : List Call} : f.caller = r.other →
      Within careful outer tip f mine theirs b a → Agrees careful r a b

/-- A call continues the transaction in which it is made, or opens one. -/
def Joins (c : Call) : List Call → Prop
  | [] => c.Opening
  | top :: _ => c.id = top.id ∧ top.level ≤ c.level

/-- How an end decides whether a call has to wait while its own innermost call is open. -/
structure Decides (waits : Prop) (c : Call) (calls : List Call) : Prop where
  apart : ∀ top ∈ calls.head?, c.Proper → c.caller = top.caller.other → c.id ≠ top.id →
    (waits ↔ c.rank < top.rank)
  inside : ∀ top ∈ calls.head?, c.Proper → c.id = top.id → top.level ≤ c.level → waits →
    c.level = .notNested

/-! ## What the ends can tell from their own calls -/

/-- Every call that is held back is open at its caller. -/
theorem Slot.mem_calls_of_mem_held {slot : Slot} {c : Call} (mem : c ∈ slot.held) :
    c ∈ slot.calls := by
  rcases slot with _ | ⟨d, _ | _ | _⟩ <;> simp_all

/-- If all calls are of one end, what is held back from this end is all that is held back. -/
theorem Slot.heldFrom_eq_held {slot : Slot} {r : Role} (caller : ∀ c ∈ slot.calls, c.caller = r) :
    slot.heldFrom r = slot.held :=
  List.filter_eq_self.2 fun c mem => decide_eq_true (caller c (mem_calls_of_mem_held mem))

/-- If no call is of an end, nothing is held back from it. -/
theorem Slot.heldFrom_eq_nil {slot : Slot} {r : Role} (caller : ∀ c ∈ slot.calls, c.caller ≠ r) :
    slot.heldFrom r = [] :=
  List.filter_eq_nil_iff.2 fun c mem => by simpa using caller c (mem_calls_of_mem_held mem)

/-- Only a call that travels is under way to its callee. -/
theorem Slot.travelling_eq_nil {slot : Slot} (ne : ∀ c, slot ≠ some (c, .travelling)) :
    slot.travelling = [] := by
  rcases slot with _ | ⟨c, _ | _ | _⟩
  · rfl
  · exact absurd rfl (ne c)
  · rfl
  · rfl

/-- A call that is neither under way nor held back nor answered is not there. -/
theorem Slot.eq_none {slot : Slot} (travelling : slot.travelling = []) (held : slot.held = [])
    (answered : slot.answered = []) : slot = none := by
  rcases slot with _ | ⟨c, _ | _ | _⟩
  · rfl
  · exact absurd travelling (List.cons_ne_nil _ _)
  · exact absurd held (List.cons_ne_nil _ _)
  · exact absurd answered (List.cons_ne_nil _ _)

/-- A call that is neither under way nor answered is held back. -/
theorem Slot.eq_held {slot : Slot} {c : Call} (there : slot.calls.head? = some c)
    (travelling : slot.travelling = []) (answered : slot.answered = []) :
    ∃ o, slot = some (o, .held) := by
  rcases slot with _ | ⟨o, _ | _ | _⟩
  · contradiction
  · exact absurd travelling (List.cons_ne_nil _ _)
  · exact ⟨o, rfl⟩
  · exact absurd answered (List.cons_ne_nil _ _)

/-- What is under way back to a caller is no call. -/
theorem Slot.call_not_mem_answered {slot : Slot} {c : Call} : .call c ∉ slot.answered := by
  rcases slot with _ | ⟨d, _ | _ | _⟩ <;> simp

/-- Only a call that was answered is under way back to its caller. -/
theorem Slot.answered_eq_nil {slot : Slot} (ne : ∀ c, slot ≠ some (c, .answered)) :
    slot.answered = [] := by
  rcases slot with _ | ⟨c, _ | _ | _⟩
  · rfl
  · rfl
  · rfl
  · exact absurd rfl (ne c)

section

variable {careful : Prop} {r : Role} {a b : Seat} {x y outer tip : Slot} {f : Call}
  {mine theirs : List Call}

/-- An end that waits for no answer has made no call. -/
theorem Apart.none_of_ready (h : Apart careful r x y a b)
    (ready : ∀ top ∈ a.calls.head?, top.caller = r.other) : x = none := by
  rcases x with _ | ⟨c, phase⟩
  · rfl
  · have caller := ready c (by rw [h.callsHere]; rfl)
    rw [h.freeHere.caller c phase rfl] at caller
    exact absurd caller.symm (Role.other_ne r)

/-- An end that waits for no answer has made no call inside the innermost one. -/
theorem Within.none_of_ready (h : Within careful outer tip f mine theirs a b)
    (ready : ∀ top ∈ b.calls.head?, top.caller = f.caller) : tip = none := by
  rcases tip with _ | ⟨d, phase⟩
  · rfl
  · have caller := ready d (by rw [h.callsThere]; rfl)
    rw [(h.inside d phase rfl).caller] at caller
    exact absurd caller (Role.other_ne _)

/-- An end that handles no call is not the one that handles the innermost call. -/
theorem Within.tip_of_waiting (h : Within careful outer tip f mine theirs a b)
    (waiting : ∀ top ∈ b.calls.head?, top.caller = f.caller.other) :
    ∃ d phase, tip = some (d, phase) := by
  rcases tip with _ | ⟨d, phase⟩
  · have caller := waiting f (by rw [h.callsThere]; rfl)
    exact absurd caller.symm (Role.other_ne _)
  · exact ⟨d, phase, rfl⟩

/-- What arrives first at the end that waits is the call that the first callee made before, or else
the one that was made last. -/
theorem Within.head_call {c : Call} {items : List Item}
    (h : Within careful outer tip f mine theirs a b) (line : a.line = .call c :: items) :
    (outer = some (c, .travelling) ∧ items = tip.travelling) ∨
      (outer.travelling = [] ∧ tip = some (c, .travelling) ∧ items = []) := by
  rw [h.lineHere] at line
  rcases outer with _ | ⟨o, _ | _ | _⟩ <;> rcases tip with _ | ⟨d, _ | _ | _⟩ <;> simp_all

/-- No answer arrives at the end whose call is handled. -/
theorem Within.head_ne_answer {c : Call} {items : List Item}
    (h : Within careful outer tip f mine theirs a b) : a.line ≠ .answer c :: items := by
  intro line
  rw [h.lineHere] at line
  rcases outer with _ | ⟨o, _ | _ | _⟩ <;> rcases tip with _ | ⟨d, _ | _ | _⟩ <;> simp_all

/-- What arrives at the end that handles the innermost call is the answer to its own last call. -/
theorem Within.head_answer {item : Item} {items : List Item}
    (h : Within careful outer tip f mine theirs a b) (line : b.line = item :: items) :
    ∃ c, item = .answer c ∧ tip = some (c, .answered) ∧ items = [] := by
  rw [h.lineThere] at line
  rcases tip with _ | ⟨d, _ | _ | _⟩ <;> simp_all

/-- The call that the first callee made before comes after the first one. -/
theorem Within.before (h : Within careful outer tip f [] theirs a b) {o : Call} {phase : Phase}
    (eq : outer = some (o, phase)) :
    o.caller = f.caller.other ∧ o.Proper ∧ o.Opening ∧ f.Opening ∧ o.rank < f.rank := by
  cases h.tower with
  | base _ opening before =>
    have mem : o ∈ outer.calls := by
      rw [eq]
      exact List.mem_singleton.2 rfl
    obtain ⟨caller, proper, opening', after⟩ := before o mem
    exact ⟨caller, proper, opening', opening, after⟩

/-- Once nothing is under way and nothing is held back, the ends have the same calls open. -/
theorem Within.mirror (h : Within careful outer tip f mine theirs a b) (lineHere : a.line = [])
    (lineThere : b.line = []) (heldHere : a.held = []) (heldThere : b.held = []) :
    a.calls = b.calls := by
  rw [h.lineHere, List.append_eq_nil_iff] at lineHere
  rw [h.heldHere, List.append_eq_nil_iff] at heldHere
  obtain rfl := Slot.eq_none lineHere.2 heldHere.2 (h.lineThere ▸ lineThere)
  have unheld : outer.held = [] := by
    refine List.eq_nil_iff_forall_not_mem.2 fun o mem => ?_
    by_cases caller : o.caller = f.caller
    · have held : o ∈ outer.heldFrom f.caller := List.mem_filter.2 ⟨mem, decide_eq_true caller⟩
      rw [← h.heldThere, heldThere] at held
      contradiction
    · have held : o ∈ outer.heldFrom f.caller.other :=
        List.mem_filter.2 ⟨mem, decide_eq_true (Role.eq_other_of_ne caller)⟩
      rw [heldHere.1] at held
      contradiction
  obtain rfl := Slot.eq_none lineHere.1 unheld (Slot.answered_eq_nil h.unanswered)
  rw [h.callsHere, h.callsThere, h.tower.mirror]
  rfl

/-- Where ends are patient, nothing that is nested is held back. -/
theorem Within.not_stuck (h : Within careful outer tip f mine theirs a b) (patient : careful)
    (lineHere : a.line = []) (lineThere : b.line = [])
    (waiting : ∀ top ∈ b.calls.head?, top.caller = f.caller.other) : False := by
  rw [h.lineHere, List.append_eq_nil_iff] at lineHere
  rw [h.lineThere] at lineThere
  obtain ⟨d, phase, rfl⟩ := h.tip_of_waiting waiting
  cases phase with
  | travelling => exact List.cons_ne_nil _ _ lineHere.2
  | held => exact (h.inside d _ rfl).nested patient (h.stuck d rfl)
  | answered => exact List.cons_ne_nil _ _ lineThere

/-- Once a call is handled inside another one, nothing older is under way. -/
theorem Within.travelling_eq_nil (h : Within careful outer tip f mine theirs a b)
    (ne : mine ≠ []) : outer.travelling = [] :=
  Slot.travelling_eq_nil fun c travelling => ne (h.early c travelling).1

end

end Interprocess
