import Interprocess.Proofs.Call.Seats

/-!
# How two ends stay in agreement

Two ends do not stop to agree when one of them makes a call, answers one, handles one that arrives
or that it held back, holds one back, or takes an answer. For each of these there is one statement,
and in each of them the cases are those of `Agrees`. Whether a call is handled or held back is left
open; `Decides` is what has to be known of this decision. At the end stand what the agreement is
for: `mirror`, that both ends have the same calls open once everything has arrived, and `not_stuck`,
that patient ends do not both wait for an answer while nothing is under way.
-/

set_option autoImplicit false

namespace Interprocess

namespace Agrees

variable {careful : Prop} {r : Role} {a b : Seat} {c : Call} {rest : List Call}
  {items : List Item}

/-- Agreement does not depend on which end is looked at first. -/
theorem symm (agrees : Agrees careful r a b) : Agrees careful r.other b a := by
  cases agrees with
  | apart h => exact .apart h.symm
  | caller outer tip role h =>
    exact .callee outer tip (by rw [Role.other_other]; exact role) h
  | callee outer tip role h => exact .caller outer tip role h

/-- Ends that have neither called nor received anything agree. -/
theorem new (careful : Prop) (r : Role) : Agrees careful r {} {} :=
  .apart (x := none) (y := none)
    { callsHere := rfl
      callsThere := rfl
      lineHere := .inl rfl
      lineThere := .inl rfl
      heldHere := rfl
      heldThere := rfl
      freeHere := .none r
      freeThere := .none r.other
      distinct := fun _ _ _ _ h => nomatch h
      yieldsHere := fun _ _ _ _ h => nomatch h
      yieldsThere := fun _ _ _ _ h => nomatch h }

/-- An end that waits for no answer makes a call. -/
theorem call (agrees : Agrees careful r a b) (caller : c.caller = r) (proper : c.Proper)
    (ready : ∀ top ∈ a.calls.head?, top.caller = r.other) (joins : Joins c a.calls)
    (uncrossed : c.level = .insideCpow → ∀ d, .call d ∈ a.line → d.level ≠ .insideCpow)
    (nested : careful → a.calls ≠ [] → c.level ≠ .notNested)
    (cleared : careful → a.calls = [] → a.held = []) :
    Agrees careful r { a with calls := c :: a.calls }
      { b with line := b.line ++ [.call c] } := by
  cases agrees with
  | @apart x y h =>
    obtain rfl := h.none_of_ready ready
    have empty : a.calls = [] := h.callsHere
    rw [empty] at joins
    refine .apart (x := some (c, .travelling)) (y := y)
      { callsHere := by rw [empty]; rfl
        callsThere := h.callsThere
        lineHere := ?_
        lineThere := ?_
        heldHere := h.heldHere
        heldThere := h.heldThere
        freeHere := .some _ caller proper joins fun h => nomatch h
        freeThere := h.freeThere
        distinct := ?_
        yieldsHere := fun _ _ _ _ h => nomatch h
        yieldsThere := ?_ }
    · rcases h.lineHere with line | ⟨_, _, _, answered, _⟩
      · exact .inl line
      · contradiction
    · rcases h.lineThere with line | ⟨_, _, travelling, _⟩
      · refine .inl ?_
        rw [line]
        simp
      · contradiction
    · rintro _ d _ phase ⟨⟩ other - unanswered
      have ne : c.caller ≠ d.caller := by
        rw [caller, h.freeThere.caller d phase other]
        exact (Role.other_ne r).symm
      refine Call.rank_ne ne fun deepest => ?_
      cases phase with
      | travelling =>
        refine uncrossed deepest d ?_
        rcases h.lineHere with line | ⟨_, _, _, answered, _⟩
        · rw [line, other]
          exact List.mem_append_right _ (List.mem_singleton.2 rfl)
        · contradiction
      | held => exact h.freeThere.shallow d other
      | answered => contradiction
    · intro patient d d' phase held
      -- a patient end has nothing left of what it held back when it opens a transaction
      have nothing := cleared patient empty
      rw [h.heldHere, held] at nothing
      contradiction
  | caller outer tip role h =>
    have caller := ready _ (by rw [h.callsHere]; rfl)
    rw [role] at caller
    exact absurd caller.symm (Role.other_ne r)
  | @callee outer tip f mine theirs role h =>
    obtain rfl := h.none_of_ready (by rw [role]; exact ready)
    have innermost : a.calls = f :: theirs := h.callsThere
    rw [innermost] at joins nested
    refine .callee outer (some (c, .travelling)) role
      { tower := h.tower
        callsHere := h.callsHere
        callsThere := by rw [innermost]; rfl
        lineHere := by rw [h.lineHere, List.append_assoc]; rfl
        lineThere := h.lineThere
        heldHere := h.heldHere
        heldThere := h.heldThere
        inside := ?_
        stuck := fun _ h => nomatch h
        early := ?_
        unanswered := h.unanswered }
    · rintro _ _ ⟨⟩
      exact ⟨by rw [role, Role.other_other, caller], joins.1, joins.2, proper,
        fun patient => nested patient (List.cons_ne_nil _ _)⟩
    · intro o travelling
      refine ⟨(h.early o travelling).1, ?_⟩
      rintro _ _ ⟨⟩
      rfl

/-- Where the outermost call is answered, no call is handled any more. -/
theorem answer_base {outer : Slot} {f : Call} (role : f.caller = r.other)
    (h : Within careful outer none f [] outer.calls b a) (proper : f.Proper) (opening : f.Opening)
    (before : ∀ o ∈ outer.calls, o.caller = f.caller.other ∧ o.Proper ∧ o.Opening ∧
      o.rank < f.rank) :
    Agrees careful r { a with calls := outer.calls }
      { b with line := b.line ++ [.answer f] } := by
  have callers : ∀ o ∈ outer.calls, o.caller = r := fun o mem => by
    rw [(before o mem).1, role, Role.other_other]
  have mem (o : Call) (phase : Phase) (eq : outer = some (o, phase)) : o ∈ outer.calls := by
    rw [eq]
    exact List.mem_singleton.2 rfl
  refine .apart (x := outer) (y := some (f, .answered))
    { callsHere := rfl
      callsThere := h.callsHere
      lineHere := ?_
      lineThere := ?_
      heldHere := ?_
      heldThere := ?_
      freeHere := ?_
      freeThere := .some _ role proper opening fun h => nomatch h
      distinct := ?_
      yieldsHere := ?_
      yieldsThere := fun _ _ _ _ h => nomatch h }
  · refine .inl ?_
    rw [Slot.answered_eq_nil h.unanswered]
    exact h.lineThere
  · have line : b.line = outer.travelling := by
      rw [h.lineHere]
      exact List.append_nil _
    rcases outer with _ | ⟨o, _ | _ | _⟩
    · exact .inl (by rw [line]; rfl)
    · refine .inr ⟨o, f, rfl, rfl, by rw [line]; rfl, ?_⟩
      exact (before o (mem o _ rfl)).2.2.2
    · exact .inl (by rw [line]; rfl)
    · exact absurd rfl (h.unanswered o)
  · rw [h.heldThere, role]
    exact Slot.heldFrom_eq_nil fun o mem same =>
      Role.other_ne r (same.symm.trans (callers o mem))
  · rw [h.heldHere, role, Role.other_other, Slot.heldFrom_eq_held callers]
    exact List.append_nil _
  · exact ⟨fun o phase eq => callers o (mem o phase eq),
      fun o phase eq => (before o (mem o phase eq)).2.1,
      fun o phase eq => (before o (mem o phase eq)).2.2.1,
      fun o eq => Call.shallow_of_rank_lt (before o (mem o _ eq)).2.2.2⟩
  · rintro _ _ _ _ - ⟨⟩ - unanswered
    contradiction
  · rintro - o _ _ - ⟨⟩
    exact ⟨Phase.noConfusion, Phase.noConfusion⟩

/-- Where a nested call is answered, the call around it is handled again. -/
theorem answer_nest {outer : Slot} {f g : Call} {mine theirs : List Call}
    (role : f.caller = r.other) (h : Within careful outer none f (g :: theirs) (g :: mine) b a)
    (tower : Tower careful outer.calls g mine theirs) (inside : Inside careful f g) :
    Agrees careful r { a with calls := g :: mine }
      { b with line := b.line ++ [.answer f] } := by
  have nothing := h.travelling_eq_nil (List.cons_ne_nil _ _)
  have caller : g.caller = r := by
    have := inside.caller
    rw [role] at this
    rw [← Role.other_other g.caller, ← this, Role.other_other]
  refine .caller outer (some (f, .answered)) caller
    { tower := tower
      callsHere := rfl
      callsThere := h.callsHere
      lineHere := ?_
      lineThere := ?_
      heldHere := ?_
      heldThere := ?_
      inside := ?_
      stuck := fun _ h => nomatch h
      early := ?_
      unanswered := h.unanswered }
  · rw [nothing]
    exact h.lineThere
  · rw [h.lineHere, nothing]
    rfl
  · rw [h.heldThere, role, caller]
    exact (List.append_nil _).symm
  · rw [h.heldHere, role, Role.other_other, caller]
    exact List.append_nil _
  · rintro _ _ ⟨⟩
    exact inside
  · intro o travelling
    exact absurd (h.early o travelling).1 (List.cons_ne_nil _ _)

/-- The call that an end handles is the innermost one, and nothing was called inside it. -/
theorem handled (agrees : Agrees careful r a b) (calls : a.calls = c :: rest)
    (caller : c.caller = r.other) :
    ∃ outer mine, Within careful outer none c mine rest b a := by
  have ready : ∀ top ∈ a.calls.head?, top.caller = r.other := by
    rw [calls]
    rintro _ ⟨⟩
    exact caller
  cases agrees with
  | @apart x y h =>
    obtain rfl := h.none_of_ready ready
    rw [h.callsHere] at calls
    contradiction
  | caller outer tip role h =>
    rw [h.callsHere] at calls
    obtain ⟨rfl, -⟩ := List.cons.inj calls
    rw [role] at caller
    exact absurd caller.symm (Role.other_ne r)
  | @callee outer tip f mine theirs role h =>
    obtain rfl := h.none_of_ready (by rw [role]; exact ready)
    rw [h.callsThere] at calls
    obtain ⟨rfl, rfl⟩ := List.cons.inj calls
    exact ⟨outer, mine, h⟩

/-- An end answers the call that it handles. -/
theorem answer (agrees : Agrees careful r a b) (calls : a.calls = c :: rest)
    (caller : c.caller = r.other) :
    Agrees careful r { a with calls := rest } { b with line := b.line ++ [.answer c] } := by
  obtain ⟨outer, mine, h⟩ := agrees.handled calls caller
  cases h.tower with
  | base proper opening before => exact answer_base caller h proper opening before
  | nest tower inside => exact answer_nest caller h tower inside

/-- A call that arrives is one that the other end may make. -/
theorem proper_of_line (agrees : Agrees careful r a b) (line : a.line = .call c :: items) :
    c.Proper ∧ c.caller = r.other := by
  cases agrees with
  | @apart x y h =>
    obtain ⟨rfl, -, -⟩ := h.lineHere.head_call line
    exact ⟨h.freeThere.proper _ _ rfl, h.freeThere.caller _ _ rfl⟩
  | @caller outer tip f mine theirs role h =>
    rcases h.head_call line with ⟨travelling, -⟩ | ⟨-, travelling, -⟩
    · obtain rfl := (h.early c travelling).1
      obtain ⟨caller, proper, -⟩ := h.before travelling
      exact ⟨proper, by rw [caller, role]⟩
    · have inside := h.inside c _ travelling
      exact ⟨inside.proper, by rw [inside.caller, role]⟩
  | callee outer tip role h =>
    obtain ⟨_, impossible, -⟩ := h.head_answer line
    contradiction

/-- While no call is handled, a call that comes after the one that is open here is held back. -/
theorem hold_apart {x y : Slot} (h : Apart careful r x y a b) (line : a.line = .call c :: items)
    (busy : a.calls ≠ [])
    (waits : ∀ top ∈ a.calls.head?, c.Proper → c.caller = top.caller.other → c.id ≠ top.id →
      c.rank < top.rank) :
    Agrees careful r { a with line := items, held := a.held ++ [c] } b := by
  obtain ⟨rfl, rfl, -⟩ := h.lineHere.head_call line
  obtain ⟨o, phase, rfl⟩ : ∃ o phase, x = some (o, phase) := by
    rcases x with _ | ⟨o, phase⟩
    · exact absurd h.callsHere busy
    · exact ⟨o, phase, rfl⟩
  have caller : c.caller = r.other := h.freeThere.caller c _ rfl
  have caller' : o.caller = r := h.freeHere.caller o phase rfl
  have ne : c.caller ≠ o.caller := by
    rw [caller, caller']
    exact Role.other_ne r
  have after : c.rank < o.rank := by
    refine waits o (by rw [h.callsHere]; rfl) (h.freeThere.proper c _ rfl)
      (by rw [caller, caller']) ?_
    exact (h.freeThere.opening c _ rfl).id_ne (h.freeHere.opening o phase rfl) ne
  refine .apart (x := some (o, phase)) (y := some (c, .held))
    { callsHere := h.callsHere
      callsThere := h.callsThere
      lineHere := .inl (List.append_nil _).symm
      lineThere := ?_
      heldHere := by rw [h.heldHere]; rfl
      heldThere := h.heldThere
      freeHere := h.freeHere
      freeThere := h.freeThere.hold (Call.shallow_of_rank_lt after)
      distinct := ?_
      yieldsHere := ?_
      yieldsThere := ?_ }
  · rcases h.lineThere with line | ⟨_, _, _, answered, _⟩
    · exact .inl line
    · cases answered
  · rintro _ _ _ _ ⟨⟩ ⟨⟩ - -
    exact Nat.ne_of_gt after
  · rintro patient _ _ _ ⟨⟩ ⟨⟩
    -- a call held back at the other end would come after this one
    have before := (h.yieldsHere patient o c _ rfl rfl).2 rfl
    omega
  · rintro patient _ _ _ ⟨⟩ ⟨⟩
    refine ⟨?_, fun _ => after⟩
    rintro rfl
    have before := (h.yieldsHere patient o c _ rfl rfl).2 rfl
    omega

/-- While an end waits for the answer to a call that is handled, what it holds back is the call that
the first callee made before, or a nested one that may not be nested. -/
theorem hold_within {outer tip : Slot} {f : Call} {mine theirs : List Call} (role : f.caller = r)
    (h : Within careful outer tip f mine theirs a b) (line : a.line = .call c :: items)
    (stuck : c.Proper → c.id = f.id → f.level ≤ c.level → c.level = .notNested) :
    Agrees careful r { a with line := items, held := a.held ++ [c] } b := by
  rcases h.head_call line with ⟨rfl, rfl⟩ | ⟨nothing, rfl, rfl⟩
  · obtain ⟨rfl, last⟩ := h.early c rfl
    have caller := (h.before rfl).1
    have unheld : tip.held = [] := by
      rcases tip with _ | ⟨d, phase⟩
      · rfl
      · obtain rfl := last d phase rfl
        rfl
    refine .caller (some (c, .held)) tip role
      { tower := h.tower
        callsHere := h.callsHere
        callsThere := h.callsThere
        lineHere := rfl
        lineThere := h.lineThere
        heldHere := ?_
        heldThere := ?_
        inside := h.inside
        stuck := h.stuck
        early := fun _ h => nomatch h
        unanswered := fun _ h => nomatch h }
    · rw [h.heldHere, unheld]
      simp [caller]
    · rw [h.heldThere]
      have ne : c.caller ≠ f.caller := by
        rw [caller]
        exact Role.other_ne _
      simp [ne]
  · have inside := h.inside c _ rfl
    refine .caller outer (some (c, .held)) role
      { tower := h.tower
        callsHere := h.callsHere
        callsThere := h.callsThere
        lineHere := by rw [nothing]; rfl
        lineThere := h.lineThere
        heldHere := by rw [h.heldHere]; simp
        heldThere := h.heldThere
        inside := ?_
        stuck := ?_
        early := ?_
        unanswered := h.unanswered }
    · rintro _ _ ⟨⟩
      exact inside
    · rintro _ ⟨⟩
      exact stuck inside.proper inside.id inside.deep
    · intro o travelling
      rw [travelling] at nothing
      contradiction

/-- An end holds a call back that arrives. -/
theorem hold {waits : Prop} (agrees : Agrees careful r a b) (line : a.line = .call c :: items)
    (busy : a.calls ≠ []) (decides : Decides waits c a.calls) (decision : waits) :
    Agrees careful r { a with line := items, held := a.held ++ [c] } b := by
  cases agrees with
  | apart h =>
    exact hold_apart h line busy fun top mem proper caller ne =>
      (decides.apart top mem proper caller ne).1 decision
  | @caller outer tip f mine theirs role h =>
    refine hold_within role h line fun proper id deep => ?_
    exact decides.inside f (by rw [h.callsHere]; rfl) proper id deep decision
  | callee outer tip role h =>
    obtain ⟨_, impossible, -⟩ := h.head_answer line
    contradiction

/-- An end begins to handle a call while none is handled. What it has called itself comes after that
call. -/
theorem handle {x : Slot} {phase : Phase} (mine : Free r x)
    (theirs : Free r.other (some (c, phase)))
    (after : ∀ o phase, x = some (o, phase) → phase ≠ .answered ∧ o.rank < c.rank)
    (callsHere : a.calls = c :: x.calls) (lineHere : a.line = []) (heldHere : a.held = [])
    (callsThere : b.calls = [c]) (lineThere : b.line = x.travelling) (heldThere : b.held = x.held) :
    Agrees careful r a b := by
  have caller := theirs.caller c phase rfl
  have exists_phase (o : Call) (mem : o ∈ x.calls) : ∃ phase, x = some (o, phase) := by
    rcases x with _ | ⟨o', phase⟩
    · contradiction
    · obtain rfl := List.mem_singleton.1 mem
      exact ⟨phase, rfl⟩
  have callers (o : Call) (mem : o ∈ x.calls) : o.caller = r := by
    obtain ⟨phase, eq⟩ := exists_phase o mem
    exact mine.caller o phase eq
  refine .callee x none caller
    { tower := .base (theirs.proper c phase rfl) (theirs.opening c phase rfl) ?_
      callsHere := callsThere
      callsThere := callsHere
      lineHere := by rw [lineThere]; simp
      lineThere := lineHere
      heldHere := ?_
      heldThere := ?_
      inside := fun _ _ h => nomatch h
      stuck := fun _ h => nomatch h
      early := fun _ _ => ⟨rfl, fun _ _ h => nomatch h⟩
      unanswered := fun o answered => absurd rfl (after o _ answered).1 }
  · intro o mem
    obtain ⟨phase, eq⟩ := exists_phase o mem
    refine ⟨?_, mine.proper o phase eq, mine.opening o phase eq, (after o phase eq).2⟩
    rw [callers o mem, caller, Role.other_other]
  · rw [heldThere, caller, Role.other_other, Slot.heldFrom_eq_held callers]
    exact (List.append_nil _).symm
  · rw [heldHere, caller]
    exact (Slot.heldFrom_eq_nil fun o mem same =>
      Role.other_ne r (same.symm.trans (callers o mem))).symm

/-- While no call is handled, a call is handled unless it comes after the one that is open here. -/
theorem dispatch_apart {x y : Slot} (h : Apart careful r x y a b) (line : a.line = .call c :: items)
    (before : ∀ top ∈ a.calls.head?, c.Proper → c.caller = top.caller.other → c.id ≠ top.id →
      ¬ c.rank < top.rank) :
    Agrees careful r { a with line := items, calls := c :: a.calls } b := by
  obtain ⟨rfl, rfl, earlier⟩ := h.lineHere.head_call line
  have after (o : Call) (phase : Phase) (eq : x = some (o, phase)) :
      phase ≠ .answered ∧ o.rank < c.rank := by
    have caller : c.caller = o.caller.other := by
      rw [h.freeThere.caller c _ rfl, h.freeHere.caller o phase eq]
    have ne : c.caller ≠ o.caller := by
      rw [caller]
      exact Role.other_ne _
    have late : ¬ c.rank < o.rank := by
      refine before o (by rw [h.callsHere, eq]; rfl) (h.freeThere.proper c _ rfl) caller ?_
      exact (h.freeThere.opening c _ rfl).id_ne (h.freeHere.opening o phase eq) ne
    have unanswered : phase ≠ .answered := by
      rintro rfl
      exact late (earlier o eq)
    have distinct := h.distinct o c phase .travelling eq rfl unanswered Phase.noConfusion
    exact ⟨unanswered, by omega⟩
  refine handle (x := x) h.freeHere h.freeThere after (by rw [h.callsHere]) ?_ h.heldHere
    h.callsThere ?_ h.heldThere
  · exact Slot.answered_eq_nil fun o answered => (after o _ answered).1 rfl
  · rcases h.lineThere with line | ⟨_, _, _, answered, _⟩
    · exact line
    · cases answered

/-- While an end waits for the answer to a call that is handled, the only call that it handles is
one that was made inside that call. -/
theorem dispatch_within {outer tip : Slot} {f : Call} {mine theirs : List Call}
    (role : f.caller = r) (h : Within careful outer tip f mine theirs a b)
    (line : a.line = .call c :: items)
    (before : c.Proper → c.caller = f.caller.other → c.id ≠ f.id → ¬ c.rank < f.rank) :
    Agrees careful r { a with line := items, calls := c :: a.calls } b := by
  rcases h.head_call line with ⟨rfl, rfl⟩ | ⟨nothing, rfl, rfl⟩
  -- the first callee's own call comes after the one that it handles, so it is not handled now
  · obtain ⟨rfl, -⟩ := h.early c rfl
    obtain ⟨caller, proper, opening, opening', after⟩ := h.before rfl
    have ne : c.caller ≠ f.caller := by
      rw [caller]
      exact Role.other_ne _
    exact absurd after (before proper caller (opening.id_ne opening' ne))
  · have inside := h.inside c _ rfl
    refine .callee outer none (by rw [inside.caller, role])
      { tower := .nest h.tower inside
        callsHere := h.callsThere
        callsThere := by rw [h.callsHere]; rfl
        lineHere := by rw [nothing]; exact h.lineThere
        lineThere := rfl
        heldHere := ?_
        heldThere := ?_
        inside := fun _ _ h => nomatch h
        stuck := fun _ h => nomatch h
        early := ?_
        unanswered := h.unanswered }
    · rw [h.heldThere, inside.caller, Role.other_other]
      exact (List.append_nil _).symm
    · rw [h.heldHere, inside.caller]
      exact List.append_nil _
    · intro o travelling
      rw [travelling] at nothing
      contradiction

/-- An end handles a call that arrives. -/
theorem dispatch {waits : Prop} (agrees : Agrees careful r a b) (line : a.line = .call c :: items)
    (decides : Decides waits c a.calls) (decision : ¬ waits) :
    Agrees careful r { a with line := items, calls := c :: a.calls } b := by
  cases agrees with
  | apart h =>
    refine dispatch_apart h line fun top mem proper caller ne before => ?_
    exact decision ((decides.apart top mem proper caller ne).2 before)
  | @caller outer tip f mine theirs role h =>
    refine dispatch_within role h line fun proper caller ne before => ?_
    exact decision ((decides.apart f (by rw [h.callsHere]; rfl) proper caller ne).2 before)
  | callee outer tip role h =>
    obtain ⟨_, impossible, -⟩ := h.head_answer line
    contradiction

/-- An end without open calls handles a call that it held back. -/
theorem refeed {rest : List Call} (agrees : Agrees careful r a b) (idle : a.calls = [])
    (held : a.held = c :: rest) :
    Agrees careful r { a with calls := [c], held := rest } b := by
  cases agrees with
  | @apart x y h =>
    obtain rfl := h.none_of_ready (by rw [idle]; exact fun _ mem => nomatch mem)
    obtain ⟨rfl, rfl⟩ : y = some (c, .held) ∧ rest = [] := by
      rw [h.heldHere] at held
      rcases y with _ | ⟨d, _ | _ | _⟩ <;> simp_all
    have line : a.line = [] := by
      rcases h.lineHere with line | ⟨_, _, travelling, _⟩
      · exact line
      · cases travelling
    have line' : b.line = [] := by
      rcases h.lineThere with line | ⟨_, _, travelling, _⟩
      · exact line
      · cases travelling
    exact handle (x := none) h.freeHere h.freeThere (fun _ _ h => nomatch h) rfl line rfl
      h.callsThere line' h.heldThere
  | caller outer tip role h =>
    rw [h.callsHere] at idle
    contradiction
  | callee outer tip role h =>
    rw [h.callsThere] at idle
    exact absurd idle (List.append_ne_nil_of_right_ne_nil _ (List.cons_ne_nil _ _))

/-- An answer that arrives belongs to the innermost call, and this call is one that the end made. -/
theorem complete (agrees : Agrees careful r a b) (line : a.line = .answer c :: items) :
    ∃ calls, a.calls = c :: calls ∧ c.caller = r ∧
      Agrees careful r { a with line := items, calls := calls } b := by
  cases agrees with
  | @apart x y h =>
    obtain ⟨rfl, rfl⟩ := h.lineHere.head_answer line
    refine ⟨[], h.callsHere, h.freeHere.caller c _ rfl, .apart (x := none) (y := y)
      { callsHere := rfl
        callsThere := h.callsThere
        lineHere := .inl rfl
        lineThere := ?_
        heldHere := h.heldHere
        heldThere := h.heldThere
        freeHere := .none r
        freeThere := h.freeThere
        distinct := fun _ _ _ _ h => nomatch h
        yieldsHere := fun _ _ _ _ h => nomatch h
        yieldsThere := fun _ _ _ _ _ h => nomatch h }⟩
    rcases h.lineThere with line | ⟨_, _, travelling, _⟩
    · exact .inl line
    · cases travelling
  | caller outer tip role h => exact absurd line h.head_ne_answer
  | @callee outer tip f mine theirs role h =>
    obtain ⟨d, same, rfl, rfl⟩ := h.head_answer line
    obtain rfl := Item.answer.inj same
    refine ⟨f :: theirs, h.callsThere, ?_, .callee outer none role
      { tower := h.tower
        callsHere := h.callsHere
        callsThere := rfl
        lineHere := h.lineHere
        lineThere := rfl
        heldHere := h.heldHere
        heldThere := h.heldThere
        inside := fun _ _ h => nomatch h
        stuck := fun _ h => nomatch h
        early := fun o travelling => ⟨(h.early o travelling).1, fun _ _ h => nomatch h⟩
        unanswered := h.unanswered }⟩
    rw [(h.inside c _ rfl).caller, role, Role.other_other]

/-! ## What follows where the ends agree -/

/-- Once nothing is under way and nothing is held back, the ends have the same calls open. -/
theorem mirror (agrees : Agrees careful r a b) (lineHere : a.line = []) (lineThere : b.line = [])
    (heldHere : a.held = []) (heldThere : b.held = []) : a.calls = b.calls := by
  cases agrees with
  | @apart x y h =>
    obtain ⟨travelling, answered⟩ := (lineHere ▸ h.lineHere).nil
    obtain ⟨travelling', answered'⟩ := (lineThere ▸ h.lineThere).nil
    obtain rfl := Slot.eq_none travelling' (h.heldThere ▸ heldThere) answered
    obtain rfl := Slot.eq_none travelling (h.heldHere ▸ heldHere) answered'
    rw [h.callsHere, h.callsThere]
  | caller outer tip role h => exact h.mirror lineHere lineThere heldHere heldThere
  | callee outer tip role h => exact (h.mirror lineThere lineHere heldThere heldHere).symm

/-- No two ends handle each other's calls at the same time. -/
theorem not_both_handling {d : Call} (agrees : Agrees careful r a b) (mine : a.calls.head? = some c)
    (caller : c.caller = r.other) (theirs : b.calls.head? = some d) (caller' : d.caller = r) :
    False := by
  cases agrees with
  | apart h =>
    obtain rfl := h.none_of_ready (by
      rw [mine]
      rintro _ ⟨⟩
      exact caller)
    rw [h.callsHere] at mine
    contradiction
  | caller outer tip role h =>
    rw [h.callsHere] at mine
    obtain rfl := Option.some.inj mine
    exact Role.other_ne r (caller.symm.trans role)
  | callee outer tip role h =>
    rw [h.callsHere] at theirs
    obtain rfl := Option.some.inj theirs
    exact Role.other_ne r (role.symm.trans caller')

/-- Two calls that are under way towards each other are all that both ends have called. -/
theorem towards {d : Call} (agrees : Agrees careful r a b) (here : .call d ∈ a.line)
    (there : .call c ∈ b.line) :
    Apart careful r (some (c, .travelling)) (some (d, .travelling)) a b := by
  cases agrees with
  | apart h =>
    obtain rfl := h.lineHere.mem_call here
    obtain rfl := h.lineThere.mem_call there
    exact h
  | caller outer tip role h =>
    rw [h.lineThere] at there
    exact absurd there Slot.call_not_mem_answered
  | callee outer tip role h =>
    rw [h.lineThere] at here
    exact absurd here Slot.call_not_mem_answered

/-- Where ends are patient, they do not both wait for an answer while nothing is under way. -/
theorem not_stuck {d : Call} (agrees : Agrees careful r a b) (patient : careful)
    (lineHere : a.line = []) (lineThere : b.line = []) (mine : a.calls.head? = some c)
    (caller : c.caller = r) (theirs : b.calls.head? = some d) (caller' : d.caller = r.other) :
    False := by
  cases agrees with
  | @apart x y h =>
    obtain ⟨travelling, answered⟩ := (lineHere ▸ h.lineHere).nil
    obtain ⟨travelling', answered'⟩ := (lineThere ▸ h.lineThere).nil
    obtain ⟨o, rfl⟩ : ∃ o, x = some (o, .held) := by
      rw [h.callsHere] at mine
      exact Slot.eq_held mine travelling' answered
    obtain ⟨o', rfl⟩ : ∃ o, y = some (o, .held) := by
      rw [h.callsThere] at theirs
      exact Slot.eq_held theirs travelling answered'
    exact (h.yieldsHere patient o o' _ rfl rfl).1 rfl
  | caller outer tip role h =>
    refine h.not_stuck patient lineHere lineThere ?_
    rw [theirs]
    rintro _ ⟨⟩
    rw [caller', role]
  | callee outer tip role h =>
    refine h.not_stuck patient lineThere lineHere ?_
    rw [mine]
    rintro _ ⟨⟩
    rw [caller, role, Role.other_other]

end Agrees

end Interprocess
