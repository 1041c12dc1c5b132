import Interprocess.Dispatch.Table
import Mathlib.Data.List.Induction

/-!
# Dispatching follows the registrations

A table is asked to register handlers, to deregister them and to dispatch messages. `Registrations`
records what was asked and what the answers were, and from the record alone it can be told which
handler stands for a type: the one that was registered with success and has not been touched since,
as a change that is refused touches nothing. The table has exactly the handlers that stand, so it is
they who get the messages, and a table whose handlers note each call shows that they get them once.
The main statement is `follows_registrations`.
-/

set_option autoImplicit false

namespace Interprocess

variable {σ : Type}

namespace DispatchTable

/-- What a table is asked for. -/
inductive Request (σ : Type)
  | register (type : MessageType) (handler : σ → Message → σ)
  | deregister (type : MessageType)
  | dispatch (m : Message) (object : σ)

/-- What a table answers. A dispatched message leaves an object behind. -/
inductive Answer (σ : Type)
  | changed
  | refused (e : TableError)
  | dispatched (result : DispatchResult) (object : σ)

/-- Whether a table has other handlers than before. -/
def Answer.isChange : Answer σ → Bool
  | changed => true
  | refused _ | dispatched _ _ => false

namespace Request

/-- The message type that a request is about. -/
def type : Request σ → MessageType
  | register type _ | deregister type => type
  | dispatch m _ => m.header.type

/-- The handler that a request gives to its type when it changes the table. -/
def handler? : Request σ → Option (σ → Message → σ)
  | register _ handler => some handler
  | deregister _ | dispatch _ _ => none

/-- Whether a request changes a table in which its type is taken or free. -/
def changes : Request σ → Bool → Bool
  | register _ _, taken => !taken
  | deregister _, taken => taken
  | dispatch _ _, _ => false

end Request

/-- Whether a request with its answer has changed the handler of a type. -/
def Touches (type : MessageType) (e : Request σ × Answer σ) : Prop :=
  e.2.isChange ∧ e.1.type = type

instance (type : MessageType) (e : Request σ × Answer σ) : Decidable (Touches type e) :=
  inferInstanceAs (Decidable (_ ∧ _))

/-- A request that touches a type gives it a handler exactly if it registered this one. -/
theorem Touches.handler?_eq_some_iff {type : MessageType} {h : σ → Message → σ}
    {e : Request σ × Answer σ} (touches : Touches type e) :
    e.1.handler? = some h ↔ e = (.register type h, .changed) := by
  obtain ⟨r, a⟩ := e
  obtain ⟨change, rfl⟩ := touches
  cases a with
  | refused | dispatched => contradiction
  | changed => cases r <;> simp [Request.handler?, Request.type]

/-- Does what is asked for. A table that refuses a change stays as it is. -/
def respond (t : DispatchTable σ) : Request σ → Answer σ × DispatchTable σ
  | .register type handler =>
    match t.register type handler with
    | .ok changed => (.changed, changed)
    | .error e => (.refused e, t)
  | .deregister type =>
    match t.deregister type with
    | .ok changed => (.changed, changed)
    | .error e => (.refused e, t)
  | .dispatch m object =>
    let (result, object) := t.dispatch m object
    (.dispatched result object, t)

variable {t : DispatchTable σ} {type : MessageType} {h : σ → Message → σ}

/-- A type that has a handler is refused another one. -/
theorem register_of_some (taken : t.handler? type = some h) (handler : σ → Message → σ) :
    t.register type handler = .error (.registered type) := by
  rw [register, taken]

/-- A type without a handler gets the new one. -/
theorem register_of_none (free : t.handler? type = none) (handler : σ → Message → σ) :
    t.register type handler = .ok { handlers := t.handlers.put type handler } := by
  rw [register, free]

/-- A type that has a handler can give it up. -/
theorem deregister_of_some (taken : t.handler? type = some h) :
    t.deregister type = .ok { handlers := t.handlers.remove type } := by
  rw [deregister, taken]

/-- A type without a handler has none to give up. -/
theorem deregister_of_none (free : t.handler? type = none) :
    t.deregister type = .error (.notRegistered type) := by
  rw [deregister, free]

/-- A message whose type has a handler is handed to it. -/
theorem dispatch_of_some {m : Message} (taken : t.handler? m.header.type = some h) (object : σ) :
    t.dispatch m object = (.handled, h object m) := by
  rw [dispatch, taken]
  rfl

/-- A message whose type has no handler leaves the object as it is. -/
theorem dispatch_of_none {m : Message} (free : t.handler? m.header.type = none) (object : σ) :
    t.dispatch m object = (.notKnown, object) := by
  rw [dispatch, free]

/-- What can come of a request. -/
inductive Responds (t : DispatchTable σ) : Request σ → Answer σ × DispatchTable σ → Prop
  | registered {type : MessageType} {h : σ → Message → σ} (free : t.handler? type = none) :
      Responds t (.register type h) (.changed, { handlers := t.handlers.put type h })
  | occupied {type : MessageType} {g h : σ → Message → σ} (taken : t.handler? type = some g) :
      Responds t (.register type h) (.refused (.registered type), t)
  | deregistered {type : MessageType} {g : σ → Message → σ} (taken : t.handler? type = some g) :
      Responds t (.deregister type) (.changed, { handlers := t.handlers.remove type })
  | missing {type : MessageType} (free : t.handler? type = none) :
      Responds t (.deregister type) (.refused (.notRegistered type), t)
  | dispatched {m : Message} {object : σ} :
      Responds t (.dispatch m object)
        (.dispatched (t.dispatch m object).1 (t.dispatch m object).2, t)

/-- The cases of `Responds` are all that can come of a request. -/
theorem responds (t : DispatchTable σ) (r : Request σ) : Responds t r (t.respond r) := by
  cases r with
  | register type h =>
    rw [respond]
    cases found : t.handler? type with
    | none =>
      rw [register_of_none found]
      exact .registered found
    | some g =>
      rw [register_of_some found]
      exact .occupied found
  | deregister type =>
    rw [respond]
    cases found : t.handler? type with
    | none =>
      rw [deregister_of_none found]
      exact .missing found
    | some g =>
      rw [deregister_of_some found]
      exact .deregistered found
  | dispatch m object => exact .dispatched

/-- Only a change makes a difference, and it makes one for the handler of its type. -/
theorem handler?_respond (t : DispatchTable σ) (r : Request σ) (type : MessageType) :
    (t.respond r).2.handler? type =
      if Touches type (r, (t.respond r).1) then r.handler? else t.handler? type := by
  have responds := t.responds r
  generalize t.respond r = response at responds ⊢
  cases responds with
  | registered =>
    refine (Registry.get?_put _ _ _ _).trans ?_
    simp only [Touches, Answer.isChange, Request.type, Request.handler?, true_and, eq_comm]
    rfl
  | deregistered =>
    refine (Registry.get?_remove _ _ _).trans ?_
    simp only [Touches, Answer.isChange, Request.type, Request.handler?, true_and, eq_comm]
    rfl
  | occupied | missing | dispatched => exact (if_neg fun change => nomatch change.1).symm

/-- An answer that is no change leaves the table as it was. -/
theorem respond_eq_of_isChange_eq_false {r : Request σ} (same : (t.respond r).1.isChange = false) :
    (t.respond r).2 = t := by
  have responds := t.responds r
  generalize t.respond r = response at responds same ⊢
  cases responds with
  | registered | deregistered => contradiction
  | occupied | missing | dispatched => rfl

/-- Whether a table changes depends on the request and on whether its type is taken. -/
theorem isChange_respond (t : DispatchTable σ) (r : Request σ) :
    (t.respond r).1.isChange = r.changes (t.handler? r.type).isSome := by
  have responds := t.responds r
  generalize t.respond r = response at responds ⊢
  cases responds with
  | registered known | occupied known | deregistered known | missing known =>
    simp [Answer.isChange, Request.changes, Request.type, known]
  | dispatched => rfl

/-- An answer depends on the handler of one type only. -/
theorem respond_congr {t t' : DispatchTable σ} {r : Request σ}
    (same : t.handler? r.type = t'.handler? r.type) : (t.respond r).1 = (t'.respond r).1 := by
  cases r with
  | register type h =>
    have same : t.handler? type = t'.handler? type := same
    rw [respond, respond, register, register, same]
    cases t'.handler? type <;> rfl
  | deregister type =>
    have same : t.handler? type = t'.handler? type := same
    rw [respond, respond, deregister, deregister, same]
    cases t'.handler? type <;> rfl
  | dispatch m object =>
    have same : t.handler? m.header.type = t'.handler? m.header.type := same
    rw [respond, respond, dispatch, dispatch, same]

end DispatchTable

open DispatchTable (Request Answer Touches)

/-- A table with all that was asked of it and what it answered, the first request first. -/
structure Registrations (σ : Type) where
  table : DispatchTable σ := {}
  past : List (Request σ × Answer σ) := []

namespace Registrations

variable {type : MessageType} {n : Nat} {h : σ → Message → σ}

/-- One more request. -/
def step (s : Registrations σ) (r : Request σ) : Registrations σ where
  table := (s.table.respond r).2
  past := s.past ++ [(r, (s.table.respond r).1)]

/-- What some requests make of an empty table. -/
def run (rs : List (Request σ)) : Registrations σ := rs.foldl step {}

/-- One more request is one more step. -/
@[simp] theorem run_append_singleton (rs : List (Request σ)) (r : Request σ) :
    run (rs ++ [r]) = (run rs).step r := by
  unfold run
  rw [List.foldl_append]
  rfl

/-- Whether a handler was registered with success by the request of some number, and its type has
not been touched since. -/
def Stands (s : Registrations σ) (type : MessageType) (n : Nat) (h : σ → Message → σ) : Prop :=
  s.past[n]? = some (.register type h, .changed) ∧
    ∀ k > n, ∀ e, s.past[k]? = some e → ¬ Touches type e

/-- Every request is noted once. -/
theorem length_past (rs : List (Request σ)) : (run rs).past.length = rs.length := by
  induction rs using List.reverseRecOn with
  | nil => rfl
  | append_singleton rs r ih => simp [step, ih]

/-- A request that is not granted leaves the table as it is. -/
theorem step_of_not_changes {s : Registrations σ} {r : Request σ}
    (same : r.changes (s.table.handler? r.type).isSome = false) : (s.step r).table = s.table :=
  DispatchTable.respond_eq_of_isChange_eq_false ((s.table.isChange_respond r).trans same)

/-- One more request is noted behind all others. -/
theorem getElem?_past_step {s : Registrations σ} {r : Request σ} {k : Nat}
    {e : Request σ × Answer σ} :
    (s.step r).past[k]? = some e ↔
      s.past[k]? = some e ∨ k = s.past.length ∧ (r, (s.table.respond r).1) = e := by
  rcases Nat.lt_trichotomy k s.past.length with before | rfl | behind
  · rw [step, List.getElem?_append_left before]
    exact (or_iff_left fun last => Nat.ne_of_lt before last.1).symm
  · rw [step, List.getElem?_concat_length, Option.some.injEq,
      List.getElem?_eq_none (Nat.le_refl _)]
    simp
  · rw [step, List.getElem?_eq_none (by simpa using Nat.succ_le_of_lt behind),
      List.getElem?_eq_none (Nat.le_of_lt behind)]
    simp [Nat.ne_of_gt behind]

/-- A handler stands after one more request if it stood before and is not touched, or if it is the
one that was registered just now. -/
theorem stands_step {s : Registrations σ} {r : Request σ} :
    (s.step r).Stands type n h ↔
      s.Stands type n h ∧ ¬ Touches type (r, (s.table.respond r).1) ∨
        n = s.past.length ∧ (r, (s.table.respond r).1) = (.register type h, .changed) := by
  constructor
  · rintro ⟨made, since⟩
    rcases getElem?_past_step.1 made with old | new
    · have early := (List.getElem?_eq_some_iff.1 old).1
      refine .inl ⟨⟨old, fun k later e there => ?_⟩, ?_⟩
      · exact since k later e (getElem?_past_step.2 (.inl there))
      · exact since _ early _ (getElem?_past_step.2 (.inr ⟨rfl, rfl⟩))
    · exact .inr new
  · rintro (⟨⟨made, since⟩, untouched⟩ | ⟨rfl, new⟩)
    · refine ⟨getElem?_past_step.2 (.inl made), fun k later e there => ?_⟩
      rcases getElem?_past_step.1 there with old | ⟨-, rfl⟩
      · exact since k later e old
      · exact untouched
    · refine ⟨getElem?_past_step.2 (.inr ⟨rfl, new⟩), fun k later e there => ?_⟩
      rcases getElem?_past_step.1 there with old | ⟨rfl, -⟩
      · exact absurd (List.getElem?_eq_some_iff.1 old).1 (Nat.lt_asymm later)
      · exact absurd later (Nat.lt_irrefl _)

/-- After one more request some handler stands for a type if it was given one just now, or had one
and was not touched. -/
theorem exists_stands_step {s : Registrations σ} {r : Request σ} :
    (∃ n, (s.step r).Stands type n h) ↔
      if Touches type (r, (s.table.respond r).1) then r.handler? = some h
      else ∃ n, s.Stands type n h := by
  simp only [stands_step]
  split
  · next touches =>
    rw [touches.handler?_eq_some_iff]
    simp [touches]
  · next other =>
    have old : (r, (s.table.respond r).1) ≠ (.register type h, .changed) :=
      fun new => other (new ▸ ⟨rfl, rfl⟩)
    simp [other, old]

/-- A table has the handlers that stand. -/
theorem handler?_eq_some_iff (rs : List (Request σ)) :
    (run rs).table.handler? type = some h ↔ ∃ n, (run rs).Stands type n h := by
  induction rs using List.reverseRecOn with
  | nil => exact iff_of_false nofun fun ⟨_, stands⟩ => nomatch stands.1
  | append_singleton rs r ih =>
    rw [run_append_singleton, exists_stands_step, ← ih, step, DispatchTable.handler?_respond]
    split <;> rfl

/-- A type has no handler exactly if none stands. -/
theorem handler?_eq_none_iff (rs : List (Request σ)) :
    (run rs).table.handler? type = none ↔ ∀ n h, ¬ (run rs).Stands type n h := by
  rw [Option.eq_none_iff_forall_ne_some]
  simp only [ne_eq, handler?_eq_some_iff, not_exists]
  exact forall_comm

/-! ## Requests for one type -/

/-- A type fares as if nothing had ever been asked for the other types. -/
theorem run_filter (rs : List (Request σ)) (type : MessageType) :
    (run (rs.filter fun r => r.type = type)).past =
        ((run rs).past.filter fun e => e.1.type = type) ∧
      (run (rs.filter fun r => r.type = type)).table.handler? type =
        (run rs).table.handler? type := by
  induction rs using List.reverseRecOn with
  | nil => exact ⟨rfl, rfl⟩
  | append_singleton rs r ih =>
    obtain ⟨past, table⟩ := ih
    by_cases own : r.type = type
    · subst own
      have answer := DispatchTable.respond_congr table
      simp only [List.filter_append, List.filter_cons, List.filter_nil, decide_true, if_true,
        run_append_singleton, step, past, answer, DispatchTable.handler?_respond, table, and_self]
    · simp only [List.filter_append, List.filter_cons, List.filter_nil, own, decide_false,
        Bool.false_eq_true, if_false, List.append_nil, run_append_singleton, step, past,
        DispatchTable.handler?_respond, Touches, and_false, table, and_self]

end Registrations

/-! ## Counting calls -/

/-- An object with the calls of handlers that changed it: the number of the handler, what it found
and the message. -/
structure Watched (σ : Type) where
  object : σ
  calls : List (Nat × σ × Message) := []

/-- A handler that notes when it is called. -/
def Watched.noting (n : Nat) (h : σ → Message → σ) (w : Watched σ) (m : Message) : Watched σ where
  object := h w.object m
  calls := w.calls ++ [(n, w.object, m)]

namespace Registrations

/-- A request with a handler that notes when it is called. -/
def watch (n : Nat) : Request σ → Request (Watched σ)
  | .register type h => .register type (Watched.noting n h)
  | .deregister type => .deregister type
  | .dispatch m object => .dispatch m { object }

/-- Requests with handlers that note when they are called, under the number of the request. -/
def watched (rs : List (Request σ)) : List (Request (Watched σ)) := rs.mapIdx watch

/-- Handlers that note their calls touch the same types as the handlers themselves. -/
theorem touches_watch {t : DispatchTable σ} {w : DispatchTable (Watched σ)} {r : Request σ} {n : Nat}
    {type : MessageType} (same : (w.handler? r.type).isSome = (t.handler? r.type).isSome) :
    Touches type (watch n r, (w.respond (watch n r)).1) ↔ Touches type (r, (t.respond r).1) := by
  unfold Touches
  rw [DispatchTable.isChange_respond, DispatchTable.isChange_respond, ← same]
  cases r <;> rfl

/-- A table whose handlers note their calls has the same handlers as one whose handlers do not. -/
theorem handler?_watched (rs : List (Request σ)) (type : MessageType)
    (g : Watched σ → Message → Watched σ) :
    (run (watched rs)).table.handler? type = some g ↔
      ∃ n h, (run rs).Stands type n h ∧ Watched.noting n h = g := by
  induction rs using List.reverseRecOn generalizing type g with
  | nil => exact iff_of_false nofun fun ⟨_, _, stands, _⟩ => nomatch stands.1
  | append_singleton rs r ih =>
    have same : ((run (watched rs)).table.handler? r.type).isSome =
        ((run rs).table.handler? r.type).isSome := by
      rw [Bool.eq_iff_iff, Option.isSome_iff_exists, Option.isSome_iff_exists]
      simp only [ih, handler?_eq_some_iff]
      exact ⟨fun ⟨_, n, h, stands, _⟩ => ⟨h, n, stands⟩, fun ⟨h, n, stands⟩ => ⟨_, n, h, stands, rfl⟩⟩
    have numbered : watched (rs ++ [r]) = watched rs ++ [watch (run rs).past.length r] := by
      rw [watched, List.mapIdx_concat, length_past]
      rfl
    have given : (watch (run rs).past.length r).handler? =
        r.handler?.map (Watched.noting (run rs).past.length) := by
      cases r <;> rfl
    rw [numbered, run_append_singleton, run_append_singleton, step, DispatchTable.handler?_respond]
    simp only [touches_watch same, stands_step]
    split
    · next touches =>
      simp [touches, given, ← touches.handler?_eq_some_iff]
    · next other =>
      have old : ∀ h, (r, ((run rs).table.respond r).1) ≠ (.register type h, .changed) :=
        fun h new => other (new ▸ ⟨rfl, rfl⟩)
      simp [other, old, ih]

/-- After any requests, a message goes to the handler that stands for its type, which is called once
with the message and the object, and if there is none nothing is called and the object stays as it
is. A type that has a handler is refused another one and can give it up, a type that has none can
get one and cannot give it up. What is refused or dispatched leaves the table as it was, and what is
asked for other types makes no difference to a type. -/
theorem follows_registrations (rs : List (Request σ)) :
    let s := run rs
    let w := run (watched rs)
    (∀ m object n h, s.Stands m.header.type n h →
      s.table.dispatch m object = (.handled, h object m) ∧
        w.table.dispatch m { object } =
          (.handled, { object := h object m, calls := [(n, object, m)] })) ∧
    (∀ m object, (∀ n h, ¬ s.Stands m.header.type n h) →
      s.table.dispatch m object = (.notKnown, object) ∧
        w.table.dispatch m { object } = (.notKnown, { object })) ∧
    (∀ type n g, s.Stands type n g →
      (∀ h, s.table.register type h = .error (.registered type) ∧
        (s.step (.register type h)).table = s.table) ∧
      ∃ t, s.table.deregister type = .ok t) ∧
    (∀ type, (∀ n g, ¬ s.Stands type n g) →
      (∀ h, ∃ t, s.table.register type h = .ok t) ∧
      s.table.deregister type = .error (.notRegistered type) ∧
      (s.step (.deregister type)).table = s.table) ∧
    (∀ m object, (s.step (.dispatch m object)).table = s.table) ∧
    ∀ type,
      (run (rs.filter fun r => r.type = type)).past =
          (s.past.filter fun e => e.1.type = type) ∧
        (run (rs.filter fun r => r.type = type)).table.handler? type = s.table.handler? type := by
  intro s w
  have taken {type : MessageType} {n : Nat} {h : σ → Message → σ} (stands : s.Stands type n h) :
      s.table.handler? type = some h := (handler?_eq_some_iff rs).2 ⟨n, stands⟩
  have free {type : MessageType} (nothing : ∀ n h, ¬ s.Stands type n h) :
      s.table.handler? type = none := (handler?_eq_none_iff rs).2 nothing
  refine ⟨?_, ?_, ?_, ?_, fun m object => step_of_not_changes rfl, run_filter rs⟩
  · intro m object n h stands
    have noting : w.table.handler? m.header.type = some (Watched.noting n h) :=
      (handler?_watched rs _ _).2 ⟨n, h, stands, rfl⟩
    exact ⟨DispatchTable.dispatch_of_some (taken stands) object,
      DispatchTable.dispatch_of_some noting { object }⟩
  · intro m object nothing
    have unnoted : w.table.handler? m.header.type = none := by
      refine Option.eq_none_iff_forall_ne_some.2 fun g found => ?_
      obtain ⟨n, h, stands, -⟩ := (handler?_watched rs _ _).1 found
      exact nothing n h stands
    exact ⟨DispatchTable.dispatch_of_none (free nothing) object,
      DispatchTable.dispatch_of_none unnoted { object }⟩
  · intro type n g stands
    have occupied (h : σ → Message → σ) :
        (Request.register type h).changes (s.table.handler? type).isSome = false := by
      rw [taken stands]
      rfl
    exact ⟨fun h => ⟨DispatchTable.register_of_some (taken stands) h,
      step_of_not_changes (occupied h)⟩, ⟨_, DispatchTable.deregister_of_some (taken stands)⟩⟩
  · intro type nothing
    have missing :
        (Request.deregister type : Request σ).changes (s.table.handler? type).isSome = false := by
      rw [free nothing]
      rfl
    exact ⟨fun h => ⟨_, DispatchTable.register_of_none (free nothing) h⟩,
      DispatchTable.deregister_of_none (free nothing), step_of_not_changes missing⟩

/-- A second handler is refused, and the third one gets the place of the first one, which is
gone. -/
theorem follows_registrations_replaced :
    let put (n : Nat) : List Nat → Message → List Nat := fun ns _ => ns ++ [n]
    let rs : List (Request (List Nat)) :=
      [.register 7 (put 0), .register 7 (put 1), .deregister 7, .deregister 7, .register 7 (put 4),
        .register 8 (put 5)]
    let m := Message.addressed 5 7 {}
    (run rs).Stands 7 4 (put 4) ∧
      (run rs).table.dispatch m [9] = (.handled, [9, 4]) ∧
      (run (watched rs)).table.dispatch m { object := [9] } =
        (.handled, { object := [9, 4], calls := [(4, [9], m)] }) ∧
      (run rs).table.register 7 (put 6) = .error (.registered 7) ∧
      (run rs).table.deregister 9 = .error (.notRegistered 9) := by
  intro put rs m
  have stands : (run rs).Stands 7 4 (put 4) := by
    refine ⟨rfl, fun k later e there => ?_⟩
    match k, later with
    | 5, _ =>
      obtain rfl := Option.some.inj there
      exact fun touches => absurd touches.2 (by decide)
    | _ + 6, _ => exact nomatch there
  have nothing : ∀ n h, ¬ (run rs).Stands 9 n h := (handler?_eq_none_iff rs).1 rfl
  obtain ⟨handled, -, taken, free, -⟩ := follows_registrations rs
  obtain ⟨seen, noted⟩ := handled m [9] 4 (put 4) stands
  exact ⟨stands, seen, noted, ((taken 7 4 _ stands).1 (put 6)).1, (free 9 nothing).2.1⟩

end Registrations

end Interprocess
