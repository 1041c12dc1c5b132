import Interprocess.Call.Tracker

/-!
# Which of two crossing calls goes first

Where two ends have called each other at the same time, each of them decides on its own whether the
other's call has to wait. That the two decisions fit together is because of an order of the calls:
by level, and within a level the parent's before the child's, except for the deepest level, whose
calls share one place because none of them waits. `mustWait_iff_rank` says that an end lets a call
wait exactly if it comes after the call that this end has made. The exception are calls that are
part of the transaction in which they meet, and `levels_of_mustWait_nested` says that these wait at
one place only.
-/

set_option autoImplicit false

namespace Interprocess

/-- The opposite end. -/
def Role.other : Role → Role
  | parent => child
  | child => parent

/-- The end opposite to the opposite end is the first one. -/
@[simp] theorem Role.other_other (r : Role) : r.other.other = r := by
  cases r <;> rfl

/-- The opposite end is a different one. -/
theorem Role.other_ne (r : Role) : r.other ≠ r := by
  cases r <;> simp [Role.other]

/-- There are two ends only. -/
theorem Role.eq_other_of_ne {r s : Role} (ne : s ≠ r) : s = r.other := by
  cases r <;> cases s <;> simp_all [Role.other]

/-- A synchronous call, as it was sent, and the end that sent it. -/
structure Call where
  caller : Role
  message : Message
deriving DecidableEq

namespace Call

/-- The transaction that a call belongs to. -/
def id (c : Call) : Int32 := c.message.header.transaction

/-- How deeply a call nests. -/
def level (c : Call) : Level := c.message.flags.level

/-- How an end keeps an open call. -/
def transaction (r : Role) (c : Call) : Transaction :=
  { id := c.id, level := c.level, outgoing := decide (c.caller = r) }

/-- The place of a call in the order in which crossing calls are handled, the last one first. -/
def rank (c : Call) : Nat :=
  2 * c.level.number + if c.caller = .parent ∧ c.level ≠ .insideCpow then 1 else 0

/-- Two calls from different ends have the same place only if both are of the deepest level. -/
theorem rank_ne {c d : Call} (ne : c.caller ≠ d.caller)
    (shallow : c.level = .insideCpow → d.level ≠ .insideCpow) : c.rank ≠ d.rank := by
  unfold rank
  cases upper : c.level <;> cases lower : d.level <;> cases caller : c.caller <;>
    cases caller' : d.caller <;> simp_all [Level.number]

/-- No call comes before those of the deepest level. -/
theorem shallow_of_rank_lt {c d : Call} (after : c.rank < d.rank) : c.level ≠ .insideCpow := by
  intro deepest
  rw [rank, rank, deepest] at after
  cases upper : d.level <;> cases caller : d.caller <;> simp_all [Level.number]

/-- A call is synchronous and no reply. -/
structure Proper (c : Call) : Prop where
  sync : c.message.flags.sync = true
  reply : c.message.flags.reply = false

/-- A call that opened a transaction bears a number of its caller's range. -/
def Opening (c : Call) : Prop := 0 < c.id ↔ c.caller = .parent

/-- Calls that opened transactions at different ends have different numbers, since their signs
differ. -/
theorem Opening.id_ne {c d : Call} (first : c.Opening) (second : d.Opening)
    (ne : c.caller ≠ d.caller) : c.id ≠ d.id := by
  intro same
  unfold Opening at first second
  rw [same, second] at first
  cases hc : c.caller <;> cases hd : d.caller <;> simp_all

end Call

/-- The open calls of an end, as its tracker keeps them. -/
def transactions (r : Role) (calls : List Call) : List Transaction :=
  calls.map (Call.transaction r)

/-- No open calls are no transactions. -/
@[simp] theorem transactions_nil (r : Role) : transactions r [] = [] := rfl

/-- The innermost call is the innermost transaction. -/
@[simp] theorem transactions_cons (r : Role) (c : Call) (calls : List Call) :
    transactions r (c :: calls) = c.transaction r :: transactions r calls := rfl

/-- Levels are ordered by their numbers. -/
theorem Level.lt_iff (a b : Level) : a < b ↔ a.number < b.number := Iff.rfl

/-- Levels are ordered by their numbers, equal ones included. -/
theorem Level.le_iff (a b : Level) : a ≤ b ↔ a.number ≤ b.number := Iff.rfl

namespace Tracker

/-- While an end waits for the answer to its innermost call, this call is the awaited one. -/
theorem awaited?_of_outgoing {t : Tracker} {c : Call} {calls : List Call}
    (stack : t.stack = transactions t.role (c :: calls)) (outgoing : c.caller = t.role) :
    t.awaited? = some (c.transaction t.role) := by
  rw [awaited?, stack, transactions_cons, List.find?_cons_of_pos]
  exact decide_eq_true outgoing

/-- An end without transactions waits for no answer. -/
theorem awaited?_of_nil {t : Tracker} (stack : t.stack = []) : t.awaited? = none := by
  rw [awaited?, stack]
  rfl

/-- Whether a call can be part of the innermost transaction although it is of the same level. -/
theorem joinable?_of_cons {t : Tracker} {c : Call} {calls : List Call}
    (stack : t.stack = transactions t.role (c :: calls)) :
    t.joinable? = if c.level = .insideSync then some c.id else none := by
  rw [joinable?, stack]
  rfl

variable {t : Tracker} {mine theirs : Call} {calls : List Call}

/-- A call from the other end that belongs to another transaction waits exactly if it comes after
the call of this end. -/
theorem mustWait_iff_rank (stack : t.stack = transactions t.role (mine :: calls))
    (here : mine.caller = t.role) (there : theirs.caller = t.role.other)
    (second : theirs.Proper) (ne : theirs.id ≠ mine.id) :
    t.mustWait theirs.message mine.level = true ↔ theirs.rank < mine.rank := by
  have foreign : some theirs.message.header.transaction ≠ t.joinable? := by
    rw [joinable?_of_cons stack]
    split
    · exact fun same => ne (Option.some.inj same)
    · exact Option.some_ne_none _
  have level : theirs.message.flags.level = theirs.level := rfl
  simp only [mustWait, second.sync, level, Call.rank, here, there, Level.lt_iff]
  cases role : t.role <;> cases upper : mine.level <;> cases lower : theirs.level <;>
    simp_all [Role.other, Level.number]

/-- A call that is part of the transaction where it arrives waits only if it cannot be nested. -/
theorem levels_of_mustWait_nested (stack : t.stack = transactions t.role (mine :: calls))
    (nested : theirs.id = mine.id) (deep : mine.level ≤ theirs.level) (second : theirs.Proper)
    (waits : t.mustWait theirs.message mine.level = true) : theirs.level = .notNested := by
  have joined : t.joinable? = if mine.level = .insideSync then some theirs.id else none := by
    rw [joinable?_of_cons stack, nested]
  have level : theirs.message.flags.level = theirs.level := rfl
  have number : theirs.message.header.transaction = theirs.id := rfl
  simp only [mustWait, second.sync, level, number, joined, Level.lt_iff] at waits
  rw [Level.le_iff] at deep
  cases role : t.role <;> cases upper : mine.level <;> cases lower : theirs.level <;>
    simp_all [Level.number]

end Tracker

end Interprocess
