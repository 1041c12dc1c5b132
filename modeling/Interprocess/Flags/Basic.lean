import Interprocess.Text.Hex

/-!
# Message flags

A message says how deeply it may nest inside a pending call, how urgent it is for its receiver,
whether it may be merged with others of its kind, and which role it plays: call or notice, reply,
failed reply, constructor of an actor, relayed. `Flags` holds these answers, one field each, so that
every value is a valid one. `Flags.asReplyError` is the only way to mark a failure, and it marks a
reply at the same time.
-/

set_option autoImplicit false

namespace Interprocess

/-- How deeply a message may nest inside a call that its receiver is waiting for. -/
inductive Level
  | notNested
  | insideSync
  | insideCpow
deriving DecidableEq, Repr

namespace Level

/-- The place of a level in the order from the outermost to the innermost. -/
def number : Level → Nat
  | notNested => 1
  | insideSync => 2
  | insideCpow => 3

/-- The level with a given number. -/
def ofNumber? : Nat → Option Level
  | 1 => some notNested
  | 2 => some insideSync
  | 3 => some insideCpow
  | _ => none

/-- The name of a level in texts. -/
def name : Level → String
  | notNested => "NotNested"
  | insideSync => "NestedInsideSync"
  | insideCpow => "NestedInsideCpow"

/-- All levels, outermost first. -/
def all : List Level := [notNested, insideSync, insideCpow]

instance : LE Level := ⟨fun a b => a.number ≤ b.number⟩

instance : LT Level := ⟨fun a b => a.number < b.number⟩

instance (a b : Level) : Decidable (a ≤ b) := inferInstanceAs (Decidable (a.number ≤ b.number))

instance (a b : Level) : Decidable (a < b) := inferInstanceAs (Decidable (a.number < b.number))

instance : Ord Level := ⟨fun a b => compare a.number b.number⟩

/-- A number stands for a level if it is the number of that level. -/
theorem ofNumber?_eq_some_iff {n : Nat} {l : Level} : ofNumber? n = some l ↔ n = l.number := by
  constructor
  · intro h
    unfold ofNumber? at h
    split at h <;> simp_all [number] <;> subst h <;> rfl
  · rintro rfl
    cases l <;> rfl

end Level

/-- How urgently the receiver should handle a message. The order on the wire does not change. -/
inductive Priority
  | normal
  | input
  | vsync
  | mediumHigh
  | control
deriving DecidableEq, Repr

namespace Priority

/-- The place of a priority in the order from the least to the most urgent. -/
def number : Priority → Nat
  | normal => 0
  | input => 1
  | vsync => 2
  | mediumHigh => 3
  | control => 4

/-- The priority with a given number. -/
def ofNumber? : Nat → Option Priority
  | 0 => some normal
  | 1 => some input
  | 2 => some vsync
  | 3 => some mediumHigh
  | 4 => some control
  | _ => none

/-- The name of a priority in texts. -/
def name : Priority → String
  | normal => "Normal"
  | input => "Input"
  | vsync => "Vsync"
  | mediumHigh => "MediumHigh"
  | control => "Control"

/-- All priorities, least urgent first. -/
def all : List Priority := [normal, input, vsync, mediumHigh, control]

instance : LE Priority := ⟨fun a b => a.number ≤ b.number⟩

instance : LT Priority := ⟨fun a b => a.number < b.number⟩

instance (a b : Priority) : Decidable (a ≤ b) := inferInstanceAs (Decidable (a.number ≤ b.number))

instance (a b : Priority) : Decidable (a < b) := inferInstanceAs (Decidable (a.number < b.number))

instance : Ord Priority := ⟨fun a b => compare a.number b.number⟩

/-- A number stands for a priority if it is the number of that priority. -/
theorem ofNumber?_eq_some_iff {n : Nat} {p : Priority} :
    ofNumber? n = some p ↔ n = p.number := by
  constructor
  · intro h
    unfold ofNumber? at h
    split at h <;> simp_all [number] <;> subst h <;> rfl
  · rintro rfl
    cases p <;> rfl

/-- Different priorities have different numbers. -/
theorem number_injective {p q : Priority} (same : p.number = q.number) : p = q := by
  have found : ofNumber? p.number = some p := ofNumber?_eq_some_iff.2 rfl
  rw [ofNumber?_eq_some_iff.2 same] at found
  exact (Option.some.inj found).symm

/-- The list of priorities leaves none out. -/
theorem mem_all (p : Priority) : p ∈ all := by
  cases p <;> decide

end Priority

/-- Whether a later message of the same kind may stand for this one. -/
inductive Compression
  | none
  | enabled
  | all
deriving DecidableEq, Repr

/-- The name of a compression in texts. -/
def Compression.name : Compression → String
  | none => "None"
  | enabled => "Enabled"
  | all => "All"

/-- A number that stands for no level or no priority. -/
inductive UnknownNumber
  | level (n : Nat)
  | priority (n : Nat)
deriving DecidableEq, Repr

/-- The text of an unknown number. -/
def UnknownNumber.message : UnknownNumber → String
  | level n => s!"No discriminant in enum `NestedLevel` matches the value `{n}`"
  | priority n => s!"No discriminant in enum `Priority` matches the value `{n}`"

/-- The level with a given number, or what is wrong with the number. -/
def Level.ofNumber (n : Nat) : Except UnknownNumber Level :=
  match Level.ofNumber? n with
  | some l => .ok l
  | none => .error (.level n)

/-- The priority with a given number, or what is wrong with the number. -/
def Priority.ofNumber (n : Nat) : Except UnknownNumber Priority :=
  match Priority.ofNumber? n with
  | some p => .ok p
  | none => .error (.priority n)

/-- What a message says about itself besides its address and its content. -/
structure Flags where
  /-- How deeply the message may nest inside a pending call. -/
  level : Level := .notNested
  /-- How urgent the message is for its receiver. -/
  priority : Priority := .normal
  /-- Whether a later message may stand for this one. -/
  compression : Compression := .none
  /-- Whether the message may wait before it is sent. -/
  lazySend : Bool := false
  /-- Whether handling the message creates an actor. -/
  constructor : Bool := false
  /-- Whether the sender waits for a reply, or, of a reply, whether its call did. -/
  sync : Bool := false
  /-- Whether the message answers a call. -/
  reply : Bool := false
  /-- Whether the message says that a call could not be dispatched. -/
  replyError : Bool := false
  /-- Whether the message travels through a third party. -/
  relay : Bool := false
deriving DecidableEq, Repr

namespace Flags

instance : Inhabited Flags := ⟨{}⟩

/-- Marks a message as one that creates an actor. -/
def asConstructor (f : Flags) : Flags := { f with constructor := true }

/-- Marks a message as synchronous. -/
def asSync (f : Flags) : Flags := { f with sync := true }

/-- Marks a message as a reply. -/
def asReply (f : Flags) : Flags := { f with reply := true }

/-- Marks a message as a reply that reports a failure. -/
def asReplyError (f : Flags) : Flags := { f with reply := true, replyError := true }

/-- Says whether a message travels through a third party. -/
def withRelay (f : Flags) (relay : Bool) : Flags := { f with relay := relay }

/-- The flags as one line of text. -/
def describe (f : Flags) : String :=
  s!"HeaderFlags \x7b level: {f.level.name}, priority: {f.priority.name}, " ++
    s!"compression: {f.compression.name}, sync: {f.sync}, reply: {f.reply}, " ++
    s!"reply_error: {f.replyError}, lazy_send: {f.lazySend}, constructor: {f.constructor}, " ++
    s!"relay: {f.relay} \x7d"

end Flags

end Interprocess
