import Interprocess.Message.Basic
import Interprocess.Text.Utf8
import Interprocess.Wire.Word

/-!
# Reading messages

A reader walks over the payload of a message in the order it was written, and moves the attachments
that the payload refers to out of the message. A read that fails keeps what it had consumed by then:
nothing if the first bytes are missing, the word that turned out to be bad or to promise too much,
or the whole field if its bytes are not text.
-/

set_option autoImplicit false

namespace Interprocess

/-- A message and the place up to which its payload was read. -/
structure Reader where
  /-- The message that is read. -/
  message : Message
  /-- The bytes of the payload that were read. -/
  place : Nat := 0
deriving DecidableEq

/-- Why a field cannot be read. -/
inductive ReadError
  | underflow (requested remaining : Nat)
  | invalidBool (word : UInt32)
  | invalidText (fault : Utf8.Fault)
  | missingHandle (index : Nat)
  | missingPort (index : Nat)
deriving DecidableEq, Repr

/-- The text of a failed read. -/
def ReadError.message : ReadError → String
  | underflow requested remaining =>
    s!"payload underflow: {requested} bytes requested, {remaining} remaining"
  | invalidBool word => s!"invalid bool value {word}"
  | invalidText fault => fault.message
  | missingHandle index => s!"file handle #{index} is missing or was consumed already"
  | missingPort index => s!"port #{index} is missing or was consumed already"

/-- Reads from one payload. A failed read keeps the place that it came to. -/
abbrev ReadM := EStateM ReadError Reader

/-- A reader at the beginning of a message's payload. -/
def Message.reader (m : Message) : Reader := { message := m }

namespace Reader

/-- The bytes that are still to be read. -/
def remaining (r : Reader) : Nat := r.message.payload.size - r.place

/-- Whether the payload was read to its end. -/
def isEmpty (r : Reader) : Bool := r.remaining == 0

/-- Reads bytes and passes over what fills them up to a whole word. -/
def readBytes (length : Nat) : ReadM ByteArray := do
  let r ← get
  if r.remaining < align length then
    throw (.underflow (align length) r.remaining)
  set { r with place := r.place + align length }
  return r.message.payload.extract r.place (r.place + length)

/-- Reads a 32-bit word. -/
def readU32 : ReadM UInt32 := do
  return Word.value (← readBytes 4).data.toList

/-- Reads a signed 32-bit word. -/
def readI32 : ReadM Int32 := do
  return (← readU32).toInt32

/-- Reads a 64-bit number. -/
def readU64 : ReadM UInt64 := do
  return UInt64.ofNat (Word.ofBytes (← readBytes 8).data.toList)

/-- Reads a signed 64-bit number. -/
def readI64 : ReadM Int64 := do
  return (← readU64).toInt64

/-- Reads a truth value, which only the words zero and one are. -/
def readBool : ReadM Bool := do
  let word ← readU32
  if word = 0 then
    return false
  else if word = 1 then
    return true
  else
    throw (.invalidBool word)

/-- Reads bytes behind their number. -/
def readData : ReadM ByteArray := do
  readBytes (← readU32).toNat

/-- Reads a text. -/
def readText : ReadM String := do
  match Utf8.decode (← readData) with
  | .ok text => return text
  | .error fault => throw (.invalidText fault)

/-- Bytes are read at the reader's place, if what they take with their filling is still there. -/
theorem run_readBytes (length : Nat) (r : Reader) :
    (readBytes length).run r =
      if r.remaining < align length then .error (.underflow (align length) r.remaining) r
      else
        .ok (r.message.payload.extract r.place (r.place + length))
          { r with place := r.place + align length } := by
  show (if r.remaining < align length then throw (.underflow (align length) r.remaining)
    else do
      set { r with place := r.place + align length }
      return r.message.payload.extract r.place (r.place + length) : ReadM ByteArray).run r = _
  split <;> rfl

/-- A word is read if its four bytes are still there. -/
theorem run_readU32 (r : Reader) :
    readU32.run r =
      if r.remaining < 4 then .error (.underflow 4 r.remaining) r
      else
        .ok (Word.value (r.message.payload.extract r.place (r.place + 4)).data.toList)
          { r with place := r.place + 4 } := by
  have bytes := run_readBytes 4 r
  rw [show align 4 = 4 from rfl] at bytes
  unfold readU32
  simp only [EStateM.run, bind, EStateM.bind] at bytes ⊢
  rw [bytes]
  by_cases short : r.remaining < 4
  · rw [if_pos short, if_pos short]
  · rw [if_neg short, if_neg short]
    rfl

/-- The word at the reader's place. -/
def word (r : Reader) : UInt32 :=
  Word.value (r.message.payload.extract r.place (r.place + 4)).data.toList

end Reader

namespace Row

/-- Why nothing can be moved out of a slot. -/
def missing : {α : Type} → Row α → Nat → ReadError
  | _, handles, i => .missingHandle i
  | _, ports, i => .missingPort i

variable {α : Type}

/-- Reads a slot number and moves out what lies in that slot. -/
def consume (row : Row α) : ReadM α := do
  let index := (← Reader.readU32).toNat
  match (row.slots (← get).message).takeAt index with
  | (some a, s) =>
    modify fun r => { r with message := row.replace r.message s }
    return a
  | (none, _) => throw (row.missing index)

/-- A number is read before its slot is looked at, so it is passed over in any case. What lies in
the slot is moved out, and nothing else. -/
theorem run_consume (row : Row α) (r : Reader) :
    row.consume.run r =
      if r.remaining < 4 then .error (.underflow 4 r.remaining) r
      else
        match (row.slots r.message).get? r.word.toNat with
        | some a =>
          .ok a
            { place := r.place + 4
              message := row.replace r.message ((row.slots r.message).takeAt r.word.toNat).2 }
        | none => .error (row.missing r.word.toNat) { r with place := r.place + 4 } := by
  unfold consume
  rw [EStateM.run_bind, Reader.run_readU32]
  by_cases short : r.remaining < 4
  · rw [if_pos short, if_pos short]
  · rw [if_neg short, if_neg short, ← Reader.word, ← Slots.takeAt_fst]
    simp only [EStateM.run_bind, EStateM.run_get]
    cases (row.slots r.message).takeAt r.word.toNat with
    | mk found left =>
      cases found with
      | none => rfl
      | some a => rfl

/-- What a filled slot holds is moved out of it. -/
theorem run_consume_of_some (row : Row α) {r : Reader} {a : α} (there : 4 ≤ r.remaining)
    (found : (row.slots r.message).get? r.word.toNat = some a) :
    row.consume.run r =
      .ok a
        { place := r.place + 4
          message := row.replace r.message ((row.slots r.message).takeAt r.word.toNat).2 } := by
  rw [run_consume, if_neg (Nat.not_lt.2 there), found]

/-- The number of a slot that is empty or not there is passed over. -/
theorem run_consume_of_none (row : Row α) {r : Reader} (there : 4 ≤ r.remaining)
    (none : (row.slots r.message).get? r.word.toNat = .none) :
    row.consume.run r = .error (row.missing r.word.toNat) { r with place := r.place + 4 } := by
  rw [run_consume, if_neg (Nat.not_lt.2 there), none]

end Row

namespace Reader

/-- Reads a slot number and moves the file handle out of that slot. -/
def readHandle : ReadM Handle := Row.handles.consume

/-- Reads a slot number and moves the port out of that slot. -/
def readPort : ReadM Port := Row.ports.consume

end Reader

end Interprocess
