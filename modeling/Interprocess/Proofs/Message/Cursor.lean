import Interprocess.Proofs.Message.Places
import Interprocess.Proofs.Message.Scan

/-!
# Reading step by step

A reader of a payload has the bytes before it that are still to be read, and cuts its fields off
their front. It rounds lengths up in 64 bits, cuts a row where it may be too short, and takes
numbers out of rows that may be too short. `Cursor` is this reader, and has no outcome where one of
these steps cannot be made. `Follows` says that there always is an outcome, and that it is the one
of a read that keeps a place in the whole payload. Together with what a read comes to on any bytes
this gives the main statement, `Message.read_in_place`.
-/

set_option autoImplicit false

namespace Interprocess

/-! ## Cursors -/

/-- The bytes that are still to be read, and the attachments that are left. -/
structure Cursor where
  rest : ByteArray
  attachments : Attachments

/-- Reads at a cursor. A failed read keeps the cursor that it came to, and where a step cannot be
made there is no outcome. -/
abbrev CursorM := ExceptT ReadError (StateT Cursor Option)

namespace Cursor

/-- Cuts bytes off, together with what fills them up to a whole word. -/
def takeAligned (length : Nat) : CursorM ByteArray := do
  let aligned ← Scan.aligned length
  let c ← get
  if c.rest.size < aligned then
    throw (.underflow aligned c.rest.size)
  let (head, tail) ← Scan.cut aligned c.rest
  set { c with rest := tail }
  let (front, _) ← Scan.cut length head
  return front

/-- Takes a 32-bit number off. -/
def readU32 : CursorM UInt32 := do
  let (x, _) ← Scan.nextWord (← takeAligned 4)
  return x

/-- Takes a signed 32-bit number off. -/
def readI32 : CursorM Int32 := do
  return (← readU32).toInt32

/-- Takes a 64-bit number off. -/
def readU64 : CursorM UInt64 := do
  let (front, _) ← Scan.cut 8 (← takeAligned 8)
  return UInt64.ofNat (Word.ofBytes front.data.toList)

/-- Takes a signed 64-bit number off. -/
def readI64 : CursorM Int64 := do
  return (← readU64).toInt64

/-- Takes a word off that is zero or one. -/
def readBool : CursorM Bool := do
  let word ← readU32
  if word = 0 then
    return false
  else if word = 1 then
    return true
  else
    throw (.invalidBool word)

/-- Takes a length off and then as many bytes. -/
def readData : CursorM ByteArray := do
  takeAligned (← readU32).toNat

/-- Takes a text off. Bytes that are no text are taken off as well. -/
def readText : CursorM String := do
  match Utf8.decode (← readData) with
  | .ok text => return text
  | .error fault => throw (.invalidText fault)

/-- Takes a slot number off and moves out what lies in that slot. -/
def consume {α : Type} (row : Row α) : CursorM α := do
  let index := (← readU32).toNat
  match (row.of (← get).attachments).takeAt index with
  | (some a, s) =>
    modify fun c => { c with attachments := row.put c.attachments s }
    return a
  | (none, _) => throw (row.missing index)

/-- Reads a field of a kind. -/
def read : Field.Kind → CursorM Field
  | .u32 => return .u32 (← readU32)
  | .i32 => return .i32 (← readI32)
  | .u64 => return .u64 (← readU64)
  | .i64 => return .i64 (← readI64)
  | .bool => return .bool (← readBool)
  | .bytes length => return .bytes (← takeAligned length)
  | .data => return .data (← readData)
  | .text => return .text (← readText)
  | .handle => return .handle (← consume .handles)
  | .port => return .port (← consume .ports)

/-- Reads one field after the other, whether or not the ones before could be read. -/
def attempts : List Field.Kind → Cursor → Option (List (Except ReadError Field) × Cursor)
  | [], c => some ([], c)
  | kind :: kinds, c => do
    let (one, c) ← (read kind).run.run c
    let (others, c) ← attempts kinds c
    return (one :: others, c)

end Cursor

namespace Reader

/-- What a reader has before it. -/
def cursor (r : Reader) : Cursor where
  rest := r.message.payload.extract r.place r.message.payload.size
  attachments := r.message.attachments

/-- A result as it is seen from the cursor. -/
def seen {α : Type} : EStateM.Result ReadError Reader α → Except ReadError α × Cursor
  | .ok a s => (.ok a, s.cursor)
  | .error e s => (.error e, s.cursor)

/-- Reads one field after the other, whether or not the ones before could be read. -/
def attempts : List Field.Kind → Reader → List (Except ReadError Field) × Reader
  | [], r => ([], r)
  | kind :: kinds, r =>
    let one := kind.read.run r
    let (others, s) := attempts kinds (leaving one)
    ((seen one).1 :: others, s)

end Reader

/-! ## Following a read -/

/-- A step at a cursor that can always be made, and comes to what a read comes to. -/
def Follows {α : Type} (step : CursorM α) (read : ReadM α) : Prop :=
  ∀ r : Reader, r.place ≤ r.message.payload.size →
    step.run.run r.cursor = some (Reader.seen (read.run r)) ∧
      (leaving (read.run r)).place ≤ (leaving (read.run r)).message.payload.size

/-- Without a step there is nothing that could not be made. -/
theorem follows_pure {α : Type} (a : α) : Follows (pure a) (pure a) := fun _ inside => ⟨rfl, inside⟩

/-- Failing is a step that can always be made. -/
theorem follows_throw {α : Type} (e : ReadError) : Follows (throw e : CursorM α) (throw e) :=
  fun _ inside => ⟨rfl, inside⟩

/-- Two steps are made one after the other, up to the first that cannot be made or fails. -/
theorem run_bind {α β : Type} (step : CursorM α) (next : α → CursorM β) (c : Cursor) :
    (step >>= next).run.run c =
      match step.run.run c with
      | none => none
      | some (.ok a, c) => (next a).run.run c
      | some (.error e, c) => some (.error e, c) := by
  rw [ExceptT.run_bind, StateT.run_bind]
  cases step.run.run c with
  | none => rfl
  | some one =>
    obtain ⟨result, c⟩ := one
    cases result with
    | ok a => rfl
    | error e => rfl

/-- Looking at a cursor leaves it where it is. -/
theorem run_get (c : Cursor) : (get : CursorM Cursor).run.run c = some (.ok c, c) := rfl

/-- Moving a cursor can always be done. -/
theorem run_set (c s : Cursor) : (set s : CursorM PUnit).run.run c = some (.ok ⟨⟩, s) := rfl

/-- A step that changes nothing can be made if it has a value. -/
theorem run_liftM {α : Type} (o : Option α) (c : Cursor) :
    (liftM o : CursorM α).run.run c = o.map fun a => (.ok a, c) := by
  cases o <;> rfl

/-- Steps are followed one after the other. The second one may rely on what the first one comes
to. -/
theorem follows_bind {α β : Type} {step : CursorM α} {read : ReadM α} {next : α → CursorM β}
    {later : α → ReadM β} (first : Follows step read)
    (second : ∀ a, (∃ r s, read.run r = .ok a s) → Follows (next a) (later a)) :
    Follows (step >>= next) (read >>= later) := by
  intro r inside
  obtain ⟨run, stays⟩ := first r inside
  rw [run_bind, run, EStateM.run_bind]
  cases outcome : read.run r with
  | ok a s =>
    rw [outcome] at stays
    exact second a ⟨r, s, outcome⟩ s stays
  | error e s =>
    rw [outcome] at stays
    exact ⟨rfl, stays⟩

/-- Bytes are cut off as they are read, if their number can be rounded up. -/
theorem follows_takeAligned {length : Nat} (room : length + 4 ≤ lengthLimit) :
    Follows (Cursor.takeAligned length) (Reader.readBytes length) := by
  intro r inside
  have size : r.cursor.rest.size = r.remaining := by
    rw [Reader.cursor, ByteArray.size_extract, Nat.min_self, Reader.remaining]
  unfold Cursor.takeAligned
  rw [Reader.run_readBytes, run_bind, run_liftM, Scan.aligned_of_add_le room]
  by_cases short : r.remaining < align length
  · rw [if_pos short]
    refine ⟨?_, inside⟩
    simp only [Option.map_some, run_bind, run_get, size, if_pos short]
    rfl
  · have there : align length ≤ r.cursor.rest.size := size ▸ Nat.le_of_not_lt short
    have head : length ≤ (r.cursor.rest.extract 0 (align length)).size := by
      have := le_align length
      rw [ByteArray.size_extract]
      omega
    rw [if_neg short]
    simp only [Option.map_some, run_bind, run_get, size, if_neg short, run_liftM,
      Scan.cut_of_le there, run_set, Scan.cut_of_le head]
    have longer := le_align length
    rw [size, Reader.remaining] at there
    have row : (r.cursor.rest.extract 0 (align length)).extract 0 length =
        r.message.payload.extract r.place (r.place + length) := by
      rw [Reader.cursor, ByteArray.extract_extract, ByteArray.extract_extract]
      simp only [Nat.add_zero, Nat.zero_add]
      rw [Nat.min_eq_left longer, Nat.min_eq_left (by omega)]
    have tail : r.cursor.rest.extract (align length) r.remaining =
        r.message.payload.extract (r.place + align length) r.message.payload.size := by
      rw [Reader.cursor, ByteArray.extract_extract, Reader.remaining, Nat.add_sub_cancel' inside,
        Nat.min_self]
    rw [row, tail]
    refine ⟨rfl, ?_⟩
    show r.place + align length ≤ r.message.payload.size
    omega

/-- Bytes that were read are as many as were asked for. -/
theorem size_of_readBytes {length : Nat} {bs : ByteArray} {r s : Reader}
    (read : (Reader.readBytes length).run r = .ok bs s) : bs.size = length := by
  rw [Reader.run_readBytes] at read
  split at read
  · contradiction
  · next there =>
    obtain ⟨rfl, -⟩ := EStateM.Result.ok.inj read
    exact Reader.size_extract (Nat.le_trans (le_align length) (Nat.le_of_not_lt there))

/-- A word is cut off as it is read. -/
theorem follows_readU32 : Follows Cursor.readU32 Reader.readU32 := by
  refine follows_bind (follows_takeAligned (by decide)) fun bs ⟨r, s, read⟩ => ?_
  -- what was cut off is a whole word, so a word can be taken from it
  have size := size_of_readBytes read
  have word : Scan.nextWord bs = some (Word.value bs.data.toList, bs.extract 4 bs.size) := by
    have front : bs.extract 0 4 = bs := by rw [← size, ByteArray.extract_zero_size]
    rw [Scan.nextWord, Scan.cut_of_le (Nat.le_of_eq size.symm), front]
    rfl
  rw [word]
  exact follows_pure _

/-- A 64-bit number is cut off as it is read. -/
theorem follows_readU64 : Follows Cursor.readU64 Reader.readU64 := by
  refine follows_bind (follows_takeAligned (by decide)) fun bs ⟨r, s, read⟩ => ?_
  have size := size_of_readBytes read
  have front : bs.extract 0 8 = bs := by rw [← size, ByteArray.extract_zero_size]
  rw [Scan.cut_of_le (Nat.le_of_eq size.symm), front]
  exact follows_pure _

/-- A truth value is cut off as it is read. -/
theorem follows_readBool : Follows Cursor.readBool Reader.readBool := by
  refine follows_bind follows_readU32 fun word _ => ?_
  split
  · exact follows_pure false
  split
  · exact follows_pure true
  · exact follows_throw _

/-- Bytes behind their length are cut off as they are read, since every word can be rounded up. -/
theorem follows_readData : Follows Cursor.readData Reader.readData := by
  refine follows_bind follows_readU32 fun length _ => follows_takeAligned ?_
  have small : length.toNat < 4294967296 := length.toNat_lt
  rw [lengthLimit]
  omega

/-- A text is cut off as it is read. -/
theorem follows_readText : Follows Cursor.readText Reader.readText := by
  refine follows_bind follows_readData fun bs _ => ?_
  cases Utf8.decode bs with
  | ok text => exact follows_pure text
  | error fault => exact follows_throw _

/-- A cursor has the attachments of the message that is read. -/
@[simp] theorem attachments_cursor (r : Reader) : r.cursor.attachments = r.message.attachments := rfl

/-- What lies in a slot is moved out at the cursor as by the reader. -/
theorem follows_consume {α : Type} (row : Row α) : Follows (Cursor.consume row) row.consume := by
  refine follows_bind follows_readU32 fun index _ => fun r inside => ?_
  simp only [run_bind, run_get, EStateM.run_bind, EStateM.run_get, attachments_cursor, Row.slots]
  cases (row.of r.message.attachments).takeAt index.toNat with
  | mk found left =>
    cases found with
    | some a => exact ⟨rfl, inside⟩
    | none => exact ⟨rfl, inside⟩

/-- What was read is made a field. -/
theorem follows_map {α β : Type} {step : CursorM α} {read : ReadM α} (g : α → β)
    (follows : Follows step read) :
    Follows (do return g (← step)) (do return g (← read)) :=
  follows_bind follows fun a _ => follows_pure (g a)

/-- Every field is cut off as it is read, if the number of bytes that is asked for can be rounded
up. -/
theorem follows_read {kind : Field.Kind}
    (countable : ∀ length, kind = .bytes length → length + 4 ≤ lengthLimit) :
    Follows (Cursor.read kind) kind.read := by
  cases kind with
  | u32 => exact follows_map _ follows_readU32
  | i32 => exact follows_map _ (follows_map _ follows_readU32)
  | u64 => exact follows_map _ follows_readU64
  | i64 => exact follows_map _ (follows_map _ follows_readU64)
  | bool => exact follows_map _ follows_readBool
  | bytes length => exact follows_map _ (follows_takeAligned (countable length rfl))
  | data => exact follows_map _ follows_readData
  | text => exact follows_map _ follows_readText
  | handle => exact follows_map _ (follows_consume .handles)
  | port => exact follows_map _ (follows_consume .ports)

/-! ## Reads in a row -/

/-- The cursor that a result shows is the one that the read leaves behind. -/
theorem seen_snd {α : Type} (o : EStateM.Result ReadError Reader α) :
    (Reader.seen o).2 = (leaving o).cursor := by
  cases o <;> rfl

/-- Reads in a row are followed, also behind those that failed. -/
theorem attempts_cursor {kinds : List Field.Kind}
    (countable : ∀ length, .bytes length ∈ kinds → length + 4 ≤ lengthLimit) {r : Reader}
    (inside : r.place ≤ r.message.payload.size) :
    r.cursor.attempts kinds = some ((r.attempts kinds).1, (r.attempts kinds).2.cursor) := by
  induction kinds generalizing r with
  | nil => rfl
  | cons kind kinds ih =>
    have here : ∀ length, kind = .bytes length → length + 4 ≤ lengthLimit :=
      fun length same => countable length (same ▸ List.mem_cons_self)
    obtain ⟨read, stays⟩ := follows_read here r inside
    have others := ih (fun length later => countable length (List.mem_cons_of_mem _ later)) stays
    rw [Cursor.attempts, read]
    simp only [Option.bind_eq_bind, Option.bind_some, seen_snd, others]
    rfl

/-- A reader stays at whole words of the same payload. -/
theorem Reader.Aligned.attempts {r : Reader} (aligned : r.Aligned) (kinds : List Field.Kind) :
    (r.attempts kinds).2.Aligned ∧
      (r.attempts kinds).2.message.payload = r.message.payload := by
  induction kinds generalizing r with
  | nil => exact ⟨aligned, rfl⟩
  | cons kind kinds ih =>
    obtain ⟨stays, same⟩ := ih (aligned.read kind)
    exact ⟨stays, same.trans (Message.readsOnly_read kind r).payload⟩

namespace Message

/-- The cursor at the beginning of a message's payload. -/
def cursor (m : Message) : Cursor := { rest := m.payload, attachments := m.attachments }

/-- A reader at the beginning of a message has all of its payload before it. -/
theorem cursor_reader (m : Message) : m.reader.cursor = m.cursor := by
  rw [Reader.cursor, cursor]
  exact congrArg (Cursor.mk · m.attachments) ByteArray.extract_zero_size

/-- A payload may be read that comes from anywhere, with any attachments left, by any reads in a
row. Every step of every read can be made, if no length is given that cannot be rounded up in 64
bits. What is before the reader is the payload from a whole word on. What the next read comes to
depends on the bytes there, and on nothing else: it gives a field if these are the bytes of one, and
passes over them and what fills them up; or it fails, and passes over nothing, over one word, or
over a text that is none. -/
theorem read_in_place (m : Message) {kinds : List Field.Kind}
    (countable : ∀ length, .bytes length ∈ kinds → length + 4 ≤ lengthLimit) :
    let r := (m.reader.attempts kinds).2
    m.cursor.attempts kinds = some ((m.reader.attempts kinds).1, r.cursor) ∧
      r.cursor.rest = m.payload.extract r.place m.payload.size ∧
      r.place ≤ m.payload.size ∧ r.place % 4 = 0 ∧
      ∀ kind outcome, kind.read.run r = outcome ↔ r.Reads kind outcome := by
  intro r
  have start : m.reader.Aligned := ⟨Nat.zero_le _, rfl⟩
  obtain ⟨aligned, same⟩ := start.attempts kinds
  have same : r.message.payload = m.payload := same
  refine ⟨?_, by rw [Reader.cursor, same], same ▸ aligned.inside, aligned.whole, r.run_read_eq_iff⟩
  rw [← cursor_reader]
  exact attempts_cursor countable start.inside

/-- A word that is no truth value, a length that cannot be there, and two bytes too few for a
word. -/
def hostile : Message :=
  { addressed 1 2 {} with payload := ⟨#[2, 0, 0, 0, 255, 255, 255, 255, 1, 0]⟩ }

/-- Reads of which the last one gives the greatest length that can be rounded up. -/
def hopeful : List Field.Kind := [.bool, .text, .u32, .bytes 18446744073709551612]

/-- The reader passes over the first two words and stays where they end. -/
theorem read_in_place_hostile :
    (∀ length, .bytes length ∈ hopeful → length + 4 ≤ lengthLimit) ∧
      (hostile.cursor.attempts hopeful).map Prod.fst =
        some [.error (.invalidBool 2), .error (.underflow 4294967296 2), .error (.underflow 4 2),
          .error (.underflow 18446744073709551612 2)] ∧
      (hostile.reader.attempts hopeful).2.cursor.rest = ⟨#[1, 0]⟩ := by
  have countable : ∀ length, .bytes length ∈ hopeful → length + 4 ≤ lengthLimit := by
    intro length mem
    obtain rfl : length = 18446744073709551612 := by simpa [hopeful] using mem
    decide
  obtain ⟨same, rest, -⟩ := hostile.read_in_place countable
  refine ⟨countable, ?_, ?_⟩
  · rw [same, Option.map_some]
    exact congrArg some rfl
  · rw [rest]
    decide +kernel

end Message

end Interprocess
