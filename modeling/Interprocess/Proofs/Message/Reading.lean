import Interprocess.Proofs.Message.Fields

/-!
# Reading fields back

A reader faces the bytes that it has not read yet. Where these begin with the image of a field, and
the slot that the image names holds the field's attachment, the read that matches the field gives it
back: `Reader.Before.read`. So fields that were written are read back one after the other, and every
slot is empty in the end (`Reader.Before.readAll`).
-/

set_option autoImplicit false

namespace Interprocess

/-! ## Slots that are emptied from the front -/

/-- A row of slots whose first ones are empty and whose other ones hold these attachments. -/
def Slots.From {α : Type} (s : Slots α) (n : Nat) (as : List α) : Prop :=
  s.toList = List.replicate n none ++ as.map some

/-- The first attachment that is left lies in the first filled slot. -/
theorem Slots.From.get? {α : Type} {s : Slots α} {n : Nat} {a : α} {as : List α}
    (rest : s.From n (a :: as)) : s.get? n = some a := by
  rw [Slots.get?_eq, rest]
  simp

/-- If nothing is left, all slots are empty. -/
theorem Slots.From.eq_none {α : Type} {s : Slots α} {n : Nat} (rest : s.From n []) :
    ∀ cell ∈ s.toList, cell = none := by
  intro cell mem
  rw [rest, List.map_nil, List.append_nil] at mem
  exact (List.mem_replicate.1 mem).2

/-- Taking the first attachment that is left leaves the others behind one more empty slot. -/
theorem Slots.From.takeAt {α : Type} {s : Slots α} {n : Nat} {a : α} {as : List α}
    (rest : s.From n (a :: as)) : s.takeAt n = (some a, (s.takeAt n).2) ∧
      (s.takeAt n).2.From (n + 1) as := by
  constructor
  · rw [← rest.get?, ← Slots.takeAt_fst]
  · rw [Slots.From, Slots.toList_takeAt, rest, List.replicate_succ']
    simp

namespace Reader

/-- A reader that has passed over some bytes. -/
def advance (r : Reader) (n : Nat) : Reader := { r with place := r.place + n }

/-- Passing over bytes leaves the message as it is. -/
@[simp] theorem message_advance (r : Reader) (n : Nat) : (r.advance n).message = r.message := rfl

/-- A reader has these bytes before it. -/
def Facing (r : Reader) (bs : ByteArray) : Prop :=
  ∃ passed, r.message.payload = passed ++ bs ∧ r.place = passed.size

/-- The bytes that a reader faces are all that remain. -/
theorem Facing.remaining {r : Reader} {bs : ByteArray} (facing : r.Facing bs) :
    r.remaining = bs.size := by
  obtain ⟨passed, payload, place⟩ := facing
  rw [Reader.remaining, payload, place, ByteArray.size_append, Nat.add_sub_cancel_left]

variable {r : Reader} {rest : ByteArray}

/-- A row of bytes is read, and what fills it is passed over. -/
theorem Facing.readBytes {bs : ByteArray} (facing : r.Facing (filled bs ++ rest)) :
    (Reader.readBytes bs.size).run r = .ok bs (r.advance (align bs.size)) ∧
      (r.advance (align bs.size)).Facing rest := by
  have enough : ¬ r.remaining < align bs.size := by
    rw [facing.remaining, ByteArray.size_append, size_filled]
    omega
  obtain ⟨passed, payload, place⟩ := facing
  constructor
  · have row : r.message.payload.extract r.place (r.place + bs.size) = bs := by
      rw [payload, filled, ByteArray.append_assoc]
      exact extract_between passed bs _ place
    rw [run_readBytes, if_neg enough, row]
    rfl
  · refine ⟨passed ++ filled bs, ?_, ?_⟩
    · rw [ByteArray.append_assoc]
      exact payload
    · rw [ByteArray.size_append, size_filled, ← place]
      rfl

/-- A word that the reader faces is read. -/
theorem Facing.readU32 {x : UInt32} (facing : r.Facing (filled (wordRow x) ++ rest)) :
    Reader.readU32.run r = .ok x (r.advance 4) ∧ (r.advance 4).Facing rest := by
  obtain ⟨run, further⟩ := facing.readBytes
  rw [size_wordRow] at run further
  refine ⟨?_, further⟩
  have value : Word.value (wordRow x).data.toList = x := by
    rw [wordRow, List.data_toByteArray, Word.value_bytes]
  unfold Reader.readU32
  rw [EStateM.run_bind, run]
  show EStateM.Result.ok (Word.value (wordRow x).data.toList) (r.advance (align 4)) = _
  rw [value]
  rfl

/-- A 64-bit number that the reader faces is read. -/
theorem Facing.readU64 {x : UInt64} (facing : r.Facing (filled (longRow x) ++ rest)) :
    Reader.readU64.run r = .ok x (r.advance 8) ∧ (r.advance 8).Facing rest := by
  obtain ⟨run, further⟩ := facing.readBytes
  rw [size_longRow] at run further
  refine ⟨?_, further⟩
  have value : UInt64.ofNat (Word.ofBytes (longRow x).data.toList) = x := by
    have small : x.toNat < Word.capacity 8 := x.toNat_lt
    rw [longRow, List.data_toByteArray, Word.ofBytes_toBytes_of_lt small, UInt64.ofNat_toNat]
  unfold Reader.readU64
  rw [EStateM.run_bind, run]
  show EStateM.Result.ok (UInt64.ofNat (Word.ofBytes (longRow x).data.toList))
    (r.advance (align 8)) = _
  rw [value]
  rfl

/-- A truth value that the reader faces is read. -/
theorem Facing.readBool {b : Bool}
    (facing : r.Facing (filled (wordRow (if b then 1 else 0)) ++ rest)) :
    Reader.readBool.run r = .ok b (r.advance 4) ∧ (r.advance 4).Facing rest := by
  obtain ⟨run, further⟩ := facing.readU32
  refine ⟨?_, further⟩
  unfold Reader.readBool
  rw [EStateM.run_bind, run]
  cases b <;> rfl

/-- Bytes are read behind their number, which is small enough to be one word. -/
theorem Facing.readData {bs : ByteArray} (room : 4 + align bs.size < wordLimit)
    (facing : r.Facing (filled (wordRow (UInt32.ofNat bs.size)) ++ filled bs ++ rest)) :
    Reader.readData.run r = .ok bs (r.advance (4 + align bs.size)) ∧
      (r.advance (4 + align bs.size)).Facing rest := by
  have small : bs.size < wordLimit := by
    have := le_align bs.size
    omega
  rw [ByteArray.append_assoc] at facing
  obtain ⟨counted, behind⟩ := facing.readU32
  obtain ⟨run, further⟩ := behind.readBytes
  have place : (r.advance 4).advance (align bs.size) = r.advance (4 + align bs.size) := by
    simp only [advance, Nat.add_assoc]
  rw [place] at run further
  refine ⟨?_, further⟩
  unfold Reader.readData
  rw [EStateM.run_bind, counted]
  show (Reader.readBytes (UInt32.ofNat bs.size).toNat).run (r.advance 4) = _
  rw [UInt32.toNat_ofNat_of_lt' small, run]

/-- A text that the reader faces behind its length is read. -/
theorem Facing.readText {s : String} (room : 4 + align (Utf8.encode s).size < wordLimit)
    (facing : r.Facing (filled (wordRow (UInt32.ofNat (Utf8.encode s).size)) ++
      filled (Utf8.encode s) ++ rest)) :
    Reader.readText.run r = .ok s (r.advance (4 + align (Utf8.encode s).size)) ∧
      (r.advance (4 + align (Utf8.encode s).size)).Facing rest := by
  obtain ⟨run, further⟩ := facing.readData room
  refine ⟨?_, further⟩
  unfold Reader.readText
  rw [EStateM.run_bind, run]
  simp only [Utf8.decode_encode]
  rfl

/-- A reader whose message has these slots left in a row. -/
def withSlots {α : Type} (r : Reader) (row : Row α) (s : Slots α) : Reader :=
  { r with message := row.replace r.message s }

/-- What lies in the slot that a word numbers is read, and is moved out of that slot. -/
theorem Facing.consume {α : Type} (row : Row α) {a : α} {index : Nat} {as : List α}
    (small : index < wordLimit)
    (facing : r.Facing (filled (wordRow (UInt32.ofNat index)) ++ rest))
    (slots : (row.slots r.message).From index (a :: as)) :
    row.consume.run r =
        .ok a ((r.advance 4).withSlots row ((row.slots r.message).takeAt index).2) ∧
      ((r.advance 4).withSlots row ((row.slots r.message).takeAt index).2).Facing rest := by
  obtain ⟨run, further⟩ := facing.readU32
  refine ⟨?_, further⟩
  unfold Row.consume
  rw [EStateM.run_bind, run]
  simp only [UInt32.toNat_ofNat_of_lt' small]
  rw [EStateM.run_bind, EStateM.run_get]
  have taken : (row.slots (r.advance 4).message).takeAt index = _ := slots.takeAt.1
  simp only [taken]
  rfl

/-- A reader before some fields: their images are the bytes that it faces, and from given slot
numbers on their attachments are all that is left. -/
structure Before (r : Reader) (h p : Nat) (fs : List Field) : Prop where
  facing : r.Facing (Field.images h p fs)
  handles : r.message.attachments.handles.From h (fs.flatMap Field.handles)
  ports : r.message.attachments.ports.From p (fs.flatMap Field.ports)

/-- A reader that passes over a field without attachments is before the other fields. -/
theorem Before.advance {h p : Nat} {f : Field} {fs : List Field} (before : r.Before h p (f :: fs))
    (handles : f.handles = []) (ports : f.ports = []) {n : Nat}
    (facing : (r.advance n).Facing
      (Field.images (h + f.handles.length) (p + f.ports.length) fs)) :
    (r.advance n).Before (h + f.handles.length) (p + f.ports.length) fs where
  facing := facing
  handles := by simpa [handles] using before.handles
  ports := by simpa [ports] using before.ports

/-- A read succeeds in another form if it succeeds. -/
theorem run_map {α β : Type} {step : ReadM α} {g : α → β} {a : α} {s : Reader}
    (read : step.run r = .ok a s) : (do return g (← step)).run r = .ok (g a) s := by
  rw [EStateM.run_bind, read]
  rfl

/-- The read that matches the first field gives it back and is then before the other fields. -/
theorem Before.read {h p : Nat} {f : Field} {fs : List Field} (before : r.Before h p (f :: fs))
    (room : f.width < wordLimit) (fewHandles : h + f.handles.length ≤ wordLimit)
    (fewPorts : p + f.ports.length ≤ wordLimit) :
    ∃ s, f.kind.read.run r = .ok f s ∧
      s.Before (h + f.handles.length) (p + f.ports.length) fs := by
  obtain ⟨facing, handles, ports⟩ := id before
  rw [Field.images] at facing
  cases f with
  | u32 x =>
    obtain ⟨read, further⟩ := facing.readU32
    exact ⟨_, run_map read, before.advance rfl rfl further⟩
  | i32 x =>
    obtain ⟨read, further⟩ := facing.readU32
    refine ⟨_, ?_, before.advance rfl rfl further⟩
    exact run_map (run_map read)
  | u64 x =>
    obtain ⟨read, further⟩ := facing.readU64
    exact ⟨_, run_map read, before.advance rfl rfl further⟩
  | i64 x =>
    obtain ⟨read, further⟩ := facing.readU64
    refine ⟨_, ?_, before.advance rfl rfl further⟩
    exact run_map (run_map read)
  | bool b =>
    obtain ⟨read, further⟩ := facing.readBool
    exact ⟨_, run_map read, before.advance rfl rfl further⟩
  | bytes bs =>
    obtain ⟨read, further⟩ := facing.readBytes
    exact ⟨_, run_map read, before.advance rfl rfl further⟩
  | data bs =>
    obtain ⟨read, further⟩ := facing.readData room
    exact ⟨_, run_map read, before.advance rfl rfl further⟩
  | text s =>
    obtain ⟨read, further⟩ := facing.readText room
    exact ⟨_, run_map read, before.advance rfl rfl further⟩
  | handle a =>
    obtain ⟨read, further⟩ := facing.consume .handles fewHandles handles
    exact ⟨_, run_map read, further, handles.takeAt.2, ports⟩
  | port a =>
    obtain ⟨read, further⟩ := facing.consume .ports fewPorts ports
    exact ⟨_, run_map read, further, handles, ports.takeAt.2⟩

/-- The reads that match the fields give them back, and nothing is left of the payload and of the
attachments. -/
theorem Before.readAll {h p : Nat} {fs : List Field} (before : r.Before h p fs)
    (room : (fs.map Field.width).sum < wordLimit)
    (fewHandles : h + (fs.flatMap Field.handles).length ≤ wordLimit)
    (fewPorts : p + (fs.flatMap Field.ports).length ≤ wordLimit) :
    ∃ s, ((fs.map Field.kind).mapM Field.Kind.read).run r = .ok fs s ∧
      s.Before (h + (fs.flatMap Field.handles).length) (p + (fs.flatMap Field.ports).length) [] := by
  induction fs generalizing r h p with
  | nil => exact ⟨r, rfl, before⟩
  | cons f fs ih =>
    simp only [List.map_cons, List.sum_cons, List.flatMap_cons, List.length_append,
      ← Nat.add_assoc] at room fewHandles fewPorts ⊢
    obtain ⟨s, one, behind⟩ := before.read (by omega) (by omega) (by omega)
    obtain ⟨t, others, done⟩ := ih behind (by omega) (by omega) (by omega)
    refine ⟨t, ?_, done⟩
    rw [List.mapM_cons, EStateM.run_bind, one]
    exact run_map others

end Reader

namespace Message

/-- The reads that match some fields, from the beginning of a message's payload, give the fields
back, and leave no byte unread and no slot filled. -/
def ReadsBack (m : Message) (fs : List Field) : Prop :=
  ∃ r, ((fs.map Field.kind).mapM Field.Kind.read).run m.reader = .ok fs r ∧ r.isEmpty ∧
    (∀ cell ∈ r.message.attachments.handles.toList, cell = none) ∧
    (∀ cell ∈ r.message.attachments.ports.toList, cell = none)

/-- What a message holds can be read back. -/
theorem Holds.readsBack {m : Message} {fs : List Field} {footer : ByteArray}
    (holds : m.Holds fs footer) (room : (fs.map Field.width).sum < wordLimit) : m.ReadsBack fs := by
  have before : m.reader.Before 0 0 fs :=
    ⟨⟨ByteArray.empty, by rw [ByteArray.empty_append]; exact holds.payload, rfl⟩,
      holds.handles, holds.ports⟩
  have slots := Field.attachments_le_width fs
  obtain ⟨r, read, facing, emptied, emptiedPorts⟩ :=
    before.readAll room (by omega) (by omega)
  refine ⟨r, read, ?_, emptied.eq_none, emptiedPorts.eq_none⟩
  rw [Reader.isEmpty, facing.remaining]
  rfl

end Message

end Interprocess
