import Interprocess.Proofs.Message.Reading

/-!
# Where a read comes to

A payload may come from anywhere, and the reads that are tried on it need not match what was
written. `Reader.Reads` says what a read comes to on any bytes, by what is wrong with them: nothing
is passed over if the first bytes of a field are not all there, the first word if it is no truth
value, if its slot holds nothing or if what it announces is not all there, and the whole field if it
is no text. Else the bytes of a field are there, and the field is read. The main statement is
`Reader.run_read_eq_iff`: a read comes to this and to nothing else. So a reader stays at whole words
of its payload, whether it could read or not (`Reader.Aligned.read`).
-/

set_option autoImplicit false

namespace Interprocess

/-! ## Fields without their filling -/

/-- Two neighbouring parts of a row of bytes. -/
theorem extract_eq_append_iff {bs front back : ByteArray} {p q r : Nat} (mid : q = p + front.size)
    (stop : r = q + back.size) :
    bs.extract p r = front ++ back ↔ bs.extract p q = front ∧ bs.extract q r = back := by
  have joined : bs.extract p q ++ bs.extract q r = bs.extract p r :=
    extract_join bs (by omega) (by omega)
  constructor
  · intro same
    have first : (bs.extract p r).extract 0 front.size = front := by
      rw [same, ByteArray.extract_append_eq_left rfl]
    have second : (bs.extract p r).extract front.size (front.size + back.size) = back := by
      rw [same, ByteArray.extract_append_eq_right rfl rfl]
    rw [ByteArray.extract_extract, Nat.add_zero, Nat.min_eq_left (by omega), ← mid] at first
    rw [ByteArray.extract_extract, ← Nat.add_assoc, ← mid, Nat.min_eq_left (by omega), ← stop]
      at second
    exact ⟨first, second⟩
  · rintro ⟨first, second⟩
    rw [← joined, first, second]

/-- A row of bytes is the row of its bytes. -/
theorem toByteArray_toList (bs : ByteArray) : bs.data.toList.toByteArray = bs := by
  apply ByteArray.ext
  rw [List.data_toByteArray, Array.toArray_toList]

namespace Field

/-- The bytes of a field without what fills them up, where the next slots have these numbers. -/
def row (handles ports : Nat) : Field → ByteArray
  | u32 x => wordRow x
  | i32 x => wordRow x.toUInt32
  | u64 x => longRow x
  | i64 x => longRow x.toUInt64
  | bool b => wordRow (if b then 1 else 0)
  | bytes bs => bs
  | data bs => wordRow (UInt32.ofNat bs.size) ++ bs
  | text s => wordRow (UInt32.ofNat (Utf8.encode s).size) ++ Utf8.encode s
  | handle _ => wordRow (UInt32.ofNat handles)
  | port _ => wordRow (UInt32.ofNat ports)

/-- The number that stands before the bytes of a field. -/
def counted : Field → Nat
  | data bs => bs.size
  | text s => (Utf8.encode s).size
  | _ => 0

/-- Every field takes whole words. -/
theorem width_mod (f : Field) : f.width % 4 = 0 := by
  cases f <;> simp [width]

/-- The bytes of a field that have to be there before anything is read. -/
def Kind.first : Kind → Nat
  | u64 | i64 => 8
  | bytes length => align length
  | _ => 4

end Field

/-! ## What is before a reader -/

namespace Reader

/-- The 64-bit number at the reader's place. -/
def long (r : Reader) : UInt64 :=
  UInt64.ofNat (Word.ofBytes (r.message.payload.extract r.place (r.place + 8)).data.toList)

/-- The bytes behind the word at the reader's place, as many as the word says. -/
def body (r : Reader) : ByteArray :=
  r.message.payload.extract (r.place + 4) (r.place + 4 + r.word.toNat)

variable {r : Reader}

/-- As many bytes are read as are there. -/
theorem size_extract {n : Nat} (there : n ≤ r.remaining) :
    (r.message.payload.extract r.place (r.place + n)).size = n := by
  rw [remaining] at there
  rw [ByteArray.size_extract]
  omega

/-- The bytes before the reader are those of the word at its place. -/
theorem wordRow_word (there : 4 ≤ r.remaining) :
    r.message.payload.extract r.place (r.place + 4) = wordRow r.word := by
  have length : (r.message.payload.extract r.place (r.place + 4)).data.toList.length = 4 := by
    rw [Array.length_toList, ByteArray.size_data, size_extract there]
  rw [wordRow, word, Word.bytes_value length, toByteArray_toList]

/-- If the bytes before the reader are those of a word, this is the word at its place. -/
theorem word_eq {x : UInt32} (row : r.message.payload.extract r.place (r.place + 4) = wordRow x) :
    r.word = x := by
  rw [word, row, wordRow, List.data_toByteArray, Word.value_bytes]

/-- The bytes before the reader are those of the 64-bit number at its place. -/
theorem longRow_long (there : 8 ≤ r.remaining) :
    r.message.payload.extract r.place (r.place + 8) = longRow r.long := by
  have length : (r.message.payload.extract r.place (r.place + 8)).data.toList.length = 8 := by
    rw [Array.length_toList, ByteArray.size_data, size_extract there]
  have small := Word.ofBytes_lt (r.message.payload.extract r.place (r.place + 8)).data.toList
  have same := Word.toBytes_ofBytes (r.message.payload.extract r.place (r.place + 8)).data.toList
  rw [length] at small same
  rw [longRow, long, UInt64.toNat_ofNat_of_lt' small, same, toByteArray_toList]

/-- If the bytes before the reader are those of a 64-bit number, this is the number at its place. -/
theorem long_eq {x : UInt64} (row : r.message.payload.extract r.place (r.place + 8) = longRow x) :
    r.long = x := by
  have small : x.toNat < Word.capacity 8 := x.toNat_lt
  rw [long, row, longRow, List.data_toByteArray, Word.ofBytes_toBytes_of_lt small,
    UInt64.ofNat_toNat]

/-- The body is as long as the word before it says, if it is there. -/
theorem size_body (there : 4 + align r.word.toNat ≤ r.remaining) : r.body.size = r.word.toNat := by
  have := le_align r.word.toNat
  rw [remaining] at there
  rw [body, ByteArray.size_extract]
  omega

/-! ## What the reads do -/

/-- What is read if enough bytes are there may be given another form. -/
theorem run_map_of_guard {α β : Type} {step : ReadM α} {n : Nat} {e : ReadError} {a : α}
    {r s : Reader} (g : α → β)
    (guarded : step.run r = if r.remaining < n then .error e r else .ok a s) :
    (do return g (← step)).run r = if r.remaining < n then .error e r else .ok (g a) s := by
  rw [EStateM.run_bind, guarded]
  by_cases short : r.remaining < n
  · rw [if_pos short, if_pos short]
  · rw [if_neg short, if_neg short]
    rfl

/-- A signed number is the word at the reader's place. -/
theorem run_readI32 (r : Reader) :
    readI32.run r =
      if r.remaining < 4 then .error (.underflow 4 r.remaining) r
      else .ok r.word.toInt32 (r.advance 4) :=
  run_map_of_guard UInt32.toInt32 r.run_readU32

/-- Eight bytes are read as one number, if they are there. -/
theorem run_readU64 (r : Reader) :
    readU64.run r =
      if r.remaining < 8 then .error (.underflow 8 r.remaining) r else .ok r.long (r.advance 8) :=
  run_map_of_guard (fun bs : ByteArray => UInt64.ofNat (Word.ofBytes bs.data.toList)) (run_readBytes 8 r)

/-- A signed 64-bit number is the number at the reader's place. -/
theorem run_readI64 (r : Reader) :
    readI64.run r =
      if r.remaining < 8 then .error (.underflow 8 r.remaining) r
      else .ok r.long.toInt64 (r.advance 8) :=
  run_map_of_guard UInt64.toInt64 r.run_readU64

/-- A word is read, which has to be zero or one. -/
theorem run_readBool (r : Reader) :
    readBool.run r =
      if r.remaining < 4 then .error (.underflow 4 r.remaining) r
      else if r.word = 0 then .ok false (r.advance 4)
      else if r.word = 1 then .ok true (r.advance 4)
      else .error (.invalidBool r.word) (r.advance 4) := by
  unfold readBool
  rw [EStateM.run_bind, run_readU32]
  by_cases short : r.remaining < 4
  · rw [if_pos short, if_pos short]
  rw [if_neg short, if_neg short, ← word]
  by_cases zero : r.word = 0
  · simp only [if_pos zero]
    rfl
  by_cases one : r.word = 1
  · simp only [if_neg zero, if_pos one]
    rfl
  · simp only [if_neg zero, if_neg one]
    rfl

/-- A length is read and then as many bytes; the length stays read if these are missing. -/
theorem run_readData (r : Reader) :
    readData.run r =
      if r.remaining < 4 then .error (.underflow 4 r.remaining) r
      else if r.remaining < 4 + align r.word.toNat then
        .error (.underflow (align r.word.toNat) (r.remaining - 4)) (r.advance 4)
      else .ok r.body (r.advance (4 + align r.word.toNat)) := by
  unfold readData
  rw [EStateM.run_bind, run_readU32]
  by_cases short : r.remaining < 4
  · rw [if_pos short, if_pos short]
  have left : (r.advance 4).remaining = r.remaining - 4 := by
    simp only [remaining, advance]
    omega
  have less : r.remaining - 4 < align r.word.toNat ↔ r.remaining < 4 + align r.word.toNat := by
    omega
  rw [if_neg short, if_neg short, ← word]
  show (readBytes r.word.toNat).run (r.advance 4) = _
  rw [run_readBytes, left]
  simp only [less]
  by_cases long : r.remaining < 4 + align r.word.toNat
  · rw [if_pos long, if_pos long]
  · rw [if_neg long, if_neg long, advance, advance, ← Nat.add_assoc]
    rfl

/-- Bytes behind their length are read, which have to be a text and stay read if they are none. -/
theorem run_readText (r : Reader) :
    readText.run r =
      if r.remaining < 4 then .error (.underflow 4 r.remaining) r
      else if r.remaining < 4 + align r.word.toNat then
        .error (.underflow (align r.word.toNat) (r.remaining - 4)) (r.advance 4)
      else
        match Utf8.decode r.body with
        | .ok text => .ok text (r.advance (4 + align r.word.toNat))
        | .error fault => .error (.invalidText fault) (r.advance (4 + align r.word.toNat)) := by
  unfold readText
  rw [EStateM.run_bind, run_readData]
  by_cases short : r.remaining < 4
  · rw [if_pos short, if_pos short]
  by_cases long : r.remaining < 4 + align r.word.toNat
  · rw [if_neg short, if_neg short, if_pos long, if_pos long]
  rw [if_neg short, if_neg short, if_neg long, if_neg long]
  simp only
  cases Utf8.decode r.body with
  | ok text => rfl
  | error fault => rfl

/-- A result whose value is made a field. -/
def asField {α : Type} (g : α → Field) :
    EStateM.Result ReadError Reader α → EStateM.Result ReadError Reader Field
  | .ok a s => .ok (g a) s
  | .error e s => .error e s

/-- Making a field of a result does not change what is read. -/
theorem run_asField {α : Type} (step : ReadM α) (g : α → Field) (r : Reader) :
    (do return g (← step)).run r = asField g (step.run r) := by
  rw [EStateM.run_bind]
  cases step.run r with
  | ok a s => rfl
  | error e s => rfl

/-! ## What a read comes to -/

/-- What a read comes to, by what is before the reader. -/
inductive Reads (r : Reader) : Field.Kind → EStateM.Result ReadError Reader Field → Prop
  /-- What has to be there before anything is read is not all there. -/
  | cut {kind : Field.Kind} :
      r.remaining < kind.first →
      Reads r kind (.error (.underflow kind.first r.remaining) r)
  /-- A word is no truth value. -/
  | noBool :
      4 ≤ r.remaining → r.word ≠ 0 → r.word ≠ 1 →
      Reads r .bool (.error (.invalidBool r.word) (r.advance 4))
  /-- A word is the number of a slot that does not exist or was emptied. -/
  | noHandle :
      4 ≤ r.remaining → r.message.attachments.handles.get? r.word.toNat = none →
      Reads r .handle (.error (.missingHandle r.word.toNat) (r.advance 4))
  | noPort :
      4 ≤ r.remaining → r.message.attachments.ports.get? r.word.toNat = none →
      Reads r .port (.error (.missingPort r.word.toNat) (r.advance 4))
  /-- A word announces more bytes, filled up to whole words, than there are. -/
  | long {kind : Field.Kind} :
      kind = .data ∨ kind = .text → 4 ≤ r.remaining → r.remaining < 4 + align r.word.toNat →
      Reads r kind (.error (.underflow (align r.word.toNat) (r.remaining - 4)) (r.advance 4))
  /-- The bytes that are announced are not the encoding of a text. -/
  | noText {fault : Utf8.Fault} :
      4 + align r.word.toNat ≤ r.remaining → Utf8.decode r.body = .error fault →
      Reads r .text (.error (.invalidText fault) (r.advance (4 + align r.word.toNat)))
  /-- The bytes of a field without attachments are there, and bytes to fill it up. -/
  | whole {f : Field} :
      f.handles = [] → f.ports = [] → f.counted < wordLimit → f.width ≤ r.remaining →
      r.message.payload.extract r.place (r.place + (f.row 0 0).size) = f.row 0 0 →
      Reads r f.kind (.ok f (r.advance f.width))
  /-- A word is the number of a slot that holds something, which is moved out. -/
  | handle {h : Handle} {handles : Slots Handle} :
      4 ≤ r.remaining → r.message.attachments.handles.get? r.word.toNat = some h →
      handles.toList = r.message.attachments.handles.toList.set r.word.toNat none →
      Reads r .handle (.ok (.handle h) ((r.advance 4).withSlots .handles handles))
  | port {p : Port} {ports : Slots Port} :
      4 ≤ r.remaining → r.message.attachments.ports.get? r.word.toNat = some p →
      ports.toList = r.message.attachments.ports.toList.set r.word.toNat none →
      Reads r .port (.ok (.port p) ((r.advance 4).withSlots .ports ports))

/-- Some numbers fit into a word. -/
theorem wordLimit_pos : 0 < wordLimit := by decide

/-- A word before the reader is one field or another. -/
theorem Reads.of_word {f : Field} (there : 4 ≤ r.remaining) (row : f.row 0 0 = wordRow r.word)
    (width : f.width = 4) (handles : f.handles = []) (ports : f.ports = [])
    (counted : f.counted = 0) : r.Reads f.kind (.ok f (r.advance 4)) := by
  have whole := Reads.whole (r := r) handles ports (counted ▸ wordLimit_pos) (width ▸ there)
    (by rw [row, size_wordRow, wordRow_word there])
  rwa [width] at whole

/-- A 64-bit number before the reader is one field or another. -/
theorem Reads.of_long {f : Field} (there : 8 ≤ r.remaining) (row : f.row 0 0 = longRow r.long)
    (width : f.width = 8) (handles : f.handles = []) (ports : f.ports = [])
    (counted : f.counted = 0) : r.Reads f.kind (.ok f (r.advance 8)) := by
  have whole := Reads.whole (r := r) handles ports (counted ▸ wordLimit_pos) (width ▸ there)
    (by rw [row, size_longRow, longRow_long there])
  rwa [width] at whole

/-- Bytes behind their number before the reader. -/
theorem Reads.of_body {f : Field} (there : 4 + align r.word.toNat ≤ r.remaining)
    (row : f.row 0 0 = wordRow (UInt32.ofNat r.body.size) ++ r.body)
    (width : f.width = 4 + align r.body.size) (handles : f.handles = []) (ports : f.ports = [])
    (counted : f.counted = r.body.size) :
    r.Reads f.kind (.ok f (r.advance (4 + align r.word.toNat))) := by
  have size := size_body there
  have small : f.counted < wordLimit := by
    rw [counted, size]
    exact r.word.toNat_lt
  have fits : f.width ≤ r.remaining := by
    rw [width, size]
    exact there
  have bytes : r.message.payload.extract r.place (r.place + (f.row 0 0).size) = f.row 0 0 := by
    rw [row, extract_eq_append_iff rfl (by rw [ByteArray.size_append, Nat.add_assoc]), size_wordRow,
      size, UInt32.ofNat_toNat]
    refine ⟨wordRow_word (by omega), ?_⟩
    rw [ByteArray.size_append, size_wordRow, size, ← Nat.add_assoc]
    rfl
  have whole := Reads.whole (r := r) (f := f) handles ports small fits bytes
  rwa [width, size] at whole

/-- As many bytes as are asked for are read with what fills them up, if they are there. -/
theorem Reads.of_bytes {length : Nat} (there : align length ≤ r.remaining) :
    r.Reads (.bytes length)
      (.ok (.bytes (r.message.payload.extract r.place (r.place + length)))
        (r.advance (align length))) := by
  have size : (r.message.payload.extract r.place (r.place + length)).size = length :=
    size_extract (Nat.le_trans (le_align length) there)
  have fits : (Field.bytes (r.message.payload.extract r.place (r.place + length))).width ≤
      r.remaining := by
    rw [Field.width, size]
    exact there
  have whole := Reads.whole (f := .bytes (r.message.payload.extract r.place (r.place + length)))
    rfl rfl wordLimit_pos fits (by rw [Field.row, size])
  rwa [Field.kind, Field.width, size] at whole

/-- Every read comes to one of these. -/
theorem reads_run (r : Reader) (kind : Field.Kind) : r.Reads kind (kind.read.run r) := by
  -- a read tests in turn what a constructor each says of the bytes
  cases kind with
  | u32 =>
    show r.Reads _ ((do return Field.u32 (← readU32)).run r)
    rw [run_asField, run_readU32]
    split
    · next short => exact .cut short
    · next there => exact .of_word (f := .u32 r.word) (Nat.le_of_not_lt there) rfl rfl rfl rfl rfl
  | i32 =>
    show r.Reads _ ((do return Field.i32 (← readI32)).run r)
    rw [run_asField, run_readI32]
    split
    · next short => exact .cut short
    · next there =>
      have row := congrArg wordRow r.word.toUInt32_toInt32
      exact .of_word (f := .i32 r.word.toInt32) (Nat.le_of_not_lt there) row rfl rfl rfl rfl
  | u64 =>
    show r.Reads _ ((do return Field.u64 (← readU64)).run r)
    rw [run_asField, run_readU64]
    split
    · next short => exact .cut short
    · next there => exact .of_long (f := .u64 r.long) (Nat.le_of_not_lt there) rfl rfl rfl rfl rfl
  | i64 =>
    show r.Reads _ ((do return Field.i64 (← readI64)).run r)
    rw [run_asField, run_readI64]
    split
    · next short => exact .cut short
    · next there =>
      have row := congrArg longRow r.long.toUInt64_toInt64
      exact .of_long (f := .i64 r.long.toInt64) (Nat.le_of_not_lt there) row rfl rfl rfl rfl
  | bool =>
    show r.Reads _ ((do return Field.bool (← readBool)).run r)
    rw [run_asField, run_readBool]
    split
    · next short => exact .cut short
    next there =>
    have there : 4 ≤ r.remaining := Nat.le_of_not_lt there
    split
    · next zero =>
      exact .of_word (f := .bool false) there (congrArg wordRow zero.symm) rfl rfl rfl rfl
    split
    · next one =>
      exact .of_word (f := .bool true) there (congrArg wordRow one.symm) rfl rfl rfl rfl
    · next zero one => exact .noBool there zero one
  | bytes length =>
    show r.Reads _ ((do return Field.bytes (← readBytes length)).run r)
    rw [run_asField, run_readBytes]
    split
    · next short => exact .cut short
    · next there =>
      have there : align length ≤ r.remaining := Nat.le_of_not_lt there
      exact .of_bytes there
  | data =>
    show r.Reads _ ((do return Field.data (← readData)).run r)
    rw [run_asField, run_readData]
    split
    · next short => exact .cut short
    next there =>
    split
    · next long => exact .long (.inl rfl) (Nat.le_of_not_lt there) long
    · next whole => exact .of_body (f := .data r.body) (Nat.le_of_not_lt whole) rfl rfl rfl rfl rfl
  | text =>
    show r.Reads _ ((do return Field.text (← readText)).run r)
    rw [run_asField, run_readText]
    split
    · next short => exact .cut short
    next there =>
    split
    · next long => exact .long (.inr rfl) (Nat.le_of_not_lt there) long
    next whole =>
    split
    · next s decoded =>
      have same := Utf8.encode_of_decode decoded
      exact .of_body (f := .text s) (Nat.le_of_not_lt whole) (by rw [Field.row, same])
        (by rw [Field.width, same]) rfl rfl (by rw [Field.counted, same])
    · next fault decoded => exact .noText (Nat.le_of_not_lt whole) decoded
  | handle =>
    show r.Reads _ ((do return Field.handle (← readHandle)).run r)
    have emptied := Slots.toList_takeAt r.message.attachments.handles r.word.toNat
    rw [run_asField, readHandle, Row.run_consume]
    split
    · next short => exact .cut short
    next there =>
    split
    · next found => exact .handle (Nat.le_of_not_lt there) found emptied
    · next none => exact .noHandle (Nat.le_of_not_lt there) none
  | port =>
    show r.Reads _ ((do return Field.port (← readPort)).run r)
    have emptied := Slots.toList_takeAt r.message.attachments.ports r.word.toNat
    rw [run_asField, readPort, Row.run_consume]
    split
    · next short => exact .cut short
    next there =>
    split
    · next found => exact .port (Nat.le_of_not_lt there) found emptied
    · next none => exact .noPort (Nat.le_of_not_lt there) none

/-- A word is read, if it is there and is one field or another. -/
theorem word_of_row {x : UInt32}
    (row : r.message.payload.extract r.place (r.place + (wordRow x).size) = wordRow x) :
    r.word = x := by
  rw [size_wordRow] at row
  exact word_eq row

/-- What stands before the reader where bytes behind their number do. -/
theorem word_body_of_row {bs : ByteArray} (small : bs.size < wordLimit)
    (row : r.message.payload.extract r.place
        (r.place + (wordRow (UInt32.ofNat bs.size) ++ bs).size) =
      wordRow (UInt32.ofNat bs.size) ++ bs) :
    r.word.toNat = bs.size ∧ r.body = bs := by
  rw [extract_eq_append_iff rfl (by rw [ByteArray.size_append, Nat.add_assoc])] at row
  obtain ⟨first, second⟩ := row
  have size : r.word.toNat = bs.size := by
    rw [word_of_row first, UInt32.toNat_ofNat_of_lt' small]
  refine ⟨size, ?_⟩
  rw [ByteArray.size_append, size_wordRow, ← Nat.add_assoc] at second
  rw [body, size, second]

/-- A read comes to nothing else. -/
theorem Reads.eq {kind : Field.Kind} {o : EStateM.Result ReadError Reader Field}
    (reads : r.Reads kind o) : kind.read.run r = o := by
  cases reads with
  | cut short =>
    have stop {α : Type} {step : ReadM α} {g : α → Field} {s : Reader} {e : ReadError}
        (failed : step.run r = .error e s) : (do return g (← step)).run r = .error e s := by
      rw [run_asField, failed, asField]
    cases kind with
    | u32 => exact stop ((run_readU32 r).trans (if_pos short))
    | i32 => exact stop ((run_readI32 r).trans (if_pos short))
    | u64 => exact stop ((run_readU64 r).trans (if_pos short))
    | i64 => exact stop ((run_readI64 r).trans (if_pos short))
    | bool => exact stop ((run_readBool r).trans (if_pos short))
    | bytes length => exact stop ((run_readBytes length r).trans (if_pos short))
    | data => exact stop ((run_readData r).trans (if_pos short))
    | text => exact stop ((run_readText r).trans (if_pos short))
    | handle => exact stop ((Row.handles.run_consume r).trans (if_pos short))
    | port => exact stop ((Row.ports.run_consume r).trans (if_pos short))
  | noBool there zero one =>
    refine (run_asField readBool _ r).trans ?_
    rw [run_readBool, if_neg (Nat.not_lt.2 there), if_neg zero, if_neg one]
    rfl
  | noHandle there none =>
    refine (run_asField readHandle _ r).trans ?_
    exact congrArg (asField _) (Row.handles.run_consume_of_none there none)
  | noPort there none =>
    refine (run_asField readPort _ r).trans ?_
    exact congrArg (asField _) (Row.ports.run_consume_of_none there none)
  | long kinds there long =>
    have there : ¬ r.remaining < 4 := Nat.not_lt.2 there
    rcases kinds with rfl | rfl
    · refine (run_asField readData _ r).trans ?_
      rw [run_readData, if_neg there, if_pos long]
      rfl
    · refine (run_asField readText _ r).trans ?_
      rw [run_readText, if_neg there, if_pos long]
      rfl
  | noText whole decoded =>
    have there : ¬ r.remaining < 4 := by omega
    refine (run_asField readText _ r).trans ?_
    rw [run_readText, if_neg there, if_neg (Nat.not_lt.2 whole), decoded]
    rfl
  | @whole f handles ports small whole row =>
    -- the bytes of the field determine the word and the body that the read finds
    have there : ¬ r.remaining < f.width := Nat.not_lt.2 whole
    cases f with
    | u32 x =>
      refine run_map ((run_readU32 r).trans ((if_neg there).trans ?_))
      rw [← word, word_of_row row]
      rfl
    | i32 x =>
      refine run_map ((run_readI32 r).trans ((if_neg there).trans ?_))
      rw [word_of_row row, Int32.toInt32_toUInt32]
      rfl
    | u64 x =>
      rw [Field.row, size_longRow] at row
      refine run_map ((run_readU64 r).trans ((if_neg there).trans ?_))
      rw [long_eq row]
      rfl
    | i64 x =>
      rw [Field.row, size_longRow] at row
      refine run_map ((run_readI64 r).trans ((if_neg there).trans ?_))
      rw [long_eq row, Int64.toInt64_toUInt64]
      rfl
    | bool b =>
      refine run_map ((run_readBool r).trans ((if_neg there).trans ?_))
      rw [word_of_row row]
      cases b <;> rfl
    | bytes bs =>
      rw [Field.row] at row
      refine run_map ((run_readBytes bs.size r).trans ((if_neg there).trans ?_))
      rw [row]
      rfl
    | data bs =>
      obtain ⟨size, body⟩ := word_body_of_row small row
      have counted : ¬ r.remaining < 4 := by
        rw [Field.width] at whole
        omega
      refine run_map ((run_readData r).trans ((if_neg counted).trans ?_))
      rw [size, body]
      exact if_neg there
    | text s =>
      obtain ⟨size, body⟩ := @word_body_of_row r (Utf8.encode s) small row
      have counted : ¬ r.remaining < 4 := by
        rw [Field.width] at whole
        omega
      refine run_map ((run_readText r).trans ((if_neg counted).trans ?_))
      rw [size, body, Utf8.decode_encode]
      exact if_neg there
    | handle => simp [Field.handles] at handles
    | port => simp [Field.ports] at ports
  | @handle h handles there found emptied =>
    rw [← Slots.toList_takeAt] at emptied
    obtain rfl := Slots.toList_inj emptied
    exact run_map (Row.handles.run_consume_of_some there found)
  | @port p ports there found emptied =>
    rw [← Slots.toList_takeAt] at emptied
    obtain rfl := Slots.toList_inj emptied
    exact run_map (Row.ports.run_consume_of_some there found)

/-- A read comes to this and to nothing else. -/
theorem run_read_eq_iff (kind : Field.Kind) (o : EStateM.Result ReadError Reader Field) :
    kind.read.run r = o ↔ r.Reads kind o :=
  ⟨fun run => run ▸ r.reads_run kind, Reads.eq⟩

/-! ## Whole words -/

/-- A reader inside its payload, at a whole word. -/
structure Aligned (r : Reader) : Prop where
  inside : r.place ≤ r.message.payload.size
  whole : r.place % 4 = 0

/-- A reader that passes over whole words stays at a whole word. -/
theorem Aligned.advance {n : Nat} (aligned : r.Aligned) (whole : n % 4 = 0) (there : n ≤ r.remaining) :
    (r.advance n).Aligned where
  inside := by
    have inside := aligned.inside
    rw [remaining] at there
    show r.place + n ≤ r.message.payload.size
    omega
  whole := by
    have := aligned.whole
    show (r.place + n) % 4 = 0
    omega

/-- A reader stays at whole words, whether it could read or not. -/
theorem Aligned.read (aligned : r.Aligned) (kind : Field.Kind) :
    (leaving (kind.read.run r)).Aligned := by
  have reads := r.reads_run kind
  cases outcome : kind.read.run r with
  | ok f s =>
    rw [outcome] at reads
    cases reads with
    -- what is read is passed over with what fills it up
    | whole _ _ _ there _ => exact aligned.advance f.width_mod there
    | handle there _ _ | port there _ _ =>
      have word := aligned.advance rfl there
      exact ⟨word.inside, word.whole⟩
  | error e s =>
    rw [outcome] at reads
    cases reads with
    | cut _ => exact aligned
    | noBool there | noHandle there | noPort there => exact aligned.advance rfl there
    | long _ there _ => exact aligned.advance rfl there
    | noText there _ => exact aligned.advance (by simp) there

end Reader

end Interprocess
