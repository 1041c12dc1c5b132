import Interprocess.Proofs.Message.Grammar

/-!
# Headers field by field

A header is written one field after the other behind the bytes that are there, and taken off the
front of a row of bytes in the same way. `Header.put` and `Header.takeOff` are these two, each with
its own list of the eight fields; `takeOff` has no outcome where a field cannot be taken. The main
statement is `there_and_back`: `takeOff` always has an outcome, it takes a header off a row exactly
if the row begins with the bytes that `put` writes for this header, and nothing but a flags word
that stands for no flags keeps it from taking one off a row that is long enough.
-/

set_option autoImplicit false

namespace Interprocess

/-- Writes a word behind the bytes that are there. -/
def putWord (x : UInt32) : StateM ByteArray Unit :=
  modify fun buffer => buffer ++ (Word.bytes x).toByteArray

/-- Writes a number in two's complement behind the bytes that are there. -/
def putInt (x : Int32) : StateM ByteArray Unit := putWord x.toUInt32

/-- Takes a word off the front. -/
def takeWord : StateT ByteArray Option UInt32 := Scan.nextWord

/-- Takes a number in two's complement off the front. -/
def takeInt : StateT ByteArray Option Int32 := do
  return (← takeWord).toInt32

namespace Header

/-- Writes a header behind the bytes that are there. -/
def put (h : Header) : StateM ByteArray Unit := do
  putWord h.payloadSize
  putInt h.routing
  putWord h.type
  putWord h.flags.bits
  putWord h.handleCount
  putInt h.transaction
  putInt h.seqno
  putWord h.footerSize

/-- Takes a header off the front. Of a row that is too short nothing is taken, and behind a flags
word that is refused nothing more. -/
def takeOff : StateT ByteArray Option (Except HeaderError Header) := do
  let present := (← get).size
  if present < headerSize then
    return .error (.incomplete present)
  let payloadSize ← takeWord
  let routing ← takeInt
  let type ← takeWord
  match Flags.ofBits (← takeWord) with
  | .error e => return .error (.flags e)
  | .ok flags =>
    let handleCount ← takeWord
    let transaction ← takeInt
    let seqno ← takeInt
    let footerSize ← takeWord
    return .ok { payloadSize, routing, type, flags, handleCount, transaction, seqno, footerSize }

/-- What is left of a row of bytes when a header has been taken off or refused. -/
def left (bs : ByteArray) : ByteArray :=
  if bs.size < headerSize then bs
  else
    match Flags.ofBits (wordAt bs 12) with
    | .error _ => bs.extract 16 bs.size
    | .ok _ => bs.extract headerSize bs.size

/-! ## Both lists of fields -/

/-- Writing a header field by field adds its bytes. -/
theorem run_put (h : Header) (buffer : ByteArray) :
    h.put.run buffer = ((), buffer ++ h.encode) := by
  have row : h.encode = (Word.bytes h.payloadSize).toByteArray ++
      ((Word.bytes h.routing.toUInt32).toByteArray ++ ((Word.bytes h.type).toByteArray ++
      ((Word.bytes h.flags.bits).toByteArray ++ ((Word.bytes h.handleCount).toByteArray ++
      ((Word.bytes h.transaction.toUInt32).toByteArray ++
      ((Word.bytes h.seqno.toUInt32).toByteArray ++ (Word.bytes h.footerSize).toByteArray)))))) := by
    simp only [encode, Word.pack, words, List.flatMap_cons, List.flatMap_nil, List.append_nil,
      List.toByteArray_append]
  rw [row]
  simp only [← ByteArray.append_assoc]
  rfl

/-- Taking a header off gives what reading it as a whole gives. -/
theorem run_takeOff (bs : ByteArray) : takeOff.run bs = some (decode bs, left bs) := by
  by_cases short : bs.size < headerSize
  · simp only [takeOff, StateT.run_bind, StateT.run_get, pure_bind, if_pos short, decode, left]
    rfl
  have complete : headerSize ≤ bs.size := Nat.le_of_not_lt short
  have word (p q : Nat) (step : q = p + 4) (inside : q ≤ headerSize) :
      takeWord.run (bs.extract p bs.size) = some (wordAt bs p, bs.extract q bs.size) :=
    Scan.nextWord_extract bs step (Nat.le_trans inside complete)
  have int (p q : Nat) (step : q = p + 4) (inside : q ≤ headerSize) :
      takeInt.run (bs.extract p bs.size) = some ((wordAt bs p).toInt32, bs.extract q bs.size) := by
    rw [takeInt, StateT.run_bind, word p q step inside]
    rfl
  have first := word 0 4 rfl (by decide)
  rw [ByteArray.extract_zero_size] at first
  rw [left, if_neg short, decode_eq_ofWords complete]
  simp only [takeOff, StateT.run_bind, StateT.run_get, pure_bind, if_neg short, first,
    Option.bind_eq_bind, Option.bind_some, int 4 8 rfl (by decide), word 8 12 rfl (by decide),
    word 12 16 rfl (by decide), ofWords]
  cases Flags.ofBits (wordAt bs 12) with
  | error e => rfl
  | ok flags =>
    simp only [StateT.run_bind, word 16 20 rfl (by decide), int 20 24 rfl (by decide),
      int 24 28 rfl (by decide), word 28 32 rfl (by decide), Option.bind_eq_bind, Option.bind_some]
    rfl

/-! ## There and back -/

/-- Behind a header that is accepted all other bytes are left. -/
theorem left_of_decode {bs : ByteArray} {h : Header} (accepted : decode bs = .ok h) :
    left bs = bs.extract headerSize bs.size := by
  obtain ⟨-, bits, -⟩ := words_of_decode accepted
  have long : ¬ bs.size < headerSize := Nat.not_lt.2 (complete_of_decode accepted)
  rw [left, if_neg long, ← bits, Flags.ofBits_bits]

/-- A header is taken off the rows that begin with its bytes, and what follows these is left. -/
theorem takeOff_eq_ok_iff {bs rest : ByteArray} {h : Header} :
    takeOff.run bs = some (.ok h, rest) ↔ bs = h.encode ++ rest := by
  rw [run_takeOff]
  constructor
  · intro taken
    obtain ⟨accepted, behind⟩ := Prod.mk.inj (Option.some.inj taken)
    have complete := complete_of_decode accepted
    rw [← behind, left_of_decode accepted, encode_of_decode accepted,
      extract_join bs (Nat.zero_le _) complete, ByteArray.extract_zero_size]
  · rintro rfl
    have accepted := decode_encode_append h rest
    rw [left_of_decode accepted, accepted,
      ByteArray.extract_append_eq_right h.size_encode.symm ByteArray.size_append]

/-- The header that the words of a row stand for, if the one among them that is for the flags stands
for some. -/
def ofPlaces (bs : ByteArray) (flags : Flags) : Header where
  payloadSize := wordAt bs 0
  routing := (wordAt bs 4).toInt32
  type := wordAt bs 8
  flags := flags
  handleCount := wordAt bs 16
  transaction := (wordAt bs 20).toInt32
  seqno := (wordAt bs 24).toInt32
  footerSize := wordAt bs 28

/-- Of a row that is long enough the flags word alone decides whether a header is taken off. -/
theorem run_takeOff_of_complete {bs : ByteArray} (complete : headerSize ≤ bs.size) :
    takeOff.run bs =
      match Flags.ofBits (wordAt bs 12) with
      | .error why => some (.error (.flags why), bs.extract 16 bs.size)
      | .ok flags => some (.ok (ofPlaces bs flags), bs.extract headerSize bs.size) := by
  rw [run_takeOff, decode_eq_ofWords complete, left, if_neg (Nat.not_lt.2 complete), ofWords]
  cases Flags.ofBits (wordAt bs 12) with
  | error why => rfl
  | ok flags => rfl

/-- What is written for a header takes `headerSize` bytes, and with any bytes behind them these give
the header back and leave what is behind. Conversely, a row that gives up a header begins with what
is written for it. A row that is long enough is refused for its flags word or not at all, and in the
latter case each of its eight words is a field; the flags words that are accepted are those that
flags are written as. -/
theorem there_and_back :
    (∀ (h : Header) (buffer rest : ByteArray),
      h.put.run buffer = ((), buffer ++ h.encode) ∧ h.encode.size = headerSize ∧
        takeOff.run (h.encode ++ rest) = some (.ok h, rest)) ∧
    (∀ (bs : ByteArray) (h : Header) (rest : ByteArray), takeOff.run bs = some (.ok h, rest) →
      h.encode = bs.extract 0 headerSize ∧ rest = bs.extract headerSize bs.size) ∧
    (∀ bs : ByteArray, headerSize ≤ bs.size →
      takeOff.run bs =
        match Flags.ofBits (wordAt bs 12) with
        | .error why => some (.error (.flags why), bs.extract 16 bs.size)
        | .ok flags => some (.ok (ofPlaces bs flags), bs.extract headerSize bs.size)) ∧
    (∀ bs : ByteArray, takeOff.run bs = some (decode bs, left bs)) ∧
    ∀ (word : UInt32) (flags : Flags), Flags.ofBits word = .ok flags ↔ flags.bits = word := by
  refine ⟨fun h buffer rest => ⟨h.run_put buffer, h.size_encode, takeOff_eq_ok_iff.2 rfl⟩, ?_,
    fun bs => run_takeOff_of_complete, run_takeOff, fun word flags => ⟨Flags.bits_of_ofBits, ?_⟩⟩
  · intro bs h rest taken
    have row := takeOff_eq_ok_iff.1 taken
    constructor
    · rw [row, ByteArray.extract_append_eq_left h.size_encode.symm]
    · rw [row, ByteArray.extract_append_eq_right h.size_encode.symm ByteArray.size_append]
  · rintro rfl
    exact flags.ofBits_bits

/-- A header whose fields go to the ends of their ranges and do not fit each other. -/
def wayward : Header where
  payloadSize := 0xFFFFFFFF
  routing := Int32.minValue
  type := 0x01020304
  flags := { level := .insideCpow, priority := .control, compression := .all, relay := true }
  handleCount := 0xFFFFFFFE
  transaction := -2
  seqno := Int32.maxValue
  footerSize := 7

/-- The same bytes are refused if the level among the flags is erased. -/
theorem there_and_back_wayward :
    takeOff.run (wayward.encode ++ ⟨#[1, 2, 3]⟩) = some (.ok wayward, ⟨#[1, 2, 3]⟩) ∧
      wayward.encode = (wayward.encode ++ ⟨#[1, 2, 3]⟩).extract 0 headerSize ∧
      takeOff.run (zeros 33) = some (.error (.flags (.invalidLevel 0)), zeros 17) := by
  obtain ⟨there, back, complete, -⟩ := there_and_back
  obtain ⟨-, -, taken⟩ := there wayward ByteArray.empty ⟨#[1, 2, 3]⟩
  refine ⟨taken, (back _ _ _ taken).1, ?_⟩
  rw [complete (zeros 33) (by decide)]
  decide

end Header

end Interprocess
