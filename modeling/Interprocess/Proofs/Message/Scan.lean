import Interprocess.Message.Wire
import Interprocess.Message.Write

/-!
# Reading a message step by step

`Message.decode` says at once what each part of a row of bytes is. A reader comes to the parts step
by step: it takes words and bytes off the front of the row, counts lengths in 64 bits, and names the
level and the priority of the message in a text. Each of these steps can only be made if enough
bytes are left, a difference is not below zero, a length can be counted, a number stands for
something. `Message.scan` is the reader, and has no outcome where a step cannot be made. The main
statement is `Message.scan_eq`: there always is an outcome, and it is the one of `Message.decode`.
The reader and the grammar of messages share `wordAt`, the word at a place of a row of bytes.
-/

set_option autoImplicit false

namespace Interprocess

/-! ## Words at their places -/

/-- The little-endian word at a place of a row of bytes. -/
def wordAt (bs : ByteArray) (place : Nat) : UInt32 :=
  Word.value (bs.extract place (place + 4)).data.toList

/-- The words of a row lie at every fourth place. -/
theorem Word.unpack_eq {l : List UInt8} {k : Nat} (length : l.length = 4 * k) :
    unpack l = (List.range k).map fun i => value ((l.drop (4 * i)).take 4) := by
  induction k generalizing l with
  | zero =>
    obtain rfl := List.eq_nil_of_length_eq_zero length
    rfl
  | succ k ih =>
    match l, length with
    | a :: b :: c :: d :: rest, length =>
      have shorter : rest.length = 4 * k := by
        simp only [List.length_cons] at length
        omega
      have places (i : Nat) : (a :: b :: c :: d :: rest).drop (4 * (i + 1)) = rest.drop (4 * i) := by
        rw [Nat.mul_succ]
        rfl
      rw [unpack, ih shorter, List.range_succ_eq_map, List.map_cons, List.map_map]
      simp only [Function.comp_def, Nat.succ_eq_add_one, places]
      rfl

/-- The words of a complete header lie one behind the other. -/
theorem Header.frontWords_eq {bs : ByteArray} (complete : headerSize ≤ bs.size) :
    frontWords bs = (List.range 8).map fun i => wordAt bs (4 * i) := by
  have length : (bs.extract 0 headerSize).data.toList.length = 4 * 8 := by
    rw [Array.length_toList, ByteArray.size_data, size_front complete]
    rfl
  rw [frontWords, Word.unpack_eq length]
  refine List.map_congr_left fun i inside => ?_
  have below : i < 8 := List.mem_range.1 inside
  have place : (bs.extract 0 headerSize).extract (4 * i) (4 * i + 4) =
      bs.extract (4 * i) (4 * i + 4) := by
    rw [ByteArray.extract_extract, Nat.zero_add, Nat.zero_add,
      Nat.min_eq_left (by rw [headerSize]; omega)]
  have part (row : ByteArray) (p : Nat) :
      (row.extract p (p + 4)).data.toList = (row.data.toList.drop p).take 4 := by
    rw [ByteArray.data_extract, Array.toList_extract, List.extract, Nat.add_sub_cancel_left]
  rw [wordAt, ← place, part]

/-- A header is read from the words at its places. -/
theorem Header.decode_eq_ofWords {bs : ByteArray} (complete : headerSize ≤ bs.size) :
    decode bs = ofWords [wordAt bs 0, wordAt bs 4, wordAt bs 8, wordAt bs 12, wordAt bs 16,
      wordAt bs 20, wordAt bs 24, wordAt bs 28] := by
  rw [decode, if_neg (Nat.not_lt.2 complete), frontWords_eq complete]
  rfl

/-! ## Single steps -/

/-- The least length that cannot be counted in 64 bits. -/
def lengthLimit : Nat := 18446744073709551616

namespace Scan

/-- A length, if it can be counted. -/
def counted (n : Nat) : Option Nat :=
  if n < lengthLimit then some n else none

/-- The difference of two lengths, if it is not below zero. -/
def minus (n k : Nat) : Option Nat :=
  if k ≤ n then some (n - k) else none

/-- A length rounded up to whole words, if the result can be counted. -/
def aligned (n : Nat) : Option Nat :=
  -- the number of words always can be counted, their bytes perhaps not
  counted ((n / alignment + if n % alignment = 0 then 0 else 1) * alignment)

/-- The front of a row of bytes and what lies behind it, if the row is long enough. -/
def cut (n : Nat) (bs : ByteArray) : Option (ByteArray × ByteArray) :=
  if n ≤ bs.size then some (bs.extract 0 n, bs.extract n bs.size) else none

/-- The word at the front of a row of bytes and what lies behind it, if there is a whole word. -/
def nextWord (bs : ByteArray) : Option (UInt32 × ByteArray) := do
  let (front, rest) ← cut 4 bs
  return (Word.value front.data.toList, rest)

/-- Small lengths can be counted. -/
theorem counted_of_lt {n : Nat} (small : n < lengthLimit) : counted n = some n := if_pos small

/-- A length is taken off one that is no smaller. -/
theorem minus_of_le {n k : Nat} (le : k ≤ n) : minus n k = some (n - k) := if_pos le

/-- A row that is long enough can be cut. -/
theorem cut_of_le {n : Nat} {bs : ByteArray} (long : n ≤ bs.size) :
    cut n bs = some (bs.extract 0 n, bs.extract n bs.size) := if_pos long

/-- Rounding up a length does not leave what can be counted if four more bytes could be counted. -/
theorem aligned_of_add_le {n : Nat} (room : n + 4 ≤ lengthLimit) : aligned n = some (align n) := by
  have rounded : (n / alignment + if n % alignment = 0 then 0 else 1) * alignment = align n := by
    rw [align_eq, alignment]
    split <;> omega
  rw [aligned, rounded, counted_of_lt (Nat.lt_of_lt_of_le (align_lt n) room)]

/-- This holds of every length that a header can announce. -/
theorem aligned_of_lt {n : Nat} (small : n < wordLimit) : aligned n = some (align n) := by
  apply aligned_of_add_le
  rw [wordLimit] at small
  rw [lengthLimit]
  omega

/-- Reading goes from one word to the next. -/
theorem nextWord_extract (bs : ByteArray) {p q : Nat} (next : q = p + 4) (inside : q ≤ bs.size) :
    nextWord (bs.extract p bs.size) = some (wordAt bs p, bs.extract q bs.size) := by
  have size : (bs.extract p bs.size).size = bs.size - p := by
    rw [ByteArray.size_extract, Nat.min_self]
  have front : (bs.extract p bs.size).extract 0 4 = bs.extract p (p + 4) := by
    rw [ByteArray.extract_extract, Nat.add_zero, Nat.min_eq_left (by omega)]
  have behind : (bs.extract p bs.size).extract 4 (bs.size - p) = bs.extract q bs.size := by
    rw [ByteArray.extract_extract, next, Nat.min_eq_right (by omega)]
  rw [nextWord, cut_of_le (by omega), size, front, behind]
  rfl

end Scan

namespace Header

/-- The header at the front of a row of bytes, read word by word. The words behind the flags are
read only if these are sound. -/
def scan (bs : ByteArray) : Option (Except HeaderError Header) := do
  if bs.size < headerSize then
    return .error (.incomplete bs.size)
  let (payloadSize, bs) ← Scan.nextWord bs
  let (routing, bs) ← Scan.nextWord bs
  let (type, bs) ← Scan.nextWord bs
  let (bits, bs) ← Scan.nextWord bs
  match Flags.ofBits bits with
  | .error e => return .error (.flags e)
  | .ok flags =>
    let (handleCount, bs) ← Scan.nextWord bs
    let (transaction, bs) ← Scan.nextWord bs
    let (seqno, bs) ← Scan.nextWord bs
    let (footerSize, _) ← Scan.nextWord bs
    return .ok
      { payloadSize
        routing := routing.toInt32
        type, flags, handleCount
        transaction := transaction.toInt32
        seqno := seqno.toInt32
        footerSize }

/-- Word by word the same header is read. -/
theorem scan_eq (bs : ByteArray) : scan bs = some (decode bs) := by
  by_cases short : bs.size < headerSize
  · rw [scan, decode, if_pos short, if_pos short]
    rfl
  have complete : headerSize ≤ bs.size := Nat.le_of_not_lt short
  have next (p q : Nat) (step : q = p + 4) (inside : q ≤ headerSize) :
      Scan.nextWord (bs.extract p bs.size) = some (wordAt bs p, bs.extract q bs.size) :=
    Scan.nextWord_extract bs step (Nat.le_trans inside complete)
  have first := next 0 4 rfl (by decide)
  rw [ByteArray.extract_zero_size] at first
  rw [scan, if_neg short, decode_eq_ofWords complete, first]
  simp only [Option.bind_eq_bind, Option.bind_some, ofWords, next 4 8 rfl (by decide),
    next 8 12 rfl (by decide), next 12 16 rfl (by decide)]
  cases Flags.ofBits (wordAt bs 12) with
  | error e => rfl
  | ok flags =>
    simp only [Option.bind_some, next 16 20 rfl (by decide), next 20 24 rfl (by decide),
      next 24 28 rfl (by decide), next 28 32 rfl (by decide)]
    rfl

/-- What lies behind a complete header does not matter to it. -/
theorem decode_extract {bs : ByteArray} (complete : headerSize ≤ bs.size) :
    decode (bs.extract 0 headerSize) = decode bs := by
  have front : (bs.extract 0 headerSize).extract 0 headerSize = bs.extract 0 headerSize := by
    rw [ByteArray.extract_extract, Nat.zero_add, Nat.zero_add, Nat.min_self]
  rw [decode, decode, size_front complete, if_neg (Nat.lt_irrefl _),
    if_neg (Nat.not_lt.2 complete), frontWords, front, frontWords]

end Header

/-- The level and the priority that a text names, found in the word of the flags. -/
def Flags.named (f : Flags) : Option (Level × Priority) := do
  let level ← Level.ofNumber? (f.bits.toNat % 4)
  let priority ← Priority.ofNumber? (f.bits.toNat / 4 % 8)
  return (level, priority)

/-- The word of flags always names a level and a priority. -/
theorem Flags.named_eq (f : Flags) : f.named = some (f.level, f.priority) := by
  obtain ⟨level, priority, -⟩ := f.fields_bits
  rw [named, toNat_bits, Level.ofNumber?_eq_some_iff.2 level,
    Priority.ofNumber?_eq_some_iff.2 priority]
  rfl

namespace Message

/-- The size of a message, if it can be counted. -/
def measured (m : Message) : Option Nat := do
  let front ← Scan.counted (headerSize + m.payload.size)
  let footer ← Scan.aligned m.footer.size
  Scan.counted (front + footer)

/-- A message at the end of reading: it is named in a text and must be no smaller than its
header. -/
def concluded (m : Message) : Option Message := do
  -- the flags are kept as their word, so naming them takes it apart a second time
  let _ ← m.header.flags.named
  let size ← m.measured
  if size < headerSize then none else some m

/-- The message whose header has been read: what lies behind it is cut into payload and footer. -/
def assembled (header : Header) (bs : ByteArray) : Option Message := do
  let (_, content) ← Scan.cut headerSize bs
  let padded ← Scan.aligned header.footerSize.toNat
  let footerStart ← Scan.minus header.payloadSize.toNat padded
  let (payload, rest) ← Scan.cut footerStart content
  concluded { header, payload, footer := rest.extract 0 header.footerSize.toNat }

/-- The message that a row of bytes is, read step by step. -/
def scan (bs : ByteArray) : Option (Except DecodeError Message) := do
  if bs.size < headerSize then
    return .error (.tooShort bs.size)
  let (front, _) ← Scan.cut headerSize bs
  match ← Header.scan front with
  | .error e => return .error (.header e)
  | .ok header =>
    let present ← Scan.minus bs.size headerSize
    if present ≠ header.payloadSize.toNat then
      return .error (.payloadMismatch header.payloadSize.toNat present)
    let padded ← Scan.aligned header.footerSize.toNat
    if padded > header.payloadSize.toNat then
      return .error (.footerTooLarge header.footerSize.toNat header.payloadSize.toNat)
    if header.handleCount.toNat > descriptorLimit then
      return .error (.tooManyHandles header.handleCount.toNat)
    let m ← assembled header bs
    return .ok m

/-- The size of a message can be counted if its header can announce what follows. -/
theorem measured_eq {m : Message} (room : m.contentSize < wordLimit) :
    m.measured = some m.size := by
  have footer : m.footer.size < wordLimit := Nat.lt_of_le_of_lt m.size_footer_le room
  have whole : m.size < lengthLimit := by
    rw [wordLimit] at room
    rw [size, headerSize, lengthLimit]
    omega
  have front : headerSize + m.payload.size < lengthLimit := by
    rw [size, contentSize] at whole
    omega
  rw [measured, Scan.counted_of_lt front, Scan.aligned_of_lt footer]
  simp only [Option.bind_eq_bind, Option.bind_some]
  rw [Nat.add_assoc, ← contentSize, ← size, Scan.counted_of_lt whole]

/-- Reading a message concludes with this message if its content is not too large. -/
theorem concluded_eq {m : Message} (room : m.contentSize < wordLimit) :
    m.concluded = some m := by
  have large : ¬ m.size < headerSize := Nat.not_lt.2 (Nat.le_add_right _ _)
  rw [concluded, Flags.named_eq, measured_eq room]
  simp only [Option.bind_eq_bind, Option.bind_some, if_neg large]

/-- Behind a header that announces the right sizes all parts are found, each at its place. -/
theorem assembled_eq {header : Header} {bs : ByteArray} {footerStart : Nat}
    (size : bs.size = headerSize + header.payloadSize.toNat)
    (roomy : footerStart + align header.footerSize.toNat = header.payloadSize.toNat) :
    assembled header bs = some
      { header
        payload := bs.extract headerSize (headerSize + footerStart)
        footer := bs.extract (headerSize + footerStart)
          (headerSize + footerStart + header.footerSize.toNat) } := by
  have footerBelow : header.footerSize.toNat < wordLimit := header.footerSize.toNat_lt
  have payloadBelow : header.payloadSize.toNat < wordLimit := header.payloadSize.toNat_lt
  have padded := le_align header.footerSize.toNat
  have content : (bs.extract headerSize bs.size).size = header.payloadSize.toNat := by
    rw [ByteArray.size_extract]
    omega
  have start : header.payloadSize.toNat - align header.footerSize.toNat = footerStart := by omega
  have payload : (bs.extract headerSize bs.size).extract 0 footerStart =
      bs.extract headerSize (headerSize + footerStart) := by
    rw [ByteArray.extract_extract, Nat.add_zero, Nat.min_eq_left (by omega)]
  have footer : ((bs.extract headerSize bs.size).extract footerStart
        (bs.extract headerSize bs.size).size).extract 0 header.footerSize.toNat =
      bs.extract (headerSize + footerStart)
        (headerSize + footerStart + header.footerSize.toNat) := by
    rw [content, ByteArray.extract_extract, ByteArray.extract_extract, Nat.add_zero,
      Nat.min_eq_left (by omega), Nat.min_eq_left (by omega), Nat.add_assoc]
  rw [assembled, Scan.cut_of_le (by omega), Scan.aligned_of_lt footerBelow]
  simp only [Option.bind_eq_bind, Option.bind_some]
  rw [Scan.minus_of_le (by omega), start]
  simp only [Option.bind_some]
  rw [Scan.cut_of_le (by omega)]
  simp only [Option.bind_some, payload, footer]
  refine concluded_eq ?_
  obtain ⟨payloadSize, footerSize⟩ := size_parts size roomy
  simp only [contentSize, payloadSize, footerSize]
  omega

/-- Step by step there always is an outcome, and it is the one of `decode`. -/
theorem scan_eq (bs : ByteArray) : scan bs = some (decode bs) := by
  by_cases short : bs.size < headerSize
  · rw [scan, decode, if_pos short, if_pos short]
    rfl
  have complete : headerSize ≤ bs.size := Nat.le_of_not_lt short
  rw [scan, decode, if_neg short, if_neg short, Scan.cut_of_le complete]
  -- behind each reason to refuse the bytes the next step can be made
  simp only [Option.bind_eq_bind, Option.bind_some, Header.scan_eq,
    Header.decode_extract complete]
  cases Header.decode bs with
  | error e => rfl
  | ok header =>
    simp only [Scan.minus_of_le complete, Option.bind_some]
    by_cases mismatch : bs.size - headerSize ≠ header.payloadSize.toNat
    · rw [if_pos mismatch, if_pos mismatch]
      rfl
    have footerBelow : header.footerSize.toNat < wordLimit := header.footerSize.toNat_lt
    rw [if_neg mismatch, if_neg mismatch, Scan.aligned_of_lt footerBelow]
    simp only [Option.bind_some]
    by_cases large : align header.footerSize.toNat > header.payloadSize.toNat
    · rw [if_pos large, if_pos large]
      rfl
    rw [if_neg large, if_neg large]
    by_cases surplus : header.handleCount.toNat > descriptorLimit
    · rw [if_pos surplus, if_pos surplus]
      rfl
    rw [if_neg surplus, if_neg surplus]
    have size : bs.size = headerSize + header.payloadSize.toNat := by omega
    rw [assembled_eq size (Nat.sub_add_cancel (Nat.le_of_not_gt large))]
    rfl

-- the padded footer is larger than any size that a header can announce
example : scan (Word.pack [0, 7, 1, 0x21, 0, 0, 0, 0xFFFFFFFF]).toByteArray =
    some (.error (.footerTooLarge 4294967295 0)) := rfl

end Message

end Interprocess
