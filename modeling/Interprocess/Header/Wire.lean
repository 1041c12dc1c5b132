import Interprocess.Header.Basic
import Interprocess.Wire.Align
import Interprocess.Wire.Word

/-!
# Headers on the wire

A header is eight little-endian words. `Header.encode` writes them and `Header.decode` reads them
from the front of a row of bytes, refusing only a row that is too short and a flags word that stands
for no flags. `messageSize` reads no more than the first word of a complete header and says how many
bytes its message takes. The main statements are `decode_encode_append`, that a header is read back
whatever follows it, and `encode_of_decode`, that an accepted header is written back byte for byte.
-/

set_option autoImplicit false

namespace Interprocess

/-- Why bytes do not begin with a header. -/
inductive HeaderError
  | incomplete (present : Nat)
  | flags (error : Flags.BitsError)
deriving DecidableEq, Repr

/-- The text of a refused header. -/
def HeaderError.message : HeaderError → String
  | incomplete present => s!"incomplete message header: {present} of {headerSize} bytes"
  | flags error => error.message

namespace Header

/-- The eight words of a header, in the order of the wire. -/
def words (h : Header) : List UInt32 :=
  [h.payloadSize, h.routing.toUInt32, h.type, h.flags.bits, h.handleCount,
    h.transaction.toUInt32, h.seqno.toUInt32, h.footerSize]

/-- The bytes of a header. -/
def encode (h : Header) : ByteArray :=
  (Word.pack h.words).toByteArray

/-- The header that eight words stand for. -/
def ofWords : List UInt32 → Except HeaderError Header
  | [payloadSize, routing, type, bits, handleCount, transaction, seqno, footerSize] =>
    match Flags.ofBits bits with
    | .error e => .error (.flags e)
    | .ok flags =>
      .ok
        { payloadSize
          routing := routing.toInt32
          type, flags, handleCount
          transaction := transaction.toInt32
          seqno := seqno.toInt32
          footerSize }
  | ws => .error (.incomplete (4 * ws.length))

/-- The words at the front of a row of bytes, as many as a header has. -/
def frontWords (bs : ByteArray) : List UInt32 :=
  Word.unpack (bs.extract 0 headerSize).data.toList

/-- The header at the front of a row of bytes. -/
def decode (bs : ByteArray) : Except HeaderError Header :=
  if bs.size < headerSize then .error (.incomplete bs.size) else ofWords (frontWords bs)

end Header

/-- The size of the message whose header begins a row of bytes, or zero while the header is not
complete, and zero also for a size that a word cannot hold. -/
def messageSize (bs : ByteArray) : Nat :=
  if bs.size < headerSize then 0
  else
    let size := headerSize + (Word.value (bs.extract 0 4).data.toList).toNat
    if size < wordLimit then size else 0

namespace Header

/-- A header consists of eight words. -/
@[simp] theorem length_words (h : Header) : h.words.length = 8 := rfl

/-- A header takes up the same number of bytes, whatever it says. -/
@[simp] theorem size_encode (h : Header) : h.encode.size = headerSize := by
  rw [encode, List.size_toByteArray, Word.length_pack, length_words]
  rfl

/-- The words of a header make up that header again. -/
theorem ofWords_words (h : Header) : ofWords h.words = .ok h := by
  simp only [words, ofWords, Flags.ofBits_bits]
  rfl

/-- The words in front are those of the header, whatever follows it. -/
theorem frontWords_encode_append (h : Header) (rest : ByteArray) :
    frontWords (h.encode ++ rest) = h.words := by
  have front : (h.encode ++ rest).extract 0 headerSize = h.encode :=
    ByteArray.extract_append_eq_left h.size_encode.symm
  rw [frontWords, front, encode, List.data_toByteArray, Word.unpack_pack]

/-- A header is read back, whatever follows it. -/
theorem decode_encode_append (h : Header) (rest : ByteArray) :
    decode (h.encode ++ rest) = .ok h := by
  have long : ¬ (h.encode ++ rest).size < headerSize := by
    rw [ByteArray.size_append, size_encode]
    omega
  rw [decode, if_neg long, frontWords_encode_append, ofWords_words]

/-- What is cut off the front is a whole header. -/
theorem size_front {bs : ByteArray} (complete : headerSize ≤ bs.size) :
    (bs.extract 0 headerSize).size = headerSize := by
  rw [ByteArray.size_extract]
  omega

/-- A header has the words that it was made of. -/
theorem words_of_ofWords {ws : List UInt32} {h : Header} (eq : ofWords ws = .ok h) :
    h.words = ws := by
  unfold ofWords at eq
  split at eq
  · split at eq
    · contradiction
    · next flags accepted =>
      obtain rfl := Except.ok.inj eq
      simp only [words, Flags.bits_of_ofBits accepted]
      rfl
  · contradiction

/-- An accepted header is written back byte for byte. -/
theorem encode_of_decode {bs : ByteArray} {h : Header} (eq : decode bs = .ok h) :
    h.encode = bs.extract 0 headerSize := by
  unfold decode at eq
  split at eq
  · contradiction
  next long =>
  have length : (bs.extract 0 headerSize).data.toList.length = 4 * 8 := by
    rw [Array.length_toList, ByteArray.size_data, size_front (Nat.le_of_not_lt long)]
    rfl
  rw [encode, words_of_ofWords eq, frontWords, Word.pack_unpack length]
  exact ByteArray.ext (List.data_toByteArray)

end Header

end Interprocess
