import Interprocess.Proofs.Message.RoundTrip
import Interprocess.Stream.Buffer

/-!
# Messages on a stream

The bytes of messages that follow each other are cut apart again, wherever the chunks end in which
they arrive. Of a buffer that begins with the bytes of a sound message there are three cases: the
message is there in full and is cut off (`next_encode_append`), some of its bytes have not arrived
(`next_incomplete`), or it is larger than the limit (`next_tooLarge`). Sender and receiver measure a
message differently, and they agree on which ones are too large: what the limit admits is cut off
(`next_eq_bare_iff`), and what it does not admit fails (`next_isError_iff`).
-/

set_option autoImplicit false

namespace Interprocess

/-- The bytes of several messages, one behind the other. -/
def frames (ms : List Message) : ByteArray :=
  concat (ms.map Message.encode)

/-- No messages take no bytes. -/
@[simp] theorem frames_nil : frames [] = ByteArray.empty := rfl

/-- The first message comes first. -/
@[simp] theorem frames_cons (m : Message) (ms : List Message) :
    frames (m :: ms) = m.encode ++ frames ms := rfl

/-- The bytes of two rows of messages lie one behind the other. -/
@[simp] theorem frames_append (ms ns : List Message) :
    frames (ms ++ ns) = frames ms ++ frames ns := by
  rw [frames, List.map_append, concat_append]
  rfl

namespace StreamBuffer

variable {limit : UInt32} {m : Message}

/-- A size that keeps the limit is one that a header can announce. -/
theorem size_lt_wordLimit (fits : m.size ≤ limit.toNat) : m.size < wordLimit :=
  Nat.lt_of_le_of_lt fits limit.toNat_lt

/-- Every message takes some bytes. -/
theorem size_pos (m : Message) : 0 < m.size := by
  rw [Message.size]
  exact Nat.lt_of_lt_of_le (by decide) (Nat.le_add_right headerSize m.contentSize)

/-- Every message takes the bytes of a header at least. -/
theorem headerSize_le_size (m : Message) : headerSize ≤ m.size :=
  Nat.le_add_right headerSize m.contentSize

/-- A message that is there in full is cut off, and what follows it is left. -/
theorem next_encode_append (sound : m.Sound) (fits : m.size ≤ limit.toNat) (rest : ByteArray) :
    next { bytes := m.encode ++ rest, maxMessageSize := limit } =
      (.ok (some m.bare), { bytes := rest, maxMessageSize := limit }) := by
  have total : (m.encode ++ rest).size = m.size + rest.size := by
    rw [ByteArray.size_append, Message.size_encode]
  have long : ¬ (m.encode ++ rest).size < headerSize := by
    have := headerSize_le_size m
    omega
  have announced : messageSize (m.encode ++ rest) = m.size := by
    rw [Message.messageSize_encode_append sound, if_pos (size_lt_wordLimit fits)]
  have nonzero : ¬ m.size = 0 := Nat.ne_of_gt (size_pos m)
  have allowed : ¬ m.size > limit.toNat := Nat.not_lt.2 fits
  have complete : ¬ (m.encode ++ rest).size < m.size := by omega
  have front : (m.encode ++ rest).extract 0 m.size = m.encode :=
    ByteArray.extract_append_eq_left m.size_encode.symm
  have behind : (m.encode ++ rest).extract m.size (m.encode ++ rest).size = rest :=
    ByteArray.extract_append_eq_right m.size_encode.symm ByteArray.size_append
  simp only [next, if_neg long, announced, if_neg nonzero, if_neg allowed, if_neg complete, front,
    behind, Message.decode_encode sound]

/-- While bytes of the next message are missing, there is none, and the buffer stays. -/
theorem next_incomplete {b : StreamBuffer} {later rest : ByteArray} (sound : m.Sound)
    (fits : m.size ≤ b.maxMessageSize.toNat) (begins : b.bytes ++ later = m.encode ++ rest)
    (short : b.size < m.size) : b.next = (.ok none, b) := by
  by_cases headless : b.bytes.size < headerSize
  · rw [next, if_pos headless]
  have announced : messageSize b.bytes = m.size := by
    rw [← messageSize_append (Nat.le_of_not_lt headless) later, begins,
      Message.messageSize_encode_append sound, if_pos (size_lt_wordLimit fits)]
  have nonzero : ¬ m.size = 0 := Nat.ne_of_gt (size_pos m)
  have allowed : ¬ m.size > b.maxMessageSize.toNat := Nat.not_lt.2 fits
  have short' : b.bytes.size < m.size := short
  simp only [next, if_neg headless, announced, if_neg nonzero, if_neg allowed, if_pos short']

/-- A message that is larger than the limit ends the stream. -/
theorem next_tooLarge (sound : m.Sound) (large : limit.toNat < m.size) (rest : ByteArray) :
    next { bytes := m.encode ++ rest, maxMessageSize := limit } =
      (.error (if m.size < wordLimit then .tooLarge m.size limit else .sizeOverflow),
        { bytes := m.encode ++ rest, maxMessageSize := limit }) := by
  have long : ¬ (m.encode ++ rest).size < headerSize := by
    have := headerSize_le_size m
    rw [ByteArray.size_append, Message.size_encode]
    omega
  have nonzero : ¬ m.size = 0 := Nat.ne_of_gt (size_pos m)
  by_cases countable : m.size < wordLimit
  · have announced : messageSize (m.encode ++ rest) = m.size := by
      rw [Message.messageSize_encode_append sound, if_pos countable]
    simp only [next, if_neg long, announced, if_neg nonzero, if_pos large, if_pos countable]
  · have announced : messageSize (m.encode ++ rest) = 0 := by
      rw [Message.messageSize_encode_append sound, if_neg countable]
    simp only [next, if_neg long, announced, if_true, if_neg countable]

/-- The limit on the size that a header announces admits the messages whose parts keep it. -/
theorem next_eq_bare_iff (sound : m.Sound) (rest : ByteArray) :
    (next { bytes := m.encode ++ rest, maxMessageSize := limit }).1 = .ok (some m.bare) ↔
      m.size ≤ limit.toNat := by
  constructor
  · intro cut
    refine Nat.le_of_not_lt fun large => ?_
    rw [next_tooLarge sound large] at cut
    contradiction
  · intro fits
    rw [next_encode_append sound fits]

/-- The stream fails on the messages whose parts do not keep the limit, and on no other. -/
theorem next_isError_iff (sound : m.Sound) (rest : ByteArray) :
    (∃ e, (next { bytes := m.encode ++ rest, maxMessageSize := limit }).1 = .error e) ↔
      limit.toNat < m.size := by
  constructor
  · rintro ⟨e, failed⟩
    refine Nat.lt_of_not_le fun fits => ?_
    rw [next_encode_append sound fits] at failed
    contradiction
  · intro large
    rw [next_tooLarge sound large]
    exact ⟨_, rfl⟩

end StreamBuffer

end Interprocess
