import Interprocess.Proofs.Message.Fields

/-!
# The sizes of a message agree

How large a message is stands in its header, follows from its parts, is the number of bytes that are
written, and is read off those bytes by a receiver. The main statement, `sizes_agree`, is that these
are the same for every message that callers can come by, after whatever was written, read and taken.
Only the receiver's reading has a gap: a message whose content just fits its size field is too
large, header included, to be counted by a word, and then nothing is read off.
-/

set_option autoImplicit false

namespace Interprocess.Message

/-- The header announces the sizes of the parts, the size is the number of bytes that are written,
and it is read off these bytes, whatever follows them, if a word can hold it. -/
theorem sizes_agree {m : Message} (built : m.Built) :
    m.header.payloadSize.toNat = m.payload.size + align m.footer.size ∧
      m.header.footerSize.toNat = m.footer.size ∧
      m.size = m.sizeIfSerialized ∧
      m.sizeIfSerialized = headerSize + m.header.payloadSize.toNat ∧
      m.encode.size = m.size ∧
      ∀ rest : ByteArray,
        messageSize (m.encode ++ rest) = if m.size < wordLimit then m.size else 0 := by
  have sound := built.sound
  have whole : m.sizeIfSerialized = headerSize + m.header.payloadSize.toNat := by
    rw [sound.payloadSize]
    rfl
  refine ⟨sound.payloadSize, sound.footerSize, rfl, whole, m.size_encode, ?_⟩
  intro rest
  exact messageSize_encode_append sound rest

/-- A message with more zeros at the end of its payload. -/
def filledUp (m : Message) (n : Nat) : Message := (m.extended (zeros n)).withSizes

/-- The content grows by the zeros that are added, in whole words. -/
theorem contentSize_filledUp (m : Message) (n : Nat) :
    (m.filledUp n).contentSize = m.contentSize + align n := by
  have grown := contentSize_extended m (zeros n)
  rw [size_zeros] at grown
  exact grown

/-- Callers can come by a message that is filled up, if there is room for the zeros. -/
theorem built_filledUp {m : Message} (built : m.Built) {n : Nat}
    (room : (m.filledUp n).contentSize < wordLimit) : (m.filledUp n).Built := by
  have fits : (m.extended (zeros n)).contentSize < wordLimit := room
  have run : (Operation.write (.bytes (zeros n))).run m = (none, m.filledUp n) := by
    show (refusal ((writeAligned (zeros n)).run m), leaving ((writeAligned (zeros n)).run m)) = _
    rw [run_writeAligned, if_pos fits]
    rfl
  have written := built.step (.write (.bytes (zeros n)))
  rw [run] at written
  exact written (by simp)

/-- The message with an odd payload and a footer, filled up with zeros. -/
def brimful : Message := laden.filledUp 4294967288

/-- The brimful message has two bytes less content than could be announced. -/
theorem contentSize_brimful : brimful.contentSize = 4294967293 := by
  have before : laden.contentSize = 5 := by decide
  rw [brimful, contentSize_filledUp, before, align_eq]

/-- The content still fits its field, but with its header the message is too large for a word, so a
receiver cannot tell where it ends. Before it was filled up, it could. -/
theorem sizes_agree_brimful :
    laden.Built ∧ laden.header.payloadSize.toNat = 5 ∧ laden.encode.size = 37 ∧
      messageSize (laden.encode ++ zeros 3) = 37 ∧
      brimful.Built ∧ brimful.header.payloadSize.toNat = 4294967293 ∧
      brimful.encode.size = 4294967325 ∧ messageSize (brimful.encode ++ zeros 3) = 0 := by
  have room : brimful.contentSize < wordLimit := by
    rw [contentSize_brimful]
    decide
  have built : brimful.Built := built_filledUp built_laden room
  obtain ⟨-, -, -, -, bytes, read⟩ := sizes_agree built_laden
  obtain ⟨announced, -, -, -, bytes', gap⟩ := sizes_agree built
  have field : brimful.header.payloadSize.toNat = 4294967293 := by
    rw [announced, ← contentSize, contentSize_brimful]
  have whole : brimful.size = 4294967325 := by
    rw [size, contentSize_brimful, headerSize]
  refine ⟨built_laden, by decide, by rw [bytes]; decide, ?_, built, field, by rw [bytes', whole], ?_⟩
  · rw [read]
    decide
  · rw [gap, whole]
    exact if_neg (by decide)

end Interprocess.Message
