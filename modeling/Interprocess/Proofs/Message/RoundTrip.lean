import Interprocess.Proofs.Message.Built
import Interprocess.Proofs.Wire.Concat

/-!
# Messages there and back

The bytes of a message whose header announces the sizes of its parts are taken apart into the same
header, payload and footer; only the attachments, which travel beside the bytes, are missing. The
main statements are `decode_encode` and `messageSize_append`, by which the size of a message is
known as soon as its header is there, whatever follows, and `recovered_from_bytes` for every message
that callers can come by.
-/

set_option autoImplicit false

namespace Interprocess

namespace Message

/-- A message without its attachments. -/
def bare (m : Message) : Message := { m with attachments := ∅ }

/-- A sound message is read back from its bytes, without its attachments. -/
theorem decode_encode {m : Message} (sound : m.Sound) : decode m.encode = .ok m.bare := by
  have long : ¬ m.encode.size < headerSize := by
    rw [size_encode, size]
    omega
  have parts : m.encode =
      m.header.encode ++ (m.payload ++ (m.footer ++ zeros (padding m.footer.size))) := by
    rw [encode, ByteArray.append_assoc, ByteArray.append_assoc]
  have header : Header.decode m.encode = .ok m.header := by
    rw [parts, Header.decode_encode_append]
  have rest : m.encode.size - headerSize = m.contentSize := by
    rw [size_encode, size]
    omega
  have payloadEnd : m.contentSize - align m.footer.size = m.payload.size := by
    rw [contentSize]
    omega
  have payload : m.encode.extract headerSize (headerSize + m.payload.size) = m.payload := by
    rw [parts, extract_between _ _ _ m.header.size_encode.symm]
  have footer : m.encode.extract (headerSize + m.payload.size)
      (headerSize + m.payload.size + m.footer.size) = m.footer := by
    rw [parts, ← ByteArray.append_assoc]
    refine extract_between _ _ _ ?_
    rw [ByteArray.size_append, Header.size_encode]
  have roomy : ¬ align m.footer.size > m.contentSize := by
    rw [contentSize]
    omega
  have few : ¬ m.header.handleCount.toNat > descriptorLimit := Nat.not_lt.2 sound.handleCount
  rw [decode, if_neg long, header]
  simp only [sound.payloadSize, sound.footerSize, rest, payloadEnd, payload, footer, if_neg roomy,
    if_neg few, ne_eq, not_true_eq_false, if_false]
  rfl

end Message

/-- The size that a header announces is known as soon as the header is complete. -/
theorem messageSize_append {bs : ByteArray} (complete : headerSize ≤ bs.size) (rest : ByteArray) :
    messageSize (bs ++ rest) = messageSize bs := by
  have long : ¬ (bs ++ rest).size < headerSize := by
    rw [ByteArray.size_append]
    omega
  have word : (bs ++ rest).extract 0 4 = bs.extract 0 4 := by
    have enough : 4 ≤ bs.size := Nat.le_trans (by decide) complete
    have nothing : rest.extract (0 - bs.size) (4 - bs.size) = ByteArray.empty :=
      ByteArray.extract_eq_empty_iff.2 (by omega)
    rw [ByteArray.extract_append, nothing, ByteArray.append_empty]
  rw [messageSize, messageSize, if_neg long, if_neg (Nat.not_lt.2 complete), word]

/-- A header announces the bytes that follow it, if all of them together can be counted. -/
theorem messageSize_encode (h : Header) :
    messageSize h.encode =
      if headerSize + h.payloadSize.toNat < wordLimit then headerSize + h.payloadSize.toNat
      else 0 := by
  have long : ¬ h.encode.size < headerSize := by
    rw [Header.size_encode]
    omega
  have parts : h.encode = (Word.bytes h.payloadSize).toByteArray ++
      (Word.pack (h.words.drop 1)).toByteArray := by
    rw [Header.encode, ← List.toByteArray_append]
    rfl
  have word : h.encode.extract 0 4 = (Word.bytes h.payloadSize).toByteArray := by
    rw [parts]
    refine ByteArray.extract_append_eq_left ?_
    rw [List.size_toByteArray, Word.length_bytes]
  rw [messageSize, if_neg long, word, List.data_toByteArray, Word.value_bytes]

namespace Message

/-- The bytes of a message begin with its header. -/
theorem encode_eq_header_append (m : Message) :
    m.encode = m.header.encode ++ (m.payload ++ m.footer ++ zeros (padding m.footer.size)) := by
  rw [encode, ByteArray.append_assoc, ByteArray.append_assoc, ByteArray.append_assoc]

/-- The size of a sound message is read off its header. -/
theorem messageSize_encode_append {m : Message} (sound : m.Sound) (rest : ByteArray) :
    messageSize (m.encode ++ rest) = if m.size < wordLimit then m.size else 0 := by
  have complete : headerSize ≤ m.header.encode.size := Nat.le_of_eq m.header.size_encode.symm
  rw [encode_eq_header_append, ByteArray.append_assoc, messageSize_append complete,
    messageSize_encode, sound.payloadSize]
  rfl

/-! ## What the bytes say about a message -/

/-- The bytes of a message that callers can come by are taken apart into its header, its payload and
its footer, without attachments. So they leave nothing open but the attachments. -/
theorem recovered_from_bytes {m : Message} (built : m.Built) :
    (∃ n, decode m.encode = .ok n ∧ n.header = m.header ∧ n.payload = m.payload ∧
      n.footer = m.footer ∧ n.attachments = ∅) ∧
    ∀ n : Message, n.Built → n.encode = m.encode →
      n.header = m.header ∧ n.payload = m.payload ∧ n.footer = m.footer := by
  have decoded := decode_encode built.sound
  refine ⟨⟨m.bare, decoded, rfl, rfl, rfl, rfl⟩, fun n other same => ?_⟩
  have again := decode_encode other.sound
  rw [same, decoded] at again
  have bare : m.bare = n.bare := Except.ok.inj again
  have header : m.bare.header = n.bare.header := by rw [bare]
  have payload : m.bare.payload = n.bare.payload := by rw [bare]
  have footer : m.bare.footer = n.bare.footer := by rw [bare]
  exact ⟨header.symm, payload.symm, footer.symm⟩

/-- A message whose payload is a single byte, as no caller writes it but any peer can send it. -/
def ragged : Message :=
  { header := { Header.addressed 7 1 {} with payloadSize := 1 }
    payload := ⟨#[255]⟩ }

/-- The same message, received and then given a footer and a file handle. -/
def laden : Message :=
  ((Operation.attachHandles [{ id := 3 }]).run
    ((Operation.writeFooter ⟨#[1, 2, 3]⟩).run ragged).2).2

/-- Callers can come by such a message. -/
theorem built_laden : laden.Built := by
  have sound : ragged.Sound := ⟨by decide, by decide, by decide⟩
  have received : ragged.Built := .decoded (decode_encode sound)
  exact .step _ (.step _ received (by decide)) (by decide)

/-- The payload fills no whole word, so the footer does not begin at one. Taking the
attachments does not show in the bytes. -/
theorem recovered_from_bytes_ragged :
    laden.payload.size = 1 ∧ laden.footer.size = 3 ∧
      (∃ n, decode laden.encode = .ok n ∧ n.header = laden.header ∧ n.payload = laden.payload ∧
        n.footer = laden.footer ∧ n.attachments = ∅) ∧
      laden.takeAttachments.2.attachments ≠ laden.attachments ∧
      laden.takeAttachments.2.header = laden.header ∧
      laden.takeAttachments.2.payload = laden.payload ∧
      laden.takeAttachments.2.footer = laden.footer := by
  have taken : laden.takeAttachments.2.Built := built_laden.step .takeAttachments (by decide)
  obtain ⟨recovered, determined⟩ := recovered_from_bytes built_laden
  exact ⟨by decide, by decide, recovered, by decide, determined _ taken rfl⟩

end Message

end Interprocess
