import Interprocess.Header.Wire
import Interprocess.Message.Basic

/-!
# Messages on the wire

On the wire a message is its header, its payload, its footer and zeros up to a whole word.
`Message.encode` writes these bytes and `Message.decode` takes them apart again. It accepts a row of
bytes if the header is sound, announces exactly the bytes that follow it, has room for the footer,
and does not announce too many file handles; the message has no attachments yet. This is what
`decode_eq_ok_iff` says.
-/

set_option autoImplicit false

namespace Interprocess

/-- Why bytes are not one message. -/
inductive DecodeError
  | tooShort (present : Nat)
  | header (error : HeaderError)
  | payloadMismatch (announced present : Nat)
  | footerTooLarge (footer payload : Nat)
  | tooManyHandles (announced : Nat)
deriving DecidableEq, Repr

/-- The text of refused bytes. -/
def DecodeError.message : DecodeError → String
  | tooShort present =>
    s!"message of {present} bytes is shorter than the header size of {headerSize} bytes"
  | header error => error.message
  | payloadMismatch announced present =>
    s!"header announces a payload of {announced} bytes, but {present} bytes are present"
  | footerTooLarge footer payload =>
    s!"footer of {footer} bytes exceeds the payload of {payload} bytes"
  | tooManyHandles announced =>
    s!"message announces {announced} file handles, the limit is {descriptorLimit}"

namespace Message

/-- The bytes of a message. -/
def encode (m : Message) : ByteArray :=
  m.header.encode ++ m.payload ++ m.footer ++ zeros (padding m.footer.size)

/-- The message that a row of bytes is. -/
def decode (bs : ByteArray) : Except DecodeError Message :=
  if bs.size < headerSize then .error (.tooShort bs.size)
  else
    match Header.decode bs with
    | .error e => .error (.header e)
    | .ok header =>
      let payloadSize := header.payloadSize.toNat
      let footerSize := header.footerSize.toNat
      if bs.size - headerSize ≠ payloadSize then
        .error (.payloadMismatch payloadSize (bs.size - headerSize))
      else if align footerSize > payloadSize then
        .error (.footerTooLarge footerSize payloadSize)
      else if header.handleCount.toNat > descriptorLimit then
        .error (.tooManyHandles header.handleCount.toNat)
      else
        let footerStart := headerSize + (payloadSize - align footerSize)
        .ok
          { header
            payload := bs.extract headerSize footerStart
            footer := bs.extract footerStart (footerStart + footerSize) }

/-- The parts that a row of bytes is cut into have the sizes that its header announces. -/
theorem size_parts {bs : ByteArray} {payloadSize footerStart footerSize : Nat}
    (size : bs.size = headerSize + payloadSize)
    (roomy : footerStart + align footerSize = payloadSize) :
    (bs.extract headerSize (headerSize + footerStart)).size = footerStart ∧
      (bs.extract (headerSize + footerStart) (headerSize + footerStart + footerSize)).size =
        footerSize := by
  have padded := le_align footerSize
  rw [ByteArray.size_extract, ByteArray.size_extract]
  omega

/-- What it takes for a row of bytes to be a message, and which message it is then. -/
theorem decode_eq_ok_iff {bs : ByteArray} {m : Message} :
    decode bs = .ok m ↔
      ∃ header footerStart, Header.decode bs = .ok header ∧
        bs.size = headerSize + header.payloadSize.toNat ∧
        footerStart + align header.footerSize.toNat = header.payloadSize.toNat ∧
        header.handleCount.toNat ≤ descriptorLimit ∧
        m =
          { header
            payload := bs.extract headerSize (headerSize + footerStart)
            footer := bs.extract (headerSize + footerStart)
              (headerSize + footerStart + header.footerSize.toNat) } := by
  constructor
  · intro accepted
    unfold decode at accepted
    split at accepted
    · contradiction
    next long =>
    split at accepted
    · contradiction
    next header sound =>
    simp only at accepted
    split at accepted
    · contradiction
    next fits =>
    split at accepted
    · contradiction
    next roomy =>
    split at accepted
    · contradiction
    next few =>
    exact ⟨header, _, sound, by omega, Nat.sub_add_cancel (Nat.le_of_not_gt roomy),
      Nat.le_of_not_gt few, (Except.ok.inj accepted).symm⟩
  · rintro ⟨header, footerStart, sound, size, roomy, few, rfl⟩
    have long : ¬ bs.size < headerSize := by omega
    have fits : ¬ bs.size - headerSize ≠ header.payloadSize.toNat := by omega
    have inside : ¬ align header.footerSize.toNat > header.payloadSize.toNat := by omega
    have start : header.payloadSize.toNat - align header.footerSize.toNat = footerStart := by omega
    rw [decode, if_neg long, sound]
    simp only [if_neg fits, if_neg inside, if_neg (Nat.not_lt.2 few), start]

/-- The bytes of a message are as many as its size says. -/
@[simp] theorem size_encode (m : Message) : m.encode.size = m.size := by
  simp only [encode, ByteArray.size_append, Header.size_encode, size_zeros, size, contentSize,
    Nat.add_assoc, add_padding]

end Message

end Interprocess
