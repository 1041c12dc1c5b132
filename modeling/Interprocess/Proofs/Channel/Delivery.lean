import Interprocess.Channel.Receive
import Interprocess.Proofs.Stream.Framing

/-!
# From chunks and parcels back to messages

Bytes and attachments of a message travel on two ways, and nothing but their order says which belong
together. `Sendable` is what a channel asks of a message, `Message.parcel` what travels beside its
bytes, and `Message.arriving` what the receiver makes of both. The main statement is
`receive_frames`: where the bytes that are there are those of some messages, one behind the other,
and the parcels are theirs, the loop hands over exactly these messages, wherever the chunks end.
-/

set_option autoImplicit false

namespace Interprocess

/-- What travels beside the bytes of a message: the attachments that are left, in slot order. -/
def Message.parcel (m : Message) : Parcel :=
  { handles := m.attachments.handles.remaining
    ports := m.attachments.ports.remaining }

/-- What arrives of a message: all but the empty slots. -/
def Message.arriving (m : Message) : Message :=
  { m with
    attachments.handles := .ofList m.attachments.handles.remaining
    attachments.ports := .ofList m.attachments.ports.remaining }

/-- A message that a channel with a given limit takes on. -/
structure Message.Sendable (limit : UInt32) (m : Message) : Prop where
  sound : m.Sound
  fits : m.size ≤ limit.toNat
  handles : m.attachments.handles.remaining.length = m.header.handleCount.toNat

/-- The announced handles are those that travel, so the message is joined with them as it was. -/
theorem attach_parcel {limit : UInt32} {m : Message} (sendable : m.Sendable limit) :
    m.parcel.attach m.bare = .ok m.arriving := by
  have count : m.parcel.handles.length = m.bare.header.handleCount.toNat := sendable.handles
  have few : ¬ m.parcel.handles.length > descriptorLimit := by
    rw [count]
    exact Nat.not_lt.2 sendable.sound.handleCount
  have noHandles : m.bare.attachments.handles.isEmpty = true := rfl
  have noPorts : (m.bare.withHandles m.parcel.handles).attachments.ports.isEmpty = true := rfl
  have handles := Message.run_attachHandles m.parcel.handles m.bare
  rw [noHandles, if_neg (by decide), if_neg few] at handles
  have ports := Message.run_attachPorts m.parcel.ports (m.bare.withHandles m.parcel.handles)
  rw [noPorts, if_neg (by decide)] at ports
  have same : UInt32.ofNat m.parcel.handles.length = m.header.handleCount := by
    rw [count]
    exact UInt32.ofNat_toNat
  simp only [Parcel.attach, count, ne_eq, not_true_eq_false, if_false, EStateM.run_bind, handles,
    ports]
  simp only [Message.withPorts, Message.withHandles, same]
  rfl

section

variable (senderPresent : Bool)

/-- Of a buffer that begins with the bytes of some messages, those that are there in full are joined
with their parcels, and the rest waits for the bytes that come later. -/
theorem deliverFor_frames {fuel : Nat} {ms : List Message} {buffer : StreamBuffer}
    {later : ByteArray} (sendable : ∀ m ∈ ms, m.Sendable buffer.maxMessageSize)
    (stream : buffer.bytes ++ later = frames ms) (enough : buffer.size < fuel) :
    ∃ whole missing rest,
      ms = whole ++ missing ∧ rest ++ later = frames missing ∧
      (∀ m ∈ missing.head?, rest.size < m.size) ∧
      deliverFor senderPresent fuel buffer (ms.map Message.parcel) =
        (whole.map Message.arriving, { buffer with bytes := rest },
          missing.map Message.parcel, .needsBytes) := by
  induction ms generalizing fuel buffer with
  | nil =>
    obtain ⟨fuel, rfl⟩ := Nat.exists_eq_add_one_of_ne_zero (Nat.ne_of_gt (Nat.zero_lt_of_lt enough))
    have nothing : buffer.bytes = ByteArray.empty := (ByteArray.append_eq_empty_iff.1 stream).1
    have none : buffer.next = (.ok none, buffer) := by
      rw [StreamBuffer.next, nothing, if_pos (by decide)]
    refine ⟨[], [], buffer.bytes, rfl, stream, by simp, ?_⟩
    simp only [deliverFor, none, List.map_nil]
  | cons m ms ih =>
    obtain ⟨fuel, rfl⟩ := Nat.exists_eq_add_one_of_ne_zero (Nat.ne_of_gt (Nat.zero_lt_of_lt enough))
    obtain ⟨first, others⟩ := List.forall_mem_cons.1 sendable
    rw [frames_cons] at stream
    by_cases complete : m.size ≤ buffer.size
    · obtain ⟨rest, bytes, stream'⟩ := exists_of_append_eq stream (by
        rw [Message.size_encode]
        exact complete)
      have cut : buffer.next = (.ok (some m.bare), { buffer with bytes := rest }) := by
        have := StreamBuffer.next_encode_append first.sound first.fits rest
        rwa [← bytes] at this
      have shorter : rest.size < fuel := by
        have total : buffer.size = m.size + rest.size := by
          rw [StreamBuffer.size, bytes, ByteArray.size_append, Message.size_encode]
        have := StreamBuffer.size_pos m
        omega
      obtain ⟨whole, missing, left, split, missed, short, run⟩ :=
        @ih fuel { buffer with bytes := rest } others stream' shorter
      refine ⟨m :: whole, missing, left, by rw [split, List.cons_append], missed, short, ?_⟩
      simp only [deliverFor, cut, List.map_cons, attach_parcel first, run]
    · have none : buffer.next = (.ok none, buffer) :=
        StreamBuffer.next_incomplete first.sound first.fits stream (Nat.lt_of_not_le complete)
      refine ⟨[], m :: ms, buffer.bytes, rfl, stream, ?_, ?_⟩
      · intro n head
        obtain rfl := Option.some.inj head
        exact Nat.lt_of_not_le complete
      · simp only [deliverFor, none, List.map_nil]

/-- Where the bytes that are there are those of some messages and the parcels are theirs, exactly
these messages are handed over, and nothing is left of either. -/
theorem receive_frames (received : List Message) {ms : List Message} {chunks : List ByteArray}
    {buffer : StreamBuffer} (sendable : ∀ m ∈ ms, m.Sendable buffer.maxMessageSize)
    (stream : buffer.bytes ++ concat chunks = frames ms) :
    receive senderPresent received chunks buffer (ms.map Message.parcel) =
      { messages := received ++ ms.map Message.arriving
        buffer := { buffer with bytes := ByteArray.empty }
        chunks := []
        parcels := []
        pause := .needsBytes } := by
  induction chunks generalizing received ms buffer with
  | nil =>
    obtain ⟨whole, missing, rest, split, missed, short, run⟩ :=
      deliverFor_frames senderPresent sendable stream (Nat.lt_succ_self _)
    rw [concat_nil, ByteArray.append_empty] at missed
    -- no bytes come later, so a message that is not there in full would be cut short
    have none : missing = [] := by
      cases missing with
      | nil => rfl
      | cons m missing =>
        have short := short m rfl
        rw [missed, frames_cons, ByteArray.size_append, Message.size_encode] at short
        omega
    subst none
    rw [List.append_nil] at split
    rw [frames_nil] at missed
    unfold receive
    rw [deliver, run, split, missed]
    rfl
  | cons chunk chunks ih =>
    obtain ⟨whole, missing, rest, split, missed, -, run⟩ :=
      deliverFor_frames senderPresent sendable stream (Nat.lt_succ_self _)
    have others : ∀ m ∈ missing, m.Sendable buffer.maxMessageSize := fun m mem =>
      sendable m (split ▸ List.mem_append_right whole mem)
    have stream' : (({ buffer with bytes := rest } : StreamBuffer).extend chunk).bytes ++
        concat chunks = frames missing := by
      rw [← missed, concat_cons, ← ByteArray.append_assoc]
      rfl
    have tail := @ih (received ++ whole.map Message.arriving) missing
      (({ buffer with bytes := rest } : StreamBuffer).extend chunk) others stream'
    unfold receive
    rw [deliver, run]
    refine tail.trans ?_
    rw [split, List.map_append, List.append_assoc]
    rfl

end

end Interprocess
