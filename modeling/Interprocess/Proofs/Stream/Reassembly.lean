import Interprocess.Proofs.Stream.Framing
import Interprocess.Proofs.Stream.Parsing

/-!
# Reassembly

A stream is fed to a buffer piece by piece, the next message is asked for at any time, and in the
end the buffer is drained. `StreamBuffer.intake` makes such a row of moves up to the first error.
Where the pieces end and when messages are asked for makes no difference: `reassembled_as_parsed`
says that the results, and the bytes that are left, are those of the stream as a whole. For the
bytes of messages that follow each other, with the last one cut off anywhere, `framed_losslessly`
says what the results are: these messages, and no error.
-/

set_option autoImplicit false

namespace Interprocess

/-- What is done with a buffer. -/
inductive Move
  | feed (chunk : ByteArray)
  | next
deriving DecidableEq

/-- The bytes that a move feeds. -/
def Move.bytes : Move → ByteArray
  | feed chunk => chunk
  | next => ByteArray.empty

/-- The stream that is fed by some moves. -/
def fed (moves : List Move) : ByteArray :=
  concat (moves.map Move.bytes)

/-- No moves feed no bytes. -/
@[simp] theorem fed_nil : fed [] = ByteArray.empty := rfl

/-- What the first move feeds comes first. -/
@[simp] theorem fed_cons (move : Move) (moves : List Move) :
    fed (move :: moves) = move.bytes ++ fed moves := rfl

/-- What has come of a buffer. -/
structure Intake where
  /-- The messages up to the first error, and that error. -/
  results : List (Except StreamError Message)
  /-- The buffer after the last move that was made. -/
  buffer : StreamBuffer
  /-- The moves that were not made because of the error. -/
  later : List Move

namespace StreamBuffer

/-- Makes some moves and drains the buffer behind them. An error ends this at once. -/
def intake : StreamBuffer → List Move → Intake
  | b, [] => { results := b.drain.1.map Arrival.result, buffer := b.drain.2, later := [] }
  | b, .feed chunk :: moves => (b.extend chunk).intake moves
  | b, .next :: moves =>
    match b.next with
    | (.ok none, b) => b.intake moves
    | (.error e, b) => { results := [.error e], buffer := b, later := moves }
    | (.ok (some m), b) =>
      let rest := b.intake moves
      { rest with results := .ok m :: rest.results }

/-- Feeding no bytes changes nothing. -/
theorem extend_empty (b : StreamBuffer) : b.extend ByteArray.empty = b := by
  rw [extend, ByteArray.append_empty]

/-- Bytes may be fed in two goes. -/
theorem extend_append (b : StreamBuffer) (chunk later : ByteArray) :
    b.extend (chunk ++ later) = (b.extend chunk).extend later := by
  simp only [extend, ByteArray.append_assoc]

/-- A buffer that waits stays as it is. -/
theorem eq_of_next_none {b c : StreamBuffer} (waits : b.next = (.ok none, c)) : c = b := by
  unfold next at waits
  split at waits
  · exact (Prod.mk.inj waits).2.symm
  simp only at waits
  split at waits
  · simp at waits
  split at waits
  · simp at waits
  split at waits
  · exact (Prod.mk.inj waits).2.symm
  · split at waits <;> simp at waits

/-- Draining a buffer that holds a stream from some place on gives what the parser gives there. -/
theorem drainFor_behind {limit : UInt32} {stream : ByteArray} {fuel place : Nat}
    (inside : place ≤ stream.size) (enough : stream.size - place ≤ fuel) :
    ((behind limit stream place).drainFor fuel).1.map Arrival.result =
        (parseFrom limit stream place).results ∧
      ((behind limit stream place).drainFor fuel).2 =
        behind limit stream (parseFrom limit stream place).stop := by
  induction fuel generalizing place with
  | zero =>
    have headless : stream.size < place + headerSize := by
      rw [headerSize]
      omega
    rw [parseFrom, if_pos headless]
    exact ⟨rfl, rfl⟩
  | succ fuel ih =>
    obtain ⟨stop, within, left, onward, parsed⟩ := parseFrom_eq_next limit inside
    cases step : (behind limit stream place).next with
    | mk result rest =>
      rw [step] at left onward parsed
      obtain rfl : rest = behind limit stream stop := left
      cases result with
      | error e =>
        rw [parsed]
        simp [drainFor, step]
      | ok found =>
        cases found with
        | none =>
          rw [parsed]
          simp [drainFor, step]
        | some m =>
          have further := onward m rfl
          obtain ⟨results, buffer⟩ := ih within (by omega)
          rw [parsed]
          simpa [drainFor, step, results] using buffer

/-- A buffer holds some bytes of a stream, and the moves feed the bytes behind them. Then the moves
bring what the parser finds from the buffer's place on. -/
theorem intake_eq_parseFrom {limit : UInt32} {stream : ByteArray} {place : Nat} {b : StreamBuffer}
    {moves : List Move} (inside : place ≤ stream.size)
    (holds : b.extend (fed moves) = behind limit stream place) :
    (b.intake moves).results = (parseFrom limit stream place).results ∧
      (b.intake moves).buffer.extend (fed (b.intake moves).later) =
        behind limit stream (parseFrom limit stream place).stop := by
  -- the induction is over the moves; a message that is cut off takes the place further
  induction moves generalizing b place with
  | nil =>
    rw [fed_nil, extend_empty] at holds
    subst holds
    have enough : stream.size - place ≤ (behind limit stream place).size :=
      Nat.le_of_eq size_behind.symm
    simp only [intake, fed_nil, extend_empty]
    exact drainFor_behind inside enough
  | cons move moves ih =>
    cases move with
    | feed chunk =>
      rw [fed_cons, extend_append] at holds
      exact ih inside holds
    | next =>
      rw [fed_cons, Move.bytes, ByteArray.empty_append] at holds
      cases step : b.next with
      | mk result rest =>
        by_cases waits : result = .ok none
        · subst waits
          obtain rfl := eq_of_next_none step
          simp only [intake, step]
          exact ih inside holds
        -- the buffer has made up its mind, so it would do the same with all the bytes
        have whole := next_extend (fed moves) (b := b) (by rw [step]; exact waits)
        rw [holds, step] at whole
        obtain ⟨stop, within, left, -, parsed⟩ := parseFrom_eq_next limit inside
        rw [whole] at left parsed
        match result with
        | .ok none => exact absurd rfl waits
        | .error e =>
          rw [parsed]
          simpa [intake, step] using left
        | .ok (some m) =>
          obtain ⟨results, buffer⟩ := ih within left
          rw [parsed]
          simpa [intake, step, results] using buffer

/-- Only an error keeps moves from being made. -/
theorem later_eq_nil {b : StreamBuffer} {moves : List Move}
    (sound : ∀ e, .error e ∉ (b.intake moves).results) : (b.intake moves).later = [] := by
  induction moves generalizing b with
  | nil => rfl
  | cons move moves ih =>
    cases move with
    | feed chunk => exact ih sound
    | next =>
      unfold intake at sound ⊢
      match step : b.next with
      | (.ok none, c) =>
        simp only [step] at sound ⊢
        exact ih sound
      | (.error e, c) =>
        simp only [step] at sound
        exact absurd (List.mem_singleton.2 rfl) (sound e)
      | (.ok (some m), c) =>
        simp only [step] at sound ⊢
        apply ih
        intro e found
        exact sound e (List.mem_cons_of_mem _ found)

/-- An empty buffer that is fed a stream holds it from its beginning. -/
theorem empty_extend (limit : UInt32) (stream : ByteArray) :
    (empty limit).extend stream = behind limit stream 0 := by
  rw [behind, ByteArray.extract_zero_size, extend, empty, ByteArray.empty_append]

/-- While a buffer holds no more than the beginning of a message, it waits. -/
theorem next_of_part {b : StreamBuffer} {m : Message} {missing : ByteArray} (sound : m.Sound)
    (fits : m.size ≤ b.maxMessageSize.toNat) (cut : b.bytes ++ missing = m.encode)
    (proper : missing ≠ ByteArray.empty) : b.next = (.ok none, b) := by
  have total := congrArg ByteArray.size cut
  have some : 0 < missing.size := Nat.pos_of_ne_zero fun none => proper (by simpa using none)
  rw [ByteArray.size_append, Message.size_encode] at total
  apply next_incomplete sound fits
  · exact cut.trans ByteArray.append_empty.symm
  · rw [size]
    omega

/-- Of the bytes of some messages, and fewer bytes than the next one takes, the parser finds exactly
these messages. -/
theorem parseFrom_frames {limit : UInt32} {stream : ByteArray} {place : Nat} {ms : List Message}
    {m : Message} {part missing : ByteArray} (inside : place ≤ stream.size)
    (sendable : ∀ n ∈ m :: ms, n.Sound ∧ n.size ≤ limit.toNat)
    (cut : part ++ missing = m.encode) (proper : missing ≠ ByteArray.empty)
    (holds : (behind limit stream place).bytes = frames ms ++ part) :
    (parseFrom limit stream place).results = ms.map (fun n => .ok n.bare) ∧
      (behind limit stream (parseFrom limit stream place).stop).bytes = part := by
  obtain ⟨last, whole⟩ := List.forall_mem_cons.1 sendable
  clear sendable
  induction ms generalizing place with
  | nil =>
    have bytes : (behind limit stream place).bytes = part := by simpa using holds
    have waits := next_of_part last.1 last.2 (bytes ▸ cut) proper
    obtain ⟨stop, -, left, -, parsed⟩ := parseFrom_eq_next limit inside
    rw [waits] at left parsed
    rw [parsed]
    exact ⟨rfl, by rw [← left, bytes]⟩
  | cons n ms ih =>
    obtain ⟨first, others⟩ := List.forall_mem_cons.1 whole
    have step := next_encode_append first.1 first.2 (frames ms ++ part)
    have buffer : behind limit stream place =
        { bytes := n.encode ++ (frames ms ++ part), maxMessageSize := limit } := by
      rw [← ByteArray.append_assoc, ← frames_cons, ← holds]
      rfl
    rw [← buffer] at step
    obtain ⟨stop, within, left, -, parsed⟩ := parseFrom_eq_next limit inside
    rw [step] at left parsed
    obtain ⟨results, rest⟩ := ih within (by rw [← left]) others
    rw [parsed]
    exact ⟨congrArg (.ok n.bare :: ·) results, rest⟩

/-! ## What the pieces come to -/

/-- Wherever a stream is cut and whenever messages are asked for, the results up to the first error
are those of the stream as a whole, and so are the bytes that are left: those in the buffer when the
error came or the stream was over, and those that were to be fed later. What a buffer has found out
does not change when more bytes arrive. -/
theorem reassembled_as_parsed (limit : UInt32) (moves : List Move) :
    let stream := fed moves
    let whole := parse limit stream
    let intake := (empty limit).intake moves
    intake.results = whole.results ∧
      intake.buffer.bytes ++ fed intake.later = whole.rest stream ∧
      ((∀ e, .error e ∉ whole.results) → intake.later = []) ∧
      ∀ (b : StreamBuffer) (chunk : ByteArray), b.next.1 ≠ .ok none →
        (b.extend chunk).next = (b.next.1, b.next.2.extend chunk) := by
  obtain ⟨results, buffer⟩ := intake_eq_parseFrom (Nat.zero_le _) (empty_extend limit (fed moves))
  refine ⟨results, congrArg StreamBuffer.bytes buffer, ?_, fun b => next_extend⟩
  intro sound
  apply later_eq_nil
  rw [results]
  exact sound

/-- A message, a header whose flags mean nothing, and a message that nobody gets to see. -/
def spoilt : ByteArray :=
  (Message.dispatchFailure .insideSync).encode ++ zeros 32 ++
    (Message.dispatchFailure .notNested).encode

/-- The error comes as soon as the spoilt header is complete, while the last message has not arrived
yet, and it is the one that the stream as a whole shows. -/
theorem reassembled_as_parsed_spoilt :
    let moves := (chunks 20 spoilt).flatMap fun chunk => [.feed chunk, .next]
    let intake := (empty 64).intake moves
    fed moves = spoilt ∧ intake.later = [.feed (spoilt.extract 80 96), .next] ∧
      intake.results = (parse 64 spoilt).results ∧
      intake.buffer.bytes ++ fed intake.later = (parse 64 spoilt).rest spoilt ∧
      ((empty 64).extend (zeros 32)).next.1 ≠ .ok none ∧
      (((empty 64).extend (zeros 32)).extend spoilt).next =
        (((empty 64).extend (zeros 32)).next.1,
          ((empty 64).extend (zeros 32)).next.2.extend spoilt) := by
  intro moves intake
  have stream : fed moves = spoilt := by decide +kernel
  have unmade : intake.later = [.feed (spoilt.extract 80 96), .next] := by decide +kernel
  have refused : ((empty 64).extend (zeros 32)).next.1 ≠ .ok none := nofun
  obtain ⟨results, rest, -, settled⟩ := reassembled_as_parsed 64 moves
  rw [stream] at results rest
  exact ⟨stream, unmade, results, rest, refused, settled _ spoilt refused⟩

/-- The bytes of messages that follow each other, and some bytes of one more, are cut apart into
exactly these messages, wherever the pieces end. The bytes of the unfinished message stay. -/
theorem framed_losslessly {limit : UInt32} {ms : List Message} {m : Message}
    {part missing : ByteArray} {moves : List Move}
    (built : ∀ n ∈ m :: ms, n.Built ∧ n.size ≤ limit.toNat)
    (cut : part ++ missing = m.encode) (proper : missing ≠ ByteArray.empty)
    (stream : fed moves = frames ms ++ part) :
    let intake := (empty limit).intake moves
    intake.results = ms.map (fun n => .ok n.bare) ∧ intake.later = [] ∧
      intake.buffer.next = (.ok none, intake.buffer) ∧ intake.buffer.bytes = part ∧
      intake.buffer.size = part.size := by
  have sendable : ∀ n ∈ m :: ms, n.Sound ∧ n.size ≤ limit.toNat := fun n mem =>
    ⟨(built n mem).1.sound, (built n mem).2⟩
  have last := sendable m List.mem_cons_self
  have holds := empty_extend limit (fed moves)
  have bytes : (behind limit (fed moves) 0).bytes = frames ms ++ part := by
    rw [← holds, ← stream]
    exact ByteArray.empty_append
  obtain ⟨results, rest⟩ := parseFrom_frames (Nat.zero_le _) sendable cut proper bytes
  obtain ⟨same, buffer⟩ := intake_eq_parseFrom (Nat.zero_le _) holds
  have all : ((empty limit).intake moves).later = [] := by
    apply later_eq_nil
    rw [same, results]
    simp
  rw [all, fed_nil, extend_empty] at buffer
  have left : ((empty limit).intake moves).buffer.bytes = part := by rw [buffer, rest]
  refine ⟨same.trans results, all, ?_, left, congrArg ByteArray.size left⟩
  refine next_of_part last.1 ?_ ?_ proper
  · rw [buffer]
    exact last.2
  · rw [left, cut]

/-- The bytes of a message, of another one without content, and five bytes of a third. -/
def unfinished : ByteArray :=
  frames [Message.laden, .dispatchFailure .notNested] ++ ⟨#[0, 0, 0, 0, 0]⟩

/-- The stream arrives seven bytes at a time, and a message is asked for after each piece. -/
def pieces : List Move :=
  .feed ByteArray.empty :: (chunks 7 unfinished).flatMap fun chunk => [.feed chunk, .next]

/-- The pieces end inside headers and inside a footer, and both messages are cut off whole. -/
theorem framed_losslessly_unfinished :
    (fed pieces).size = 74 ∧
      ((empty 37).intake pieces).results =
        [.ok Message.laden.bare, .ok (Message.dispatchFailure .notNested).bare] ∧
      ((empty 37).intake pieces).buffer.size = 5 := by
  have built : ∀ n ∈ [.dispatchFailure .insideSync, Message.laden, .dispatchFailure .notNested],
      n.Built ∧ n.size ≤ (37 : UInt32).toNat := by
    intro n mem
    simp only [List.mem_cons, List.not_mem_nil, or_false] at mem
    rcases mem with rfl | rfl | rfl
    · exact ⟨.dispatchFailure _, by decide⟩
    · exact ⟨Message.built_laden, by decide⟩
    · exact ⟨.dispatchFailure _, by decide⟩
  have cut : (⟨#[0, 0, 0, 0, 0]⟩ : ByteArray) ++
      (Message.dispatchFailure .insideSync).encode.extract 5 32 =
        (Message.dispatchFailure .insideSync).encode := by decide
  have stream : fed pieces = unfinished := by decide +kernel
  obtain ⟨results, -, -, -, size⟩ := framed_losslessly built cut (by decide) stream
  exact ⟨by decide, results, size⟩

end StreamBuffer

end Interprocess
