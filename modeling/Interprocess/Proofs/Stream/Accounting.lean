import Interprocess.Proofs.Message.Grammar
import Interprocess.Proofs.Stream.Reassembly

/-!
# Where the bytes of a stream go

A buffer that is asked for the next message cuts off the bytes of a message, which it returns or
rejects, or it leaves its bytes as they are: while it waits, and for good once a header announces a
size that is out of the question. `Yields` says so once. From it follow the bound on what a
waiting buffer holds, that draining comes to an end, and, for calls in any order and also behind
errors, that no byte is lost or counted twice. The main statement is `every_byte_accounted_for`.
-/

set_option autoImplicit false

namespace Interprocess

/-- Whether an error is about the size that a header announces, rather than about a message. -/
def StreamError.isAboutSize : StreamError → Bool
  | sizeOverflow | tooLarge _ _ => true
  | malformed _ => false

/-- A message that was read takes as many bytes as were read. -/
theorem Message.size_of_decode {bs : ByteArray} {m : Message} (accepted : decode bs = .ok m) :
    m.size = bs.size := by
  obtain ⟨-, whole, -⟩ := encode_of_decode accepted
  have padded := add_padding m.footer.size
  rw [size, contentSize]
  omega

/-- A size that is announced at all is that of a header and what follows it. -/
theorem headerSize_le_messageSize {bs : ByteArray} (announced : messageSize bs ≠ 0) :
    headerSize ≤ messageSize bs := by
  unfold messageSize at announced ⊢
  split
  · next short => exact absurd (if_pos short) announced
  next complete =>
  simp only [if_neg complete] at announced ⊢
  split
  · exact Nat.le_add_right _ _
  · next uncountable => exact absurd (if_neg uncountable) announced

/-- The size of several rows together is the sum of their sizes. -/
theorem size_concat (rows : List ByteArray) :
    (concat rows).size = (rows.map ByteArray.size).sum := by
  induction rows with
  | nil => rfl
  | cons row rows ih => rw [concat_cons, ByteArray.size_append, ih, List.map_cons, List.sum_cons]

namespace StreamBuffer

/-- What a buffer holds is a row of bytes and then what another buffer holds. -/
structure Cuts (b : StreamBuffer) (row : ByteArray) (c : StreamBuffer) : Prop where
  bytes : b.bytes = row ++ c.bytes
  limit : c.maxMessageSize = b.maxMessageSize

/-- What can come of asking for a message: a buffer waits with few bytes, or it refuses a size and
stays as it is, or it cuts off the announced bytes and returns or rejects the message that they
should be. -/
inductive Yields (b : StreamBuffer) : Except StreamError (Option Message) × StreamBuffer → Prop
  | waits (few : b.size < max headerSize b.maxMessageSize.toNat) : Yields b (.ok none, b)
  | refused {e : StreamError} (size : e.isAboutSize) (headed : headerSize ≤ b.size) :
      Yields b (.error e, b)
  | returned {row : ByteArray} {c : StreamBuffer} {m : Message} (cuts : b.Cuts row c)
      (large : headerSize ≤ row.size) (accepted : Message.decode row = .ok m) :
      Yields b (.ok (some m), c)
  | rejected {row : ByteArray} {c : StreamBuffer} {e : DecodeError} (cuts : b.Cuts row c)
      (announced : row.size = messageSize b.bytes) (large : headerSize ≤ row.size)
      (malformed : Message.decode row = .error e) :
      Yields b (.error (.malformed e), c)

/-- The cases of `Yields` are all that can come of asking for a message. -/
theorem yields (b : StreamBuffer) : b.Yields b.next := by
  unfold next
  split
  · next headless => exact .waits (Nat.lt_of_lt_of_le headless (Nat.le_max_left _ _))
  next headed =>
  have headed : headerSize ≤ b.size := Nat.le_of_not_lt headed
  simp only
  split
  · exact .refused rfl headed
  next countable =>
  split
  · exact .refused rfl headed
  next within =>
  split
  · next short =>
    refine .waits (Nat.lt_of_lt_of_le short ?_)
    exact Nat.le_trans (Nat.le_of_not_gt within) (Nat.le_max_right _ _)
  next enough =>
  have enough : messageSize b.bytes ≤ b.bytes.size := Nat.le_of_not_lt enough
  have announced : (b.bytes.extract 0 (messageSize b.bytes)).size = messageSize b.bytes := by
    rw [ByteArray.size_extract, Nat.min_eq_left enough, Nat.sub_zero]
  have large := (headerSize_le_messageSize countable).trans_eq announced.symm
  have cuts : b.Cuts (b.bytes.extract 0 (messageSize b.bytes))
      { b with bytes := b.bytes.extract (messageSize b.bytes) b.bytes.size } := by
    refine ⟨?_, rfl⟩
    rw [extract_join b.bytes (Nat.zero_le _) enough, ByteArray.extract_zero_size]
  split
  · next accepted => exact .returned cuts large accepted
  · next malformed => exact .rejected cuts announced large malformed

/-! ## Single calls -/

variable {b c : StreamBuffer}

/-- A message that is returned was read from the row of bytes that is cut off. -/
theorem next_of_some {m : Message} (returned : b.next = (.ok (some m), c)) :
    ∃ row, b.Cuts row c ∧ Message.decode row = .ok m ∧ headerSize ≤ row.size := by
  have yields := b.yields
  rw [returned] at yields
  cases yields with
  | returned cuts large accepted => exact ⟨_, cuts, accepted, large⟩

/-- A buffer that waits stays as it is and holds few bytes. -/
theorem next_of_none (waits : b.next = (.ok none, c)) :
    c = b ∧ b.size < max headerSize b.maxMessageSize.toNat := by
  have yields := b.yields
  rw [waits] at yields
  cases yields with
  | waits few => exact ⟨rfl, few⟩

/-- A buffer that refuses a size stays as it is. -/
theorem next_of_isAboutSize {e : StreamError} (size : e.isAboutSize)
    (refused : b.next = (.error e, c)) : c = b ∧ headerSize ≤ b.size := by
  have yields := b.yields
  rw [refused] at yields
  cases yields with
  | refused _ headed => exact ⟨rfl, headed⟩
  | rejected => contradiction

/-- A message that is rejected is cut off with all its bytes. -/
theorem next_of_malformed {e : DecodeError} (rejected : b.next = (.error (.malformed e), c)) :
    ∃ row, b.Cuts row c ∧ Message.decode row = .error e ∧ row.size = messageSize b.bytes ∧
      headerSize ≤ row.size := by
  have yields := b.yields
  rw [rejected] at yields
  cases yields with
  | refused size => contradiction
  | rejected cuts announced large malformed => exact ⟨_, cuts, malformed, announced, large⟩

/-- The bytes that are cut off and those that are left are all bytes. -/
theorem Cuts.size {row : ByteArray} (cuts : b.Cuts row c) : b.size = row.size + c.size := by
  rw [StreamBuffer.size, cuts.bytes, ByteArray.size_append]
  rfl

/-! ## Draining -/

/-- The buffer is asked for messages until there is none or an error comes. -/
inductive Drains : StreamBuffer → List (Except StreamError Message) → StreamBuffer → Prop
  | waits {b c : StreamBuffer} : b.next = (.ok none, c) → Drains b [] c
  | fails {b c : StreamBuffer} {e : StreamError} : b.next = (.error e, c) → Drains b [.error e] c
  | returns {b c d : StreamBuffer} {m : Message} {results : List (Except StreamError Message)} :
    b.next = (.ok (some m), c) → Drains c results d → Drains b (.ok m :: results) d

/-- With every message the buffer becomes smaller, so draining comes to an end. -/
theorem drains_drainFor {fuel : Nat} (enough : b.size ≤ fuel) :
    b.Drains ((drainFor fuel b).1.map Arrival.result) (drainFor fuel b).2 := by
  induction fuel generalizing b with
  | zero =>
    have headless : b.bytes.size < headerSize := Nat.lt_of_le_of_lt enough (by decide)
    refine .waits ?_
    rw [next, if_pos headless]
    rfl
  | succ fuel ih =>
    rcases step : b.next with ⟨e | _ | m, c⟩
    · simp only [drainFor, step]
      exact .fails step
    · simp only [drainFor, step]
      exact .waits step
    · obtain ⟨row, cuts, -, large⟩ := next_of_some step
      have shorter := cuts.size
      rw [headerSize] at large
      simp only [drainFor, step]
      exact .returns step (ih (by omega))

/-- There is one way only in which draining can go. -/
theorem Drains.unique {results others : List (Except StreamError Message)} {d : StreamBuffer}
    (first : b.Drains results c) (second : b.Drains others d) : results = others ∧ c = d := by
  induction first generalizing others d with
  | waits step =>
    cases second with
    | waits again =>
      rw [step] at again
      exact ⟨rfl, (Prod.mk.inj again).2⟩
    | fails again | returns again =>
      rw [step] at again
      simp at again
  | fails step =>
    cases second with
    | fails again =>
      rw [step] at again
      obtain ⟨same, rfl⟩ := Prod.mk.inj again
      obtain rfl := Except.error.inj same
      exact ⟨rfl, rfl⟩
    | waits again | returns again =>
      rw [step] at again
      simp at again
  | returns step rest ih =>
    cases second with
    | returns again later =>
      rw [step] at again
      obtain ⟨same, rfl⟩ := Prod.mk.inj again
      obtain rfl := Option.some.inj (Except.ok.inj same)
      obtain ⟨rfl, rfl⟩ := ih later
      exact ⟨rfl, rfl⟩
    | waits again | fails again =>
      rw [step] at again
      simp at again

/-- Every result of draining stands for a header at least. -/
theorem Drains.length_le {results : List (Except StreamError Message)} (drains : b.Drains results c) :
    headerSize * results.length ≤ b.size := by
  induction drains with
  | waits => exact Nat.zero_le _
  | @fails b c e step =>
    rw [List.length_singleton, Nat.mul_one]
    match e with
    | .sizeOverflow | .tooLarge _ _ => exact (next_of_isAboutSize rfl step).2
    | .malformed e =>
      obtain ⟨row, cuts, -, -, large⟩ := next_of_malformed step
      exact Nat.le_trans large (cuts.size ▸ Nat.le_add_right _ _)
  | returns step rest ih =>
    obtain ⟨row, cuts, -, large⟩ := next_of_some step
    rw [List.length_cons, Nat.mul_succ, cuts.size]
    omega

/-! ## Any row of calls -/

/-- What a move makes of a buffer. -/
def make (b : StreamBuffer) : Move → StreamBuffer
  | .feed chunk => b.extend chunk
  | .next => b.next.2

/-- The buffer after some moves, which go on behind an error. -/
def after (b : StreamBuffer) (moves : List Move) : StreamBuffer := moves.foldl make b

/-- The buffer as it is each time when some moves ask it for a message. -/
def calls : StreamBuffer → List Move → List StreamBuffer
  | _, [] => []
  | b, .feed chunk :: moves => (b.extend chunk).calls moves
  | b, .next :: moves => b :: b.next.2.calls moves

/-- The message that a buffer returns. -/
def returned? (b : StreamBuffer) : Option Message :=
  match b.next.1 with
  | .ok found => found
  | .error _ => none

/-- The bytes of the announced message, if the buffer rejects it. -/
def rejected? (b : StreamBuffer) : Option ByteArray :=
  match b.next.1 with
  | .error (.malformed _) => some (b.bytes.extract 0 (messageSize b.bytes))
  | _ => none

/-- The bytes of the message that a buffer returns or rejects, if it does. -/
def settled (b : StreamBuffer) : ByteArray :=
  match b.returned? with
  | some m => b.bytes.extract 0 m.size
  | none => b.rejected?.getD ByteArray.empty

/-- The bytes that are settled by a returned message are those that it was read from. -/
theorem settled_of_returned {m : Message} {row : ByteArray} (returned : b.next = (.ok (some m), c))
    (cuts : b.Cuts row c) (accepted : Message.decode row = .ok m) : b.settled = row := by
  simp only [settled, returned?, returned, Message.size_of_decode accepted]
  rw [cuts.bytes, ByteArray.extract_append_eq_left rfl]

/-- The bytes of the message are what is missing afterwards. -/
theorem settled_append (b : StreamBuffer) : b.settled ++ b.next.2.bytes = b.bytes := by
  match step : b.next with
  | (.ok none, c) =>
    obtain ⟨rfl, -⟩ := next_of_none step
    simp [settled, returned?, rejected?, step]
  | (.ok (some m), c) =>
    obtain ⟨row, cuts, accepted, -⟩ := next_of_some step
    rw [settled_of_returned step cuts accepted, cuts.bytes]
  | (.error (.malformed e), c) =>
    obtain ⟨row, cuts, -, announced, -⟩ := next_of_malformed step
    simp only [settled, returned?, rejected?, step, Option.getD_some, ← announced]
    rw [cuts.bytes, ByteArray.extract_append_eq_left rfl]
  | (.error .sizeOverflow, c) | (.error (.tooLarge _ _), c) =>
    obtain ⟨rfl, -⟩ := next_of_isAboutSize rfl step
    simp [settled, returned?, rejected?, step]

/-- If a message is returned, asking for one has succeeded with it. -/
theorem returned?_eq_some {m : Message} (returned : b.returned? = some m) :
    b.next = (.ok (some m), b.next.2) := by
  match step : b.next with
  | (.ok found, c) =>
    simp only [returned?, step] at returned
    rw [returned]
  | (.error e, c) => simp [returned?, step] at returned

/-- How many bytes these are. -/
theorem size_settled (b : StreamBuffer) :
    b.settled.size =
      (b.returned?.map Message.size).getD 0 + (b.rejected?.map ByteArray.size).getD 0 := by
  match found : b.returned? with
  | none =>
    simp only [settled, found]
    cases b.rejected? <;> simp
  | some m =>
    have step := returned?_eq_some found
    obtain ⟨row, cuts, accepted, -⟩ := next_of_some step
    have none : b.rejected? = none := by
      unfold rejected?
      rw [step]
    rw [settled_of_returned step cuts accepted, none, ← Message.size_of_decode accepted]
    rfl

/-- What a buffer held and was fed are the bytes that it settled and those that it holds. -/
theorem settled_calls (b : StreamBuffer) (moves : List Move) :
    b.bytes ++ fed moves = concat ((b.calls moves).map settled) ++ (b.after moves).bytes := by
  induction moves generalizing b with
  | nil => simp [calls, after]
  | cons move moves ih =>
    cases move with
    | feed chunk =>
      rw [fed_cons, ← ByteArray.append_assoc]
      exact ih (b.extend chunk)
    | next =>
      rw [fed_cons, Move.bytes, ByteArray.empty_append, calls, List.map_cons, concat_cons,
        ByteArray.append_assoc]
      have rest := ih b.next.2
      rw [show b.after (.next :: moves) = b.next.2.after moves from rfl, ← rest,
        ← ByteArray.append_assoc, settled_append]

/-- The bytes of what was returned and of what was rejected, counted apart. -/
theorem sum_size_settled (calls : List StreamBuffer) :
    ((calls.map settled).map ByteArray.size).sum =
      ((calls.filterMap returned?).map Message.size).sum +
        ((calls.filterMap rejected?).map ByteArray.size).sum := by
  induction calls with
  | nil => rfl
  | cons b calls ih =>
    have first (n : Option Nat) (rest : List Nat) :
        (n.toList ++ rest).sum = n.getD 0 + rest.sum := by
      cases n <;> simp
    simp only [List.map_cons, List.sum_cons, size_settled, ih, List.filterMap_cons]
    cases b.returned? <;> cases b.rejected? <;> simp <;> omega

/-- A refusal that leaves a buffer as it is comes again with every later call, whatever arrives. -/
theorem refused_again {e : StreamError} (refused : b.next = (.error e, b))
    (moves : List Move) :
    b.after moves = b.extend (fed moves) ∧ ∀ asked ∈ b.calls moves, asked.next.1 = .error e := by
  induction moves generalizing b with
  | nil => exact ⟨(extend_empty b).symm, nofun⟩
  | cons move moves ih =>
    cases move with
    | feed chunk =>
      have still : (b.extend chunk).next = (.error e, b.extend chunk) := by
        rw [next_extend chunk (by rw [refused]; simp), refused]
      obtain ⟨after, calls⟩ := ih still
      rw [fed_cons, Move.bytes, extend_append]
      exact ⟨after, calls⟩
    | next =>
      obtain ⟨after, calls⟩ := ih refused
      rw [fed_cons, Move.bytes, ByteArray.empty_append]
      have same : b.next.2 = b := by rw [refused]
      refine ⟨?_, ?_⟩
      · show b.next.2.after moves = _
        rw [same, after]
      · show ∀ asked ∈ b :: b.next.2.calls moves, _
        rw [same]
        exact List.forall_mem_cons.2 ⟨by rw [refused], calls⟩

/-- Whatever a buffer holds and whatever its limit is: a message is returned after exactly its bytes
were cut off, and writing it out gives them but for the padding of its footer; a buffer that waits
stays as it is and holds few bytes; a size that is refused leaves the buffer as it is and is refused
again by every later call; a message that is rejected is cut off as it was announced. So draining
comes to an end, in one way only, and in any row of calls all bytes are those of messages that were
returned or rejected, and those that are left. -/
theorem every_byte_accounted_for (b : StreamBuffer) :
    (∀ m c, b.next = (.ok (some m), c) →
      ∃ row, b.Cuts row c ∧ row.size = m.size ∧ headerSize ≤ m.size ∧
        m.encode = row.extract 0 (row.size - padding m.footer.size) ++
          zeros (padding m.footer.size)) ∧
    (∀ c, b.next = (.ok none, c) → c = b ∧ b.size < max headerSize b.maxMessageSize.toNat) ∧
    (∀ (e : StreamError) (c : StreamBuffer), e.isAboutSize → b.next = (.error e, c) → c = b ∧
      ∀ moves, b.after moves = b.extend (fed moves) ∧
        ∀ asked ∈ b.calls moves, asked.next.1 = .error e) ∧
    (∀ e c, b.next = (.error (.malformed e), c) →
      ∃ row, b.Cuts row c ∧ row.size = messageSize b.bytes ∧ headerSize ≤ row.size ∧
        Message.decode row = .error e) ∧
    (b.Drains (b.drain.1.map Arrival.result) b.drain.2 ∧
      ∀ results c, b.Drains results c →
        results = b.drain.1.map Arrival.result ∧ c = b.drain.2 ∧
          headerSize * results.length ≤ b.size) ∧
    ∀ moves,
      b.bytes ++ fed moves = concat ((b.calls moves).map settled) ++ (b.after moves).bytes ∧
      b.size + (fed moves).size =
        (((b.calls moves).filterMap returned?).map Message.size).sum +
          (((b.calls moves).filterMap rejected?).map ByteArray.size).sum +
          (b.after moves).size := by
  refine ⟨?_, fun c => next_of_none, ?_, ?_, ?_, ?_⟩
  · intro m c returned
    obtain ⟨row, cuts, accepted, large⟩ := next_of_some returned
    have size := Message.size_of_decode accepted
    obtain ⟨-, -, rewritten⟩ := Message.encode_of_decode accepted
    exact ⟨row, cuts, size.symm, large.trans_eq size.symm, rewritten⟩
  · intro e c size refused
    obtain ⟨rfl, -⟩ := next_of_isAboutSize size refused
    exact ⟨rfl, refused_again refused⟩
  · intro e c rejected
    obtain ⟨row, cuts, refused, announced, large⟩ := next_of_malformed rejected
    exact ⟨row, cuts, announced, large, refused⟩
  · have drains : b.Drains (b.drain.1.map Arrival.result) b.drain.2 := drains_drainFor (Nat.le_refl _)
    refine ⟨drains, fun results c other => ?_⟩
    obtain ⟨same, rest⟩ := other.unique drains
    exact ⟨same, rest, other.length_le⟩
  · intro moves
    have whole := settled_calls b moves
    refine ⟨whole, ?_⟩
    have sizes := congrArg ByteArray.size whole
    rw [ByteArray.size_append, ByteArray.size_append, size_concat, sum_size_settled] at sizes
    exact sizes

/-- A header that announces more bytes than can be counted. -/
def boundless : ByteArray := (Word.pack [0xFFFFFFFF, 0, 0, 0, 0, 0, 0, 0]).toByteArray

/-- A message with something else than zeros behind its footer, a header whose flags mean nothing,
which comes in two pieces, and a header that announces too much, each of them asked for. -/
def mixed : List Move :=
  [.feed (Message.unclean ++ zeros 20), .next, .next, .feed (zeros 12), .next, .feed boundless, .next,
    .feed (zeros 5), .next]

/-- The message that is cut off when it is asked for the first time. -/
def cleaned : Message where
  header := { Header.addressed 7 1 { sync := true } with payloadSize := 4, footerSize := 1 }
  footer := ⟨#[9]⟩

/-- Each of the four things that can happen to a buffer happens. -/
theorem every_byte_accounted_for_mixed :
    (∃ row, ((empty 36).extend (Message.unclean ++ zeros 20)).Cuts row ((empty 36).extend (zeros 20)) ∧
      row.size = cleaned.size) ∧
    ((empty 36).extend (zeros 20)).size < max headerSize 36 ∧
    (∃ row, ((empty 36).extend (zeros 32)).Cuts row (empty 36) ∧ row.size = headerSize) ∧
    ((empty 36).extend boundless).after [.feed (zeros 5), .next] =
      ((empty 36).extend boundless).extend (zeros 5) ∧
    (fed mixed).size = cleaned.size + 32 + ((empty 36).after mixed).size := by
  have returned : ((empty 36).extend (Message.unclean ++ zeros 20)).next =
      (.ok (some cleaned), (empty 36).extend (zeros 20)) := by
    have found : ((empty 36).extend (Message.unclean ++ zeros 20)).returned? = some cleaned := by
      decide +kernel
    rw [returned?_eq_some found]
    rfl
  have messages : ((empty 36).calls mixed).filterMap returned? = [cleaned] := by decide +kernel
  have headers : ((empty 36).calls mixed).filterMap rejected? = [zeros 32] := by decide +kernel
  obtain ⟨cut, -⟩ := every_byte_accounted_for ((empty 36).extend (Message.unclean ++ zeros 20))
  obtain ⟨-, waits, -⟩ := every_byte_accounted_for ((empty 36).extend (zeros 20))
  obtain ⟨-, -, -, rejected, -⟩ := every_byte_accounted_for ((empty 36).extend (zeros 32))
  obtain ⟨-, -, refused, -⟩ := every_byte_accounted_for ((empty 36).extend boundless)
  obtain ⟨-, -, -, -, -, settled⟩ := every_byte_accounted_for (empty 36)
  obtain ⟨row, cuts, size, -, -⟩ := cut _ _ returned
  obtain ⟨junk, cutsJunk, announced, -⟩ := rejected _ _ rfl
  obtain ⟨-, still⟩ := refused .sizeOverflow _ rfl rfl
  obtain ⟨-, sizes⟩ := settled mixed
  refine ⟨⟨row, cuts, size⟩, (waits _ rfl).2, ⟨junk, cutsJunk, announced⟩, (still _).1, ?_⟩
  have nothing : (empty 36).size = 0 := rfl
  rw [messages, headers, nothing, Nat.zero_add] at sizes
  simpa only [List.map_cons, List.map_nil, List.sum_singleton, size_zeros] using sizes

end StreamBuffer

end Interprocess
