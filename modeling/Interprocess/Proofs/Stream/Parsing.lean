import Interprocess.Proofs.Message.RoundTrip
import Interprocess.Proofs.Message.Scan
import Interprocess.Stream.Buffer

/-!
# A stream as a whole

`parse` reads a stream that is there from end to end. It keeps no buffer: it knows the place that it
has come to, looks up in the word at that place how long the next message is, and goes on behind it.
`StreamBuffer.next` sees only the bytes that have arrived. The two agree in the following sense. A
buffer that holds a stream from some place on makes the step that `parseFrom` makes at this place
(`parseFrom_eq_next`), and a buffer that holds fewer bytes either makes the same step or waits
(`next_extend`).
-/

set_option autoImplicit false

namespace Interprocess

/-- What a whole stream comes to. -/
structure Parse where
  /-- The messages up to the first error, and that error. -/
  results : List (Except StreamError Message)
  /-- The place behind the last byte that belongs to one of the results. -/
  stop : Nat

/-- Reads a stream from a place on. A size that is impossible or forbidden is refused where it is
announced, whatever follows; the bytes of a message are looked at once all of them are there. -/
def parseFrom (limit : UInt32) (stream : ByteArray) (place : Nat) : Parse :=
  if stream.size < place + headerSize then { results := [], stop := place }
  else
    let size := headerSize + (wordAt stream place).toNat
    if wordLimit ≤ size then { results := [.error .sizeOverflow], stop := place }
    else if limit.toNat < size then { results := [.error (.tooLarge size limit)], stop := place }
    else if stream.size < place + size then { results := [], stop := place }
    else
      match Message.decode (stream.extract place (place + size)) with
      | .error e => { results := [.error (.malformed e)], stop := place + size }
      | .ok m =>
        let later := parseFrom limit stream (place + size)
        { results := .ok m :: later.results, stop := later.stop }
termination_by stream.size - place
decreasing_by
  simp only [headerSize] at *
  omega

/-- Reads a stream from its beginning. -/
def parse (limit : UInt32) (stream : ByteArray) : Parse :=
  parseFrom limit stream 0

/-- A message of a stream lies between two places of it. -/
theorem exists_decode_of_mem_parseFrom {limit : UInt32} {stream : ByteArray} {place : Nat}
    {m : Message} (mem : .ok m ∈ (parseFrom limit stream place).results) :
    ∃ start stop, Message.decode (stream.extract start stop) = .ok m := by
  fun_induction parseFrom limit stream place with
  | case1 | case4 => contradiction
  | case2 | case3 | case5 => exact nomatch List.mem_singleton.1 mem
  | case6 place headed size countable small complete n accepted later ih =>
    rcases List.mem_cons.1 mem with same | behind
    · obtain rfl := Except.ok.inj same
      exact ⟨_, _, accepted⟩
    · exact ih behind

/-- The bytes of a stream that belong to none of the results. -/
def Parse.rest (p : Parse) (stream : ByteArray) : ByteArray :=
  stream.extract p.stop stream.size

/-- What a buffer holds when everything before a place has been cut off. -/
def StreamBuffer.behind (limit : UInt32) (stream : ByteArray) (place : Nat) : StreamBuffer :=
  { bytes := stream.extract place stream.size, maxMessageSize := limit }

section

variable {limit : UInt32} {stream : ByteArray} {place : Nat}

/-- Cutting bytes off does not change the limit. -/
@[simp] theorem limit_behind : (StreamBuffer.behind limit stream place).maxMessageSize = limit := rfl

/-- A buffer behind a place holds the bytes from there on. -/
theorem size_behind : (StreamBuffer.behind limit stream place).bytes.size = stream.size - place := by
  simp [StreamBuffer.behind]

/-- The size of the next message is announced by the word at its place. -/
theorem messageSize_behind (complete : place + headerSize ≤ stream.size) :
    messageSize (StreamBuffer.behind limit stream place).bytes =
      if headerSize + (wordAt stream place).toNat < wordLimit then
        headerSize + (wordAt stream place).toNat
      else 0 := by
  have long : ¬ (StreamBuffer.behind limit stream place).bytes.size < headerSize := by
    rw [size_behind]
    omega
  have word : (StreamBuffer.behind limit stream place).bytes.extract 0 4 =
      stream.extract place (place + 4) := by
    rw [StreamBuffer.behind, ByteArray.extract_extract, Nat.add_zero,
      Nat.min_eq_left (by rw [headerSize] at complete; omega)]
  rw [messageSize, if_neg long, word]
  rfl

/-- A message at a place of a stream lies at the front of the buffer, and the buffer is left with
what follows it. -/
theorem extract_behind (limit : UInt32) {size : Nat} (inside : place + size ≤ stream.size) :
    (StreamBuffer.behind limit stream place).bytes.extract 0 size =
        stream.extract place (place + size) ∧
      (StreamBuffer.behind limit stream place).bytes.extract size
          (StreamBuffer.behind limit stream place).bytes.size =
        (StreamBuffer.behind limit stream (place + size)).bytes := by
  rw [size_behind]
  simp only [StreamBuffer.behind, ByteArray.extract_extract]
  constructor
  · congr 1
    omega
  · congr 1
    omega

/-! ## One step of the buffer and one step of the parser -/

/-- What a buffer does that holds a stream from some place on. -/
theorem next_behind (limit : UInt32) (complete : place + headerSize ≤ stream.size) :
    (StreamBuffer.behind limit stream place).next =
      let size := headerSize + (wordAt stream place).toNat
      if wordLimit ≤ size then (.error .sizeOverflow, .behind limit stream place)
      else if limit.toNat < size then
        (.error (.tooLarge size limit), .behind limit stream place)
      else if stream.size < place + size then (.ok none, .behind limit stream place)
      else
        match Message.decode (stream.extract place (place + size)) with
        | .error e => (.error (.malformed e), .behind limit stream (place + size))
        | .ok m => (.ok (some m), .behind limit stream (place + size)) := by
  have long : ¬ (StreamBuffer.behind limit stream place).bytes.size < headerSize := by
    rw [size_behind]
    omega
  have positive : 0 < headerSize := by decide
  simp only [StreamBuffer.next, if_neg long, messageSize_behind complete, limit_behind, gt_iff_lt]
  by_cases countable : headerSize + (wordAt stream place).toNat < wordLimit
  · have nonzero : ¬ headerSize + (wordAt stream place).toNat = 0 := by omega
    rw [if_pos countable, if_neg nonzero, if_neg (Nat.not_le.2 countable)]
    by_cases large : limit.toNat < headerSize + (wordAt stream place).toNat
    · rw [if_pos large, if_pos large]
    rw [if_neg large, if_neg large]
    by_cases short : stream.size < place + (headerSize + (wordAt stream place).toNat)
    · rw [if_pos short, if_pos (by rw [size_behind]; omega)]
    · obtain ⟨front, rest⟩ := extract_behind limit (Nat.le_of_not_lt short)
      rw [if_neg short, if_neg (by rw [size_behind]; omega), front, rest]
      cases Message.decode _ <;> rfl
  · rw [if_neg countable, if_pos rfl, if_pos (Nat.le_of_not_lt countable)]

/-- The parser takes at each place the step that a buffer takes with all the rest of the stream, and
goes on where this step leaves the buffer. -/
theorem parseFrom_eq_next (limit : UInt32) (inside : place ≤ stream.size) :
    ∃ stop ≤ stream.size,
      (StreamBuffer.behind limit stream place).next.2 = .behind limit stream stop ∧
      (∀ m, (StreamBuffer.behind limit stream place).next.1 = .ok (some m) → place < stop) ∧
      parseFrom limit stream place =
        match (StreamBuffer.behind limit stream place).next.1 with
        | .ok none => { results := [], stop }
        | .error e => { results := [.error e], stop }
        | .ok (some m) =>
          let later := parseFrom limit stream stop
          { results := .ok m :: later.results, stop := later.stop } := by
  rw [parseFrom]
  by_cases headless : stream.size < place + headerSize
  · have none : (StreamBuffer.behind limit stream place).next =
        (.ok none, .behind limit stream place) := by
      rw [StreamBuffer.next, if_pos (by rw [size_behind]; omega)]
    refine ⟨place, inside, by rw [none], ?_, ?_⟩
    · intro m cut
      simp [none] at cut
    · rw [if_pos headless, none]
  have step := next_behind limit (Nat.le_of_not_lt headless)
  rw [if_neg headless]
  simp only at step ⊢
  -- the parser and the buffer ask the same questions in the same order
  by_cases overflow : wordLimit ≤ headerSize + (wordAt stream place).toNat
  · rw [if_pos overflow] at step ⊢
    rw [step]
    exact ⟨place, inside, rfl, by simp, rfl⟩
  rw [if_neg overflow] at step ⊢
  by_cases large : limit.toNat < headerSize + (wordAt stream place).toNat
  · rw [if_pos large] at step ⊢
    rw [step]
    exact ⟨place, inside, rfl, by simp, rfl⟩
  rw [if_neg large] at step ⊢
  by_cases short : stream.size < place + (headerSize + (wordAt stream place).toNat)
  · rw [if_pos short] at step ⊢
    rw [step]
    exact ⟨place, inside, rfl, by simp, rfl⟩
  rw [if_neg short] at step ⊢
  rw [step]
  have positive : 0 < headerSize := by decide
  refine ⟨place + (headerSize + (wordAt stream place).toNat), Nat.le_of_not_lt short, ?_, ?_, ?_⟩
  · cases Message.decode _ <;> rfl
  · intro _ _
    omega
  · cases Message.decode _ <;> rfl

end

/-! ## Bytes that arrive later -/

/-- What a buffer has found out does not change when more bytes arrive: only a buffer that waits can
come to something else. -/
theorem StreamBuffer.next_extend {b : StreamBuffer} (chunk : ByteArray)
    (determined : b.next.1 ≠ .ok none) :
    (b.extend chunk).next = (b.next.1, b.next.2.extend chunk) := by
  by_cases headless : b.bytes.size < headerSize
  · rw [next, if_pos headless] at determined
    contradiction
  have announced : messageSize (b.extend chunk).bytes = messageSize b.bytes :=
    messageSize_append (Nat.le_of_not_lt headless) chunk
  have total : (b.extend chunk).bytes.size = b.bytes.size + chunk.size := ByteArray.size_append
  have headed : ¬ (b.extend chunk).bytes.size < headerSize := by omega
  have limit : (b.extend chunk).maxMessageSize = b.maxMessageSize := rfl
  simp only [next, if_neg headless, if_neg headed, announced, limit] at determined ⊢
  by_cases overflow : messageSize b.bytes = 0
  · rw [if_pos overflow, if_pos overflow]
  rw [if_neg overflow] at determined
  rw [if_neg overflow, if_neg overflow]
  by_cases large : messageSize b.bytes > b.maxMessageSize.toNat
  · rw [if_pos large, if_pos large]
  rw [if_neg large] at determined
  rw [if_neg large, if_neg large]
  by_cases short : b.bytes.size < messageSize b.bytes
  · rw [if_pos short] at determined
    contradiction
  have enough : messageSize b.bytes ≤ b.bytes.size := Nat.le_of_not_lt short
  have size : (b.bytes.extract 0 (messageSize b.bytes)).size = messageSize b.bytes := by
    rw [ByteArray.size_extract]
    omega
  have split : (b.extend chunk).bytes = b.bytes.extract 0 (messageSize b.bytes) ++
      (b.bytes.extract (messageSize b.bytes) b.bytes.size ++ chunk) := by
    rw [← ByteArray.append_assoc, extract_join _ (Nat.zero_le _) enough,
      ByteArray.extract_zero_size]
    rfl
  have front : (b.extend chunk).bytes.extract 0 (messageSize b.bytes) =
      b.bytes.extract 0 (messageSize b.bytes) := by
    rw [split]
    exact ByteArray.extract_append_eq_left size.symm
  have rest : (b.extend chunk).bytes.extract (messageSize b.bytes) (b.extend chunk).bytes.size =
      b.bytes.extract (messageSize b.bytes) b.bytes.size ++ chunk := by
    rw [split]
    exact ByteArray.extract_append_eq_right size.symm ByteArray.size_append
  rw [if_neg short, if_neg (by omega), front, rest]
  cases Message.decode _ <;> rfl

end Interprocess
