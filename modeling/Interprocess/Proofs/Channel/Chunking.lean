import Interprocess.Proofs.Channel.Sending

/-!
# Cutting bytes into chunks

The bytes of a message are queued chunk by chunk, each time as many as a chunk may hold, until none
are left. `Chunked` says what the chunks of some bytes are without saying how they are made: filled,
none too long, all but the last of full length, and the bytes if put together. There is one such row
for given bytes, and it is the one that is queued (`chunked_iff`). The loop takes bytes away in each
turn only if a chunk may hold some: it comes to an end exactly for chunks that are not empty
(`Receiver.exists_queues_iff`), and limits with empty chunks are refused. The main statement is
`Channel.cut_into_chunks`.
-/

set_option autoImplicit false

namespace Interprocess

/-- Rows of bytes that make up other bytes, each as long as it may be. -/
structure Chunked (length : Nat) (bs : ByteArray) (rows : List ByteArray) : Prop where
  /-- No row is empty. -/
  filled : ∀ row ∈ rows, 0 < row.size
  /-- No row is too long. -/
  bounded : ∀ row ∈ rows, row.size ≤ length
  /-- All rows but the last have the full length. -/
  full : ∀ row ∈ rows.dropLast, row.size = length
  /-- The rows are the bytes, one behind the other. -/
  joined : concat rows = bs

variable {length : Nat} {bs row : ByteArray} {rows : List ByteArray}

/-- Only no bytes at all are made up of no rows. -/
theorem chunked_nil_iff : Chunked length bs [] ↔ bs = ByteArray.empty := by
  constructor
  · intro whole
    exact whole.joined.symm
  · rintro rfl
    exact ⟨nofun, nofun, nofun, rfl⟩

namespace Chunked

/-- The bytes are as many as those of the first row and of the others together. -/
theorem size_eq (whole : Chunked length bs (row :: rows)) :
    bs.size = row.size + (concat rows).size := by
  rw [← whole.joined, concat_cons, ByteArray.size_append]

/-- Bytes with a first row are not empty. -/
theorem ne_empty (whole : Chunked length bs (row :: rows)) : bs ≠ ByteArray.empty := by
  rintro rfl
  have filled := whole.filled row List.mem_cons_self
  have size := whole.size_eq
  rw [ByteArray.size_empty] at size
  omega

/-- The first row has the full length, or the length of all bytes if these are fewer. -/
theorem size_first (whole : Chunked length bs (row :: rows)) : row.size = min bs.size length := by
  have size := whole.size_eq
  have bounded := whole.bounded row List.mem_cons_self
  cases rows with
  | nil =>
    rw [concat_nil, ByteArray.size_empty] at size
    omega
  | cons next rows =>
    have full := whole.full row List.mem_cons_self
    omega

/-- Behind the first row there are the rows of the other bytes. -/
theorem tail (whole : Chunked length bs (row :: rows)) : Chunked length (concat rows) rows := by
  refine ⟨fun r mem => whole.filled r (List.mem_cons_of_mem _ mem),
    fun r mem => whole.bounded r (List.mem_cons_of_mem _ mem), fun r mem => whole.full r ?_, rfl⟩
  cases rows with
  | nil => contradiction
  | cons next rows => exact List.mem_cons_of_mem _ mem

/-- A row of full length, or with all that is left, may stand before others. -/
theorem cons (filled : 0 < row.size) (bounded : row.size ≤ length)
    (full : bs ≠ ByteArray.empty → row.size = length) (whole : Chunked length bs rows) :
    Chunked length (row ++ bs) (row :: rows) := by
  refine ⟨List.forall_mem_cons.2 ⟨filled, whole.filled⟩,
    List.forall_mem_cons.2 ⟨bounded, whole.bounded⟩, ?_, ?_⟩
  · cases rows with
    | nil => nofun
    | cons next rows => exact List.forall_mem_cons.2 ⟨full whole.ne_empty, whole.full⟩
  · rw [concat_cons, whole.joined]

end Chunked

/-- The first row is taken off the front, and the others are the rows of what is left. -/
theorem chunked_cons_iff (positive : 0 < length) (some : bs ≠ ByteArray.empty) :
    Chunked length bs (row :: rows) ↔
      row = bs.extract 0 (min bs.size length) ∧
        Chunked length (bs.extract (min bs.size length) bs.size) rows := by
  constructor
  · intro whole
    have front : bs.extract 0 (min bs.size length) = row := by
      rw [← whole.size_first, ← whole.joined, concat_cons, ByteArray.extract_append_eq_left rfl]
    have behind : bs.extract (min bs.size length) bs.size = concat rows := by
      apply (extract_append_eq_iff (Nat.min_le_left _ _)).1
      rw [front]
      exact whole.joined
    rw [behind]
    exact ⟨front.symm, whole.tail⟩
  · rintro ⟨rfl, rest⟩
    have filled := size_pos_of_ne_empty some
    have size : (bs.extract 0 (min bs.size length)).size = min bs.size length := by
      rw [ByteArray.size_extract]
      omega
    have parts : bs.extract 0 (min bs.size length) ++ bs.extract (min bs.size length) bs.size =
        bs := by
      rw [extract_join bs (Nat.zero_le _) (Nat.min_le_left _ _), ByteArray.extract_zero_size]
    suffices whole : Chunked length
        (bs.extract 0 (min bs.size length) ++ bs.extract (min bs.size length) bs.size)
        (bs.extract 0 (min bs.size length) :: rows) by
      rw [parts] at whole
      exact whole
    -- if bytes are left behind it, the first row was not cut short
    refine rest.cons (by omega) (by omega) fun more => ?_
    rw [ne_eq, ByteArray.extract_eq_empty_iff] at more
    omega

/-- Bytes have one row of chunks, the one that is queued. -/
theorem chunked_iff (positive : 0 < length) :
    Chunked length bs rows ↔ rows = chunks length bs := by
  induction rows generalizing bs with
  | nil =>
    rw [chunked_nil_iff]
    constructor
    · rintro rfl
      exact (chunks_empty length).symm
    · intro none
      by_contra some
      rw [chunks_of_ne_empty positive some] at none
      contradiction
  | cons row rows ih =>
    by_cases some : bs = ByteArray.empty
    · rw [some, chunks_empty]
      exact iff_of_false (fun whole => whole.ne_empty rfl) (List.cons_ne_nil _ _)
    · rw [chunked_cons_iff positive some, chunks_of_ne_empty positive some, List.cons_eq_cons, ih]

/-! ## The loop -/

namespace Receiver

variable {r s : Receiver} {outcome : Except SendError Unit}

/-- If nobody is there to receive it, the first chunk is refused and nothing is queued. -/
theorem queues_gone_iff (some : bs ≠ ByteArray.empty) (gone : r.inlet? = none) :
    r.Queues length bs outcome s ↔ outcome = .error .peerClosed ∧ s = r := by
  constructor
  · intro queues
    cases queues with
    | done => contradiction
    | chunk _ there =>
      rw [gone] at there
      contradiction
    | gone => exact ⟨rfl, rfl⟩
  · rintro ⟨rfl, rfl⟩
    exact .gone some gone

/-- If somebody is there, the chunks are queued, and nothing else comes of it. -/
theorem queues_there_iff (positive : 0 < length) (there : r.inlet?.isSome) :
    r.Queues length bs outcome s ↔
      outcome = .ok () ∧ s = r.mapInlet (Inlet.addChunks (chunks length bs)) := by
  constructor
  · intro queues
    exact queues.eq positive there
  · rintro ⟨rfl, rfl⟩
    exact queues_chunks positive bs there

/-- Empty chunks take nothing off the bytes, so they could be queued for ever. -/
theorem not_queues_zero (some : bs ≠ ByteArray.empty) (there : r.inlet?.isSome) :
    ¬ r.Queues 0 bs outcome s := by
  -- after a turn the same bytes are left, so no turn comes nearer to the end
  intro queues
  generalize none : 0 = length at queues
  induction queues with
  | done => contradiction
  | @chunk r s bs outcome _ _ _ ih =>
    have left : bs.extract (min bs.size length) bs.size = bs := by
      rw [← none, Nat.min_zero, ByteArray.extract_zero_size]
    exact ih (left.symm ▸ some) ((isSome_mapInlet _ _).trans there)
  | gone _ gone =>
    rw [gone] at there
    contradiction

/-- With somebody there to receive them, queuing bytes comes to an end exactly if chunks are not
empty. -/
theorem exists_queues_iff (some : bs ≠ ByteArray.empty) (there : r.inlet?.isSome) :
    (∃ outcome s, r.Queues length bs outcome s) ↔ 0 < length := by
  constructor
  · rintro ⟨outcome, s, queues⟩
    apply Nat.pos_of_ne_zero
    rintro rfl
    exact not_queues_zero some there queues
  · intro positive
    exact ⟨_, _, queues_chunks positive bs there⟩

end Receiver

namespace Channel

/-- Limits that can be kept allow for chunks that are not empty. -/
theorem maxChunkLength_pos {config : ChannelConfig} (valid : config.validate = .ok ()) :
    0 < config.maxChunkLength :=
  (create_eq_ok (c := { config }) (by rw [create, valid])).2

/-- With limits that can be kept, the bytes of a message have one row of chunks. Queuing the bytes
comes to an end, whoever receives them: these chunks are queued, in this order and behind what was
under way, if somebody is there, and otherwise none. They are what a message that is accepted brings
under way besides its attachments. -/
theorem cut_into_chunks {config : ChannelConfig} (valid : config.validate = .ok ()) (m : Message) :
    ∃ rows,
      (∀ others, Chunked config.maxChunkLength m.encode others ↔ others = rows) ∧
      (∀ (r : Receiver) outcome s, r.Queues config.maxChunkLength m.encode outcome s ↔
        if r.inlet?.isSome then outcome = .ok () ∧ s = r.mapInlet (Inlet.addChunks rows)
        else outcome = .error .peerClosed ∧ s = r) ∧
      ∀ (c : Channel) (side : Side), c.config = config → (c.send side m).result = .ok () →
        (c.send side m).channel =
          let peer := c.endpoint side.other
          c.setEndpoint side.other
            { peer with
              receiver := peer.receiver.mapInlet fun i =>
                { i with parcels := i.parcels ++ [m.parcel], chunks := i.chunks ++ rows } } := by
  have positive := maxChunkLength_pos valid
  have some : m.encode ≠ ByteArray.empty := by
    intro none
    have size := m.size_encode
    have header : 0 < headerSize := by decide
    rw [none, ByteArray.size_empty, Message.size] at size
    omega
  refine ⟨chunks config.maxChunkLength m.encode, fun others => chunked_iff positive,
    fun r outcome s => ?_, fun c side same sent => ?_⟩
  · split
    · next there => exact Receiver.queues_there_iff positive there
    · next gone => exact Receiver.queues_gone_iff some (Option.not_isSome_iff_eq_none.1 gone)
  · obtain ⟨-, -, -, queued⟩ := send_accepted (not_turnsAway_of_ok sent)
    rw [queued, ← same]
    rfl

/-- The 32 bytes of a message without content are cut into chunks of seven bytes and a shorter one,
which are then under way, or into four of eight bytes and no other. -/
theorem cut_into_chunks_ragged :
    let c := Traffic.narrowChannel
    let m := Message.dispatchFailure .insideSync
    (c.config.validate = .ok () ∧
      ∃ rows, Chunked 7 m.encode rows ∧ rows.map ByteArray.size = [7, 7, 7, 7, 4] ∧
        (c.send .a m).channel.second.receiver =
          .ready { parcels := [m.parcel], chunks := rows } false) ∧
    ({ maxChunkLength := 8 } : ChannelConfig).validate = .ok () ∧
      ∃ rows, Chunked 8 m.encode rows ∧ rows.map ByteArray.size = [8, 8, 8, 8] := by
  intro c m
  constructor
  · obtain ⟨rows, only, -, sent⟩ := @cut_into_chunks c.config rfl m
    have same : rows = chunks 7 m.encode := ((only _).1 ((chunked_iff (by decide)).2 rfl)).symm
    have accepted :
        (Traffic.narrowChannel.send .a (.dispatchFailure .insideSync)).result = .ok () := rfl
    refine ⟨rfl, rows, (only rows).2 rfl, ?_, ?_⟩
    · rw [same]
      decide +kernel
    · rw [sent c .a rfl accepted]
      rfl
  · obtain ⟨rows, only, -⟩ := @cut_into_chunks { maxChunkLength := 8 } rfl m
    have same : rows = chunks 8 m.encode := ((only _).1 ((chunked_iff (by decide)).2 rfl)).symm
    refine ⟨rfl, rows, (only rows).2 rfl, ?_⟩
    rw [same]
    decide +kernel

end Channel

end Interprocess
