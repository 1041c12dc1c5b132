import Interprocess.Proofs.Channel.Ending

/-!
# All or nothing

A message leaves in several steps: its attachments are moved out, they are queued as a parcel, and
its bytes are queued chunk by chunk, each time only if somebody is there to receive. `Channel.Sends`
is what these steps may come to, with whatever is let go of where they stop. `Channel.sends_iff`
says that they come to an end, and to the same as `Channel.send`: there is no stop half-way. So a
message that is refused leaves the channel as it was and closes what it held, and one that is
accepted leaves one parcel and its bytes. As a refused message changes nothing, it may be left out
of any run (`Traffic.Among.foldl_eq`). The main statement is `Traffic.sent_or_closed`.
-/

set_option autoImplicit false

namespace Interprocess

/-! ## Sending step by step -/

/-- Queues one parcel. -/
def Inlet.addParcel (p : Parcel) (i : Inlet) : Inlet := { i with parcels := i.parcels ++ [p] }

/-- Queues some chunks. -/
def Inlet.addChunks (rows : List ByteArray) (i : Inlet) : Inlet :=
  { i with chunks := i.chunks ++ rows }

/-- What becomes of bytes that are queued for a receiver. As long as there are any, a chunk is taken
off their front and queued, and queuing fails if there is nobody to receive it. -/
inductive Receiver.Queues (length : Nat) :
    Receiver → ByteArray → Except SendError Unit → Receiver → Prop
  | done {r : Receiver} : Queues length r ByteArray.empty (.ok ()) r
  | chunk {r s : Receiver} {bs : ByteArray} {outcome : Except SendError Unit} :
      bs ≠ ByteArray.empty → r.inlet?.isSome →
      Queues length (r.mapInlet (Inlet.addChunks [bs.extract 0 (min bs.size length)]))
        (bs.extract (min bs.size length) bs.size) outcome s →
      Queues length r bs outcome s
  | gone {r : Receiver} {bs : ByteArray} :
      bs ≠ ByteArray.empty → r.inlet? = none → Queues length r bs (.error .peerClosed) r

/-- What becomes of a message that is sent. It is refused if it is too large, if other handles are
left in it than it announces, or if there is nobody to receive its parcel; what was moved out of it
by then is closed, and what is left in it. Otherwise the parcel is queued, and then the bytes. -/
inductive Channel.Sends (c : Channel) (side : Side) (m : Message) : Sending → Prop
  | tooLarge :
      m.size > c.config.maxMessageSize.toNat →
      Sends c side m
        { channel := c, result := .error (.tooLarge m.size c.config.maxMessageSize)
          released := m.close }
  | mismatch {bare : Message} {sideList others : Attachments} {handles : List Handle} :
      m.size ≤ c.config.maxMessageSize.toNat →
      m.takeAttachments = (sideList, bare) → sideList.takeHandles = (handles, others) →
      handles.length ≠ bare.header.handleCount.toNat →
      Sends c side m
        { channel := c
          result := .error (.handleMismatch bare.header.handleCount.toNat handles.length)
          released := .gather (handles.map Handle.close) ++ others.close ++ bare.close }
  | gone {bare : Message} {sideList others left : Attachments} {handles : List Handle}
      {ports : List Port} :
      m.size ≤ c.config.maxMessageSize.toNat →
      m.takeAttachments = (sideList, bare) → sideList.takeHandles = (handles, others) →
      handles.length = bare.header.handleCount.toNat → others.takePorts = (ports, left) →
      (c.endpoint side.other).receiver.inlet? = none →
      Sends c side m
        { channel := c, result := .error .peerClosed
          released := ({ handles, ports } : Parcel).close ++ left.close ++ bare.close }
  | queued {bare : Message} {sideList others left : Attachments} {handles : List Handle}
      {ports : List Port} {outcome : Except SendError Unit} {receiver : Receiver} :
      m.size ≤ c.config.maxMessageSize.toNat →
      m.takeAttachments = (sideList, bare) → sideList.takeHandles = (handles, others) →
      handles.length = bare.header.handleCount.toNat → others.takePorts = (ports, left) →
      (c.endpoint side.other).receiver.inlet?.isSome →
      Receiver.Queues c.config.maxChunkLength
        ((c.endpoint side.other).receiver.mapInlet (Inlet.addParcel { handles, ports })) bare.encode
        outcome receiver →
      Sends c side m
        { channel := c.setEndpoint side.other { c.endpoint side.other with receiver }
          result := outcome, released := left.close ++ bare.close }

namespace Receiver

/-- Work on an inlet does not take it away and brings none back. -/
theorem isSome_mapInlet (f : Inlet → Inlet) (r : Receiver) :
    (r.mapInlet f).inlet?.isSome = r.inlet?.isSome := by
  rw [inlet?_mapInlet, Option.isSome_map]

/-- Chunks that are queued one row after the other are queued as one row. -/
theorem mapInlet_addChunks (rows others : List ByteArray) (r : Receiver) :
    (r.mapInlet (Inlet.addChunks rows)).mapInlet (Inlet.addChunks others) =
      r.mapInlet (Inlet.addChunks (rows ++ others)) := by
  cases r <;> simp [mapInlet, Inlet.addChunks]

/-- Queuing no chunks changes nothing. -/
theorem mapInlet_addChunks_nil (r : Receiver) : r.mapInlet (Inlet.addChunks []) = r := by
  cases r <;> simp [mapInlet, Inlet.addChunks]

/-- Where chunks are not empty and somebody is there to receive them, all chunks are queued. -/
theorem queues_chunks {length : Nat} (positive : 0 < length) {r : Receiver} (bs : ByteArray)
    (there : r.inlet?.isSome) :
    Queues length r bs (.ok ()) (r.mapInlet (Inlet.addChunks (chunks length bs))) := by
  by_cases some : bs = ByteArray.empty
  · rw [some, chunks_empty, mapInlet_addChunks_nil]
    exact .done
  · -- what is left behind the first chunk is shorter
    have filled := size_pos_of_ne_empty some
    have shorter : (bs.extract (min bs.size length) bs.size).size < bs.size := by
      rw [ByteArray.size_extract]
      omega
    have rest := queues_chunks positive (bs.extract (min bs.size length) bs.size)
      ((isSome_mapInlet (Inlet.addChunks [bs.extract 0 (min bs.size length)]) r).trans there)
    rw [mapInlet_addChunks, List.singleton_append, ← chunks_of_ne_empty positive some] at rest
    exact .chunk some there rest
termination_by bs.size
decreasing_by exact shorter

/-- Queuing comes to nothing else. -/
theorem Queues.eq {length : Nat} (positive : 0 < length) {r s : Receiver} {bs : ByteArray}
    {outcome : Except SendError Unit} (queues : Queues length r bs outcome s)
    (there : r.inlet?.isSome) :
    outcome = .ok () ∧ s = r.mapInlet (Inlet.addChunks (chunks length bs)) := by
  induction queues with
  | done => exact ⟨rfl, by rw [chunks_empty, mapInlet_addChunks_nil]⟩
  | chunk some _ _ ih =>
    obtain ⟨outcome, rest⟩ := ih ((isSome_mapInlet _ _).trans there)
    refine ⟨outcome, ?_⟩
    rw [rest, mapInlet_addChunks, List.singleton_append, ← chunks_of_ne_empty positive some]
  | gone _ gone =>
    rw [gone] at there
    contradiction

end Receiver

/-! ## Sending as a whole -/

/-- What is moved out of a message, and what stays. -/
theorem Message.moved_out {m bare : Message} {sideList others : Attachments} {handles : List Handle}
    (taken : m.takeAttachments = (sideList, bare)) (split : sideList.takeHandles = (handles, others)) :
    bare = m.bare ∧ handles = m.attachments.handles.remaining ∧
      others = { ports := m.attachments.ports } := by
  obtain ⟨rfl, rfl⟩ := Prod.mk.inj taken
  obtain ⟨rfl, rfl⟩ := Prod.mk.inj split
  exact ⟨rfl, rfl, rfl⟩

/-- A message that was taken apart is closed part by part. -/
theorem Message.close_parts (m : Message) :
    .gather (m.attachments.handles.remaining.map Handle.close) ++
      ({ ports := m.attachments.ports } : Attachments).close ++ m.bare.close = m.close := by
  have bare : m.bare.close = ∅ := rfl
  rw [bare, Released.append_empty, Released.gather_handles, Message.close, Attachments.close_eq,
    Attachments.close_eq]
  show Released.mk ([] ++ _) (_ ++ []) = _
  rw [List.nil_append, List.append_nil]

/-- A message that was moved into a parcel is closed with it. -/
theorem Message.close_moved (m : Message) :
    m.parcel.close ++ (∅ : Attachments).close ++ m.bare.close = m.close := by
  have nothing : (∅ : Attachments).close = ∅ := rfl
  have bare : m.bare.close = ∅ := rfl
  rw [nothing, bare, Released.append_empty, Released.append_empty, Parcel.close_eq, Message.close,
    Attachments.close_eq]
  rfl

/-- What an end receives that takes a message on: one parcel, and its bytes in chunks. -/
theorem Receiver.mapInlet_enqueue (c : Channel) (m : Message) (p : Parcel) (r : Receiver) :
    (r.mapInlet (Inlet.addParcel p)).mapInlet
      (Inlet.addChunks (chunks c.config.maxChunkLength m.encode)) = r.mapInlet (c.enqueue m p) := by
  cases r <;> rfl

namespace Channel

variable {c : Channel} {side : Side} {m : Message}

/-- If chunks are not empty, the steps come to an end, and to what sending comes to at once. -/
theorem sends_iff (positive : 0 < c.config.maxChunkLength) (s : Sending) :
    c.Sends side m s ↔ s = c.send side m := by
  constructor
  -- each end of the steps lets go of all parts of the message, or of none that is left
  · intro sends
    cases sends with
    | tooLarge large => exact (send_tooLarge large).symm
    | mismatch fits taken split differ =>
      obtain ⟨rfl, rfl, rfl⟩ := Message.moved_out taken split
      rw [m.close_parts]
      exact (send_mismatch fits differ).symm
    | gone fits taken split announced rest gone =>
      obtain ⟨rfl, rfl, rfl⟩ := Message.moved_out taken split
      obtain ⟨rfl, rfl⟩ := Prod.mk.inj rest
      rw [send_gone fits announced gone]
      exact congrArg (Sending.mk c _) m.close_moved
    | queued fits taken split announced rest there queues =>
      obtain ⟨rfl, rfl, rfl⟩ := Message.moved_out taken split
      obtain ⟨rfl, rfl⟩ := Prod.mk.inj rest
      obtain ⟨rfl, rfl⟩ := queues.eq positive ((Receiver.isSome_mapInlet _ _).trans there)
      rw [send_queued fits announced there]
      exact congrArg (fun r => Sending.mk (c.setEndpoint side.other ⟨r, _⟩) _ _)
        (Receiver.mapInlet_enqueue c m.bare m.parcel _)
  · rintro rfl
    by_cases large : m.size > c.config.maxMessageSize.toNat
    · rw [send_tooLarge large]
      exact .tooLarge large
    have fits : m.size ≤ c.config.maxMessageSize.toNat := Nat.le_of_not_gt large
    by_cases announced : m.attachments.handles.remaining.length = m.header.handleCount.toNat
    · cases there : (c.endpoint side.other).receiver.inlet? with
      | none =>
        rw [send_gone fits announced there, ← m.close_moved]
        exact .gone fits rfl rfl announced rfl there
      | some inlet =>
        have here : (c.endpoint side.other).receiver.inlet?.isSome := Option.isSome_of_eq_some there
        rw [send_queued fits announced here]
        have queues := Receiver.queues_chunks positive m.bare.encode
          ((Receiver.isSome_mapInlet (Inlet.addParcel m.parcel) _).trans here)
        rw [Receiver.mapInlet_enqueue] at queues
        exact .queued fits rfl rfl announced rfl here queues
    · rw [send_mismatch fits announced, ← m.close_parts]
      exact .mismatch fits rfl rfl announced

end Channel

/-! ## Refused messages in a run -/

namespace Traffic

/-- An event that sends a message in vain changes nothing. -/
theorem step_send_refused {t : Traffic} {side : Side} {m : Message} {e : SendError}
    (refused : (t.channel.send side m).result = .error e) : t.step (.send side m) = t := by
  rw [step_send_error refused]
  rcases t.channel.send_cases side m with ⟨accepted, -⟩ | ⟨-, -, same⟩
  · rw [accepted] at refused
    contradiction
  · rw [same]

/-- The events of one run among those of another, which has nothing else but messages that are
refused when they are sent. -/
inductive Among : Traffic → List Event → List Event → Prop
  | nil {t : Traffic} : Among t [] []
  | event {t : Traffic} {es fs : List Event} (event : Event) :
      Among (t.step event) es fs → Among t (event :: es) (event :: fs)
  | refused {t : Traffic} {es fs : List Event} {side : Side} {m : Message} {e : SendError} :
      (t.channel.send side m).result = .error e → Among t es fs →
      Among t es (.send side m :: fs)

/-- Messages that are refused may be left out of a run. -/
theorem Among.foldl_eq {t : Traffic} {es fs : List Event} (among : t.Among es fs) :
    fs.foldl step t = es.foldl step t := by
  induction among with
  | nil => rfl
  | event event _ ih => exact ih
  | refused refused _ ih =>
    rw [List.foldl_cons, step_send_refused refused]
    exact ih

/-- Sending comes to an end, and it either fails or succeeds as a whole. It fails if the message is
too large, if other handles are left in it than it announces, or if there is nobody to receive it.
Then the channel is as it was, and each attachment that was left in the message was closed once. If
it succeeds, exactly one parcel and the bytes of the message were queued for the other end, and
nothing was closed. So whatever else happens on a channel, both ends come to the same if messages
are refused in between, in any number. -/
theorem sent_or_closed {c : Channel} (valid : c.config.validate = .ok ()) (side : Side)
    (m : Message) :
    let peer := c.endpoint side.other
    let s := c.send side m
    (∀ outcome, c.Sends side m outcome ↔ outcome = s) ∧
      ((∃ e, s.result = .error e) ↔
        m.size > c.config.maxMessageSize.toNat ∨
          m.attachments.handles.remaining.length ≠ m.header.handleCount.toNat ∨
          peer.receiver.inlet? = none) ∧
      (∀ e, s.result = .error e →
        s.channel = c ∧
          s.released.ports = (m.attachments.ports.remaining.filter Port.owned).map Port.name ∧
          s.released.handles = m.attachments.handles.remaining) ∧
      (s.result = .ok () →
        s.released = ∅ ∧ peer.receiver.inlet?.isSome ∧
          ∃ rows, concat rows = m.encode ∧
            s.channel = c.setEndpoint side.other
              { peer with
                receiver := peer.receiver.mapInlet fun i =>
                  { i with parcels := i.parcels ++ [m.parcel], chunks := i.chunks ++ rows } }) ∧
      ∀ t : Traffic, t.channel = c → ∀ es fs, t.Among es fs →
        fs.foldl step t = es.foldl step t := by
  intro peer s
  have positive : 0 < c.config.maxChunkLength :=
    (Channel.create_eq_ok (c := { config := c.config }) (by rw [Channel.create, valid])).2
  have closed : m.close.ports = (m.attachments.ports.remaining.filter Port.owned).map Port.name ∧
      m.close.handles = m.attachments.handles.remaining := by
    rw [Message.close, Attachments.close_eq]
    exact ⟨rfl, rfl⟩
  have refused_of_error : (∃ e, s.result = .error e) → c.TurnsAway side m :=
    fun ⟨_, failed⟩ => Channel.turnsAway_of_error failed
  refine ⟨Channel.sends_iff positive, ⟨refused_of_error, fun refuses => ?_⟩, fun e failed => ?_,
    fun sent => ?_, fun t _ es fs among => among.foldl_eq⟩
  · obtain ⟨e, refused⟩ := Channel.send_turnedAway refuses
    exact ⟨e, congrArg Sending.result refused⟩
  · obtain ⟨_, refused⟩ := Channel.send_turnedAway (Channel.turnsAway_of_error failed)
    rw [show s = _ from refused]
    exact ⟨rfl, closed⟩
  · obtain ⟨-, -, there, queued⟩ := Channel.send_accepted (Channel.not_turnsAway_of_ok sent)
    exact ⟨congrArg Sending.released queued, there, chunks c.config.maxChunkLength m.encode,
      concat_chunks positive m.encode, congrArg Sending.channel queued⟩

/-- A message with a port, which a narrow channel does not take. -/
def oversized : Message :=
  leaving ((Message.writePort { name := ⟨1, 2⟩, owned := true }).run (.addressed 1 2 {}))

/-- If it is sent before one that fits, its port is closed, and the other end comes to the same as
if only the second one had been sent. -/
theorem sent_or_closed_oversized :
    let s := narrowChannel.send .a oversized
    narrowChannel.config.validate = .ok () ∧ s.result = .error (.tooLarge 36 32) ∧
      s.channel = narrowChannel ∧ s.released.ports = [⟨1, 2⟩] ∧ s.released.handles = [] ∧
      run narrowChannel (.send .a oversized :: oneMessage) = run narrowChannel oneMessage := by
  intro s
  have valid : narrowChannel.config.validate = .ok () := rfl
  have size : oversized.size = 36 := by decide
  have refused : s.result = .error (.tooLarge 36 32) := by
    rw [← size]
    exact congrArg Sending.result (Channel.send_tooLarge (by decide))
  obtain ⟨-, -, closes, -, left_out⟩ := sent_or_closed valid .a oversized
  obtain ⟨same, ports, handles⟩ := closes _ refused
  have among : Among { channel := narrowChannel } oneMessage (.send .a oversized :: oneMessage) :=
    .refused refused (.event _ (.event _ .nil))
  exact ⟨valid, refused, same, ports, handles, left_out _ rfl _ _ among⟩

end Traffic

end Interprocess
