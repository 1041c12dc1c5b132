import Interprocess.Proofs.Channel.Delivery

/-!
# What is under way to an end

The bytes that an end has taken out of its inlet and those that are still there are the bytes of
some messages, and the parcels are theirs: `Receiver.Carries` says so of an end that still has its
inlet. Whatever happens at that end, the messages stay the same, a message that is queued becomes
the last of them, and a loop that runs hands all of them over.
-/

set_option autoImplicit false

namespace Interprocess

/-- The bytes that have arrived and those under way are the bytes of some messages, and the parcels
under way are theirs. -/
structure Inlet.Carries (inlet : Inlet) (buffer : StreamBuffer) (ms : List Message) : Prop where
  stream : buffer.bytes ++ concat inlet.chunks = frames ms
  parcels : inlet.parcels = ms.map Message.parcel
  sendable : ∀ m ∈ ms, m.Sendable buffer.maxMessageSize

/-- The bytes that a receiver has taken out of its inlet. -/
def Receiver.buffer (limit : UInt32) : Receiver → StreamBuffer
  | .listening _ buffer => buffer
  | .ready _ _ | .closed _ => .empty limit

/-- What is under way to a receiver are the bytes and the parcels of some messages, unless the inlet
is gone. -/
def Receiver.Carries (limit : UInt32) (r : Receiver) (ms : List Message) : Prop :=
  ∀ inlet, r.inlet? = some inlet →
    (r.buffer limit).maxMessageSize = limit ∧ inlet.Carries (r.buffer limit) ms

/-- Whether a receiver has a loop that handles what arrives. -/
def Receiver.isRunning : Receiver → Bool
  | .ready _ held => held
  | .listening _ _ => true
  | .closed _ => false

/-- Whether a receiver has an inlet that no loop has taken over. -/
def Receiver.isReady : Receiver → Bool
  | .ready _ _ => true
  | .listening _ _ | .closed _ => false

/-- A running loop comes to a result when it is polled. -/
theorem Receiver.run?_of_isRunning {r : Receiver} (c : ChannelConfig) (senderPresent : Bool)
    (running : r.isRunning) : ∃ round, r.run? c senderPresent = some round := by
  cases r with
  | ready inlet held =>
    obtain rfl : held = true := running
    exact ⟨_, rfl⟩
  | listening inlet buffer => exact ⟨_, rfl⟩
  | closed held => contradiction

/-- A running loop has an inlet. -/
theorem Receiver.inlet?_of_isRunning {r : Receiver} (running : r.isRunning) :
    ∃ inlet, r.inlet? = some inlet := by
  cases r with
  | ready inlet held => exact ⟨inlet, rfl⟩
  | listening inlet buffer => exact ⟨inlet, rfl⟩
  | closed held => contradiction

/-- A loop hands over all messages that are under way, and then waits or ends in good order. -/
theorem Inlet.Carries.run {inlet : Inlet} {buffer : StreamBuffer} {ms : List Message}
    (carries : inlet.Carries buffer ms) (senderPresent : Bool) :
    inlet.run buffer senderPresent =
      if !senderPresent || inlet.cancelled then
        { receiver := .closed false, status := .finished, received := ms.map Message.arriving
          released := ∅ }
      else
        { receiver := .listening { inlet with chunks := [], parcels := [] }
            { buffer with bytes := ByteArray.empty }
          status := .running, received := ms.map Message.arriving, released := ∅ } := by
  have handed := receive_frames senderPresent [] carries.sendable
    carries.stream
  rw [← carries.parcels] at handed
  rw [Inlet.run, handed]
  rfl

/-- Starting a loop leaves the inlet that giving the loop up leaves. -/
theorem Receiver.inlet?_start (r : Receiver) : r.start.1.inlet? = r.abort.1.inlet? := by
  cases r <;> rfl

/-- Starting a loop leaves the same bytes unread as giving up the old one. -/
theorem Receiver.buffer_start (r : Receiver) (limit : UInt32) :
    r.start.1.buffer limit = r.abort.1.buffer limit := by
  cases r <;> rfl

/-- Starting a loop lets go of what giving the loop up lets go of. -/
theorem Receiver.start_snd (r : Receiver) : r.start.2 = r.abort.2 := by
  cases r <;> rfl

/-- Where the inlet is gone, there is nothing to be said about what is under way. -/
theorem Receiver.carries_closed {limit : UInt32} {held : Bool} {ms : List Message} :
    (Receiver.closed held).Carries limit ms := fun _ h => by contradiction

/-- What is done to an inlet is done to what its receiver carries. -/
theorem Receiver.Carries.map {limit : UInt32} {r : Receiver} {ms ns : List Message}
    {f : Inlet → Inlet} (carries : r.Carries limit ms)
    (keeps : ∀ inlet buffer, buffer.maxMessageSize = limit → inlet.Carries buffer ms →
      (f inlet).Carries buffer ns) : (r.mapInlet f).Carries limit ns := by
  cases r with
  | ready inlet held =>
    rintro _ ⟨⟩
    obtain ⟨size, inner⟩ := carries inlet rfl
    exact ⟨size, keeps inlet _ size inner⟩
  | listening inlet buffer =>
    rintro _ ⟨⟩
    obtain ⟨size, inner⟩ := carries inlet rfl
    exact ⟨size, keeps inlet _ size inner⟩
  | closed held => exact carries_closed

/-- A receiver that is asked to end carries what it carried. -/
theorem Receiver.Carries.cancel {limit : UInt32} {r : Receiver} {ms : List Message}
    (carries : r.Carries limit ms) :
    (r.mapInlet fun i => { i with cancelled := true }).Carries limit ms :=
  carries.map fun _ _ _ inner => ⟨inner.stream, inner.parcels, inner.sendable⟩

/-- A receiver whose loop is given up loses its inlet or carries what it carried. -/
theorem Receiver.Carries.abort {limit : UInt32} {r : Receiver} {ms : List Message}
    (carries : r.Carries limit ms) : r.abort.1.Carries limit ms := by
  cases r with
  | ready inlet held => exact carries
  | listening inlet buffer => exact carries_closed
  | closed held => exact carries_closed

/-- A loop that is started finds what was under way before. -/
theorem Receiver.Carries.start {limit : UInt32} {r : Receiver} {ms : List Message}
    (carries : r.Carries limit ms) : r.start.1.Carries limit ms := by
  intro inlet there
  rw [inlet?_start] at there
  rw [buffer_start]
  exact carries.abort inlet there

/-- A message that is queued is the last of those under way. -/
theorem Receiver.Carries.enqueue {c : Channel} {r : Receiver} {ms : List Message} {m : Message}
    (carries : r.Carries c.config.maxMessageSize ms) (positive : 0 < c.config.maxChunkLength)
    (sendable : m.Sendable c.config.maxMessageSize) :
    (r.mapInlet (c.enqueue m m.parcel)).Carries c.config.maxMessageSize (ms ++ [m]) := by
  refine carries.map fun inlet buffer size inner => ⟨?_, ?_, ?_⟩
  · rw [Channel.enqueue, concat_append, concat_chunks positive, ← ByteArray.append_assoc,
      inner.stream, frames_append, frames_cons, frames_nil, ByteArray.append_empty]
  · rw [Channel.enqueue, inner.parcels, List.map_append]
    rfl
  · intro n mem
    rcases List.mem_append.1 mem with old | new
    · exact inner.sendable n old
    · rw [List.mem_singleton.1 new, size]
      exact sendable

/-- A loop that runs takes an inlet over, or it fails because the inlet is gone. -/
theorem Receiver.run?_cases {config : ChannelConfig} {r : Receiver} {senderPresent : Bool}
    {round : Round} (runs : r.run? config senderPresent = some round) :
    (r = .closed true ∧ round = .alreadyStarted (.closed false)) ∨
      ∃ inlet, r.inlet? = some inlet ∧
        round = inlet.run (r.buffer config.maxMessageSize) senderPresent := by
  cases r with
  | ready inlet held =>
    cases held with
    | true => exact Or.inr ⟨inlet, rfl, (Option.some.inj runs).symm⟩
    | false => contradiction
  | listening inlet buffer => exact Or.inr ⟨inlet, rfl, (Option.some.inj runs).symm⟩
  | closed held =>
    cases held with
    | true => exact Or.inl ⟨rfl, (Option.some.inj runs).symm⟩
    | false => contradiction

/-- A loop that is over or waits for more carries nothing, and what it handed over is what its
receiver carried. -/
theorem Receiver.Carries.run {config : ChannelConfig} {r : Receiver} {ms : List Message}
    {senderPresent : Bool} {round : Round} (carries : r.Carries config.maxMessageSize ms)
    (runs : r.run? config senderPresent = some round) :
    (round.received = [] ∧ r.inlet? = none ∧ round.receiver.inlet? = none) ∨
      (round.received = ms.map Message.arriving ∧
        round.receiver.Carries config.maxMessageSize []) := by
  rcases Receiver.run?_cases runs with ⟨rfl, rfl⟩ | ⟨inlet, there, rfl⟩
  · exact Or.inl ⟨rfl, rfl, rfl⟩
  · obtain ⟨size, inner⟩ := carries inlet there
    rw [inner.run]
    refine Or.inr ?_
    split
    · exact ⟨rfl, carries_closed⟩
    · refine ⟨rfl, ?_⟩
      rintro _ ⟨⟩
      exact ⟨size, by simp [Receiver.buffer], rfl, by simp⟩

/-- A loop that takes up what is under way does not fail. -/
theorem Receiver.Carries.status {config : ChannelConfig} {r : Receiver} {ms : List Message}
    {senderPresent : Bool} {round : Round} {e : LoopError}
    (carries : r.Carries config.maxMessageSize ms)
    (runs : r.run? config senderPresent = some round) (failed : round.status = .failed e) :
    e = .alreadyStarted ∧ r = .closed true := by
  rcases Receiver.run?_cases runs with ⟨rfl, rfl⟩ | ⟨inlet, there, rfl⟩
  · exact ⟨(LoopStatus.failed.inj failed).symm, rfl⟩
  · rw [(carries inlet there).2.run] at failed
    split at failed
    · contradiction
    · contradiction

/-- A further call of the loop fails only where an inlet was taken over before. -/
theorem Receiver.Carries.further {config : ChannelConfig} {r : Receiver} {ms : List Message}
    {senderPresent : Bool} {e : LoopError} (carries : r.Carries config.maxMessageSize ms)
    (failed : (r.further config senderPresent).status = .failed e) :
    e = .alreadyStarted ∧ ¬ r.isReady := by
  cases r with
  | ready inlet held =>
    -- the call is then the loop of a receiver that holds it, and such a loop does not fail
    have held : (Receiver.ready inlet true).Carries config.maxMessageSize ms := carries
    obtain ⟨-, gone⟩ := held.status rfl failed
    contradiction
  | listening | closed => exact ⟨(LoopStatus.failed.inj failed).symm, Bool.false_ne_true⟩

end Interprocess
