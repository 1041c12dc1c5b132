import Interprocess.Proofs.Custody.Rows
import Interprocess.Proofs.Channel.Delivery
import Interprocess.Proofs.Message.RoundTrip

/-!
# How many attachments a message has

A message may have so many file handles and no more, and a slot counts whether or not it was
emptied. The header repeats the number of slots. It may announce another number only while there are
no slots: because they were not attached yet, or were moved out. `handles_within_limit` says so of
every message that was made or decoded and then changed in any way.

There is no such check for ports. A message, and what arrives of it, has as many of them as were
attached: `ports_unlimited`, `ports_beyond_limit`.
-/

set_option autoImplicit false

namespace Interprocess.Message

/-! ## Handles -/

/-- The header of a message that comes into being counts its handles. -/
theorem Fresh.counted {m : Message} (fresh : m.Fresh) : m.Counted := by
  apply counted_of_noSlots
  rw [handleSlots, fresh.attachments]
  rfl

/-- No message comes into being with more handles announced than it may have. -/
theorem Fresh.handleCount_le {m : Message} (fresh : m.Fresh) :
    m.header.handleCount.toNat ≤ descriptorLimit := by
  cases fresh with
  | addressed | constructing | dispatchFailure | reply => exact Nat.zero_le _
  | decoded accepted => exact (Built.decoded accepted).sound.handleCount

/-- Emptying a slot leaves the header as it is. -/
theorem Emptied.header {m n : Message} (emptied : Emptied m n) : n.header = m.header := by
  cases emptied <;> rfl

/-- A handle is written and counted, or the message is full, or its size does not fit into the
header. -/
theorem writeHandle_cases (h : Handle) (m : Message) :
    (∃ n, (writeHandle h).run m = .ok () n ∧ m.handleSlots < descriptorLimit ∧
        n.handleSlots = m.handleSlots + 1 ∧ n.header.handleCount.toNat = n.handleSlots) ∨
      ((writeHandle h).run m = .error .handleLimit m ∧ descriptorLimit ≤ m.handleSlots) ∨
      (∃ n, (writeHandle h).run m = .error .sizeOverflow n ∧ m.handleSlots < descriptorLimit ∧
        n.header.handleCount = m.header.handleCount) := by
  rw [run_writeHandle]
  by_cases full : m.handleSlots ≥ descriptorLimit
  · exact Or.inr (Or.inl ⟨if_pos full, full⟩)
  have below : m.handleSlots < descriptorLimit := Nat.lt_of_not_ge full
  simp only [if_neg full]
  split
  · have slots : ((m.extended (Word.bytes (UInt32.ofNat m.handleSlots)).toByteArray).withSizes.withHandle
        h).handleSlots = m.handleSlots + 1 := Slots.size_push m.attachments.handles h
    refine Or.inl ⟨_, rfl, below, slots, ?_⟩
    rw [slots]
    exact toNat_ofNat_of_le_descriptorLimit below
  · exact Or.inr (Or.inr ⟨_, rfl, below, rfl⟩)

/-- Handles that arrived are attached and counted all together, or the message stays as it is. -/
theorem attachHandles_cases (hs : List Handle) (m : Message) :
    (∃ n, (attachHandles hs).run m = .ok () n ∧ hs.length ≤ descriptorLimit ∧
        n.handleSlots = hs.length ∧ n.header.handleCount.toNat = n.handleSlots) ∨
      ∃ e, (attachHandles hs).run m = .error e m := by
  rw [run_attachHandles]
  split
  · exact Or.inr ⟨_, rfl⟩
  split
  · exact Or.inr ⟨_, rfl⟩
  · next few =>
    have few : hs.length ≤ descriptorLimit := Nat.le_of_not_gt few
    have slots : (m.withHandles hs).handleSlots = hs.length := Slots.size_ofList hs
    refine Or.inl ⟨_, rfl, few, slots, ?_⟩
    rw [slots]
    exact toNat_ofNat_of_le_descriptorLimit few

/-- An operation either leaves the announced number of handles alone or makes it the number of
slots. -/
theorem handleCount_run (m : Message) (op : Operation) :
    let n := (op.run m).2
    n.header.handleCount = m.header.handleCount ∨
      n.handleSlots ≤ descriptorLimit ∧ n.header.handleCount.toNat = n.handleSlots := by
  intro n
  cases op with
  | write f =>
    cases f with
    | u32 | i32 | u64 | i64 | bool | bytes => exact Or.inl (writesOnly_writeAligned _ m).2
    | data | text => exact Or.inl (writesOnly_writeData _ m).2
    | handle h =>
      have left : n = leaving ((writeHandle h).run m) := rfl
      rcases writeHandle_cases h m with ⟨w, run, below, more, counted⟩ | ⟨run, -⟩ | ⟨w, run, -, same⟩
      · rw [left, run]
        exact Or.inr ⟨by rw [leaving, more]; exact below, counted⟩
      · rw [left, run]
        exact Or.inl rfl
      · rw [left, run]
        exact Or.inl same
    | port p =>
      have left : n = leaving ((writePort p).run m) := rfl
      rw [left, run_writePort]
      dsimp only
      split
      · split <;> exact Or.inl rfl
      · exact Or.inl rfl
  | writeFooter bs => exact Or.inl (writesOnly_writeFooter bs m).2
  | readFooter buffer truncate => exact Or.inl (writesOnly_readFooter buffer truncate m).2
  | read kind place =>
    have same := (emptied_read kind { message := m, place }).header
    exact Or.inl (congrArg Header.handleCount same)
  | attachHandles hs =>
    have left : n = leaving ((Message.attachHandles hs).run m) := rfl
    rcases attachHandles_cases hs m with ⟨w, run, few, slots, counted⟩ | ⟨e, run⟩
    · rw [left, run]
      exact Or.inr ⟨by rw [leaving, slots]; exact few, counted⟩
    · rw [left, run]
      exact Or.inl rfl
  | attachPorts ps =>
    have left : n = leaving ((Message.attachPorts ps).run m) := rfl
    rw [left, run_attachPorts]
    split <;> exact Or.inl rfl
  | takeHandle | takePort | takeAttachments | setRelay | setRouting | setTransaction | setSeqno =>
    exact Or.inl rfl

/-- No operation makes the header announce more handles than a message may have. -/
theorem handleCount_le_run (m : Message) (op : Operation)
    (few : m.header.handleCount.toNat ≤ descriptorLimit) :
    (op.run m).2.header.handleCount.toNat ≤ descriptorLimit := by
  rcases m.handleCount_run op with same | ⟨few, counted⟩
  · rw [same]
    exact few
  · rw [counted]
    exact few

/-- Let any operations be done with a message that was made or decoded, also such as are refused.
Then neither the header nor the slots count more handles than a message may have, and they count the
same unless there are no slots. There is a slot for each handle that was attached since all were
moved out the last time, whether or not it is still in it, and another handle is refused if and only
if there are as many as there may be. Whatever attaches handles makes the header count them. -/
theorem handles_within_limit {m : Message} (fresh : m.Fresh) (ops : List Operation) :
    let n := m.after ops
    let attached := (Row.handles.ledger m ops).items
    n.header.handleCount.toNat ≤ descriptorLimit ∧ n.handleSlots ≤ descriptorLimit ∧
      (n.header.handleCount.toNat = n.handleSlots ∨ n.handleSlots = 0) ∧
      n.handleSlots = attached.length ∧
      (∀ h, (∃ n', (writeHandle h).run n = .error .handleLimit n') ↔
        attached.length = descriptorLimit) ∧
      (∀ h n', (writeHandle h).run n = .ok () n' →
        n'.header.handleCount.toNat = n'.handleSlots ∧ n'.handleSlots = attached.length + 1) ∧
      ∀ hs n', (attachHandles hs).run n = .ok () n' →
        n'.header.handleCount.toNat = n'.handleSlots ∧ n'.handleSlots = hs.length := by
  intro n attached
  have counted : n.Counted := after_of_run (fun _ op counted => counted.run op) fresh.counted ops
  have few : n.header.handleCount.toNat ≤ descriptorLimit :=
    after_of_run handleCount_le_run fresh.handleCount_le ops
  have slots : n.handleSlots = attached.length :=
    (Row.handles.follows_after fresh.attachments ops).size
  have within := counted.slots
  refine ⟨few, within, counted.announced.symm, slots, ?_, ?_, ?_⟩
  · intro h
    rw [← slots]
    rcases writeHandle_cases h n with ⟨w, run, below, -⟩ | ⟨run, full⟩ | ⟨w, run, below, -⟩
    · rw [run]
      exact ⟨fun ⟨_, refused⟩ => (nomatch refused), fun full => by omega⟩
    · exact ⟨fun _ => by omega, fun _ => ⟨n, run⟩⟩
    · rw [run]
      exact ⟨fun ⟨_, refused⟩ => (nomatch refused), fun full => by omega⟩
  · intro h n' written
    rcases writeHandle_cases h n with ⟨w, run, -, more, counted⟩ | ⟨run, -⟩ | ⟨w, run, -⟩
    · rw [written] at run
      cases run
      exact ⟨counted, slots ▸ more⟩
    · rw [written] at run
      cases run
    · rw [written] at run
      cases run
  · intro hs n' written
    rcases attachHandles_cases hs n with ⟨w, run, -, slots, counted⟩ | ⟨e, run⟩
    · rw [written] at run
      cases run
      exact ⟨counted, slots⟩
    · rw [written] at run
      cases run

/-- A message whose bytes announce three handles. -/
def announcing : Message := { addressed 1 2 {} with header.handleCount := 3 }

/-- Such bytes are accepted, and the announcement is kept. -/
theorem decode_announcing : decode announcing.encode = .ok announcing :=
  decode_encode (by constructor <;> decide)

/-- Before handles are attached the header says three. Of two that are written the first is moved
out, and its slot counts as well. -/
theorem handles_within_limit_announced :
    let n := announcing.after [.write (.handle ⟨7, true⟩), .takeHandle]
    announcing.header.handleCount.toNat = 3 ∧ announcing.handleSlots = 0 ∧ n.handleSlots = 1 ∧
      ∃ n', (writeHandle ⟨8, true⟩).run n = .ok () n' ∧
        n'.header.handleCount.toNat = n'.handleSlots ∧ n'.handleSlots = 2 := by
  intro n
  obtain ⟨-, -, -, slots, -, written, -⟩ := handles_within_limit (.decoded decode_announcing)
    [.write (.handle ⟨7, true⟩), .takeHandle]
  have one : (Row.handles.ledger announcing
      [.write (.handle ⟨7, true⟩), .takeHandle]).items.length = 1 := by decide +kernel
  refine ⟨rfl, rfl, slots.trans one, ?_⟩
  rcases writeHandle_cases ⟨8, true⟩ n with ⟨n', run, -⟩ | ⟨run, full⟩ | ⟨n', run, -⟩
  · obtain ⟨counted, more⟩ := written ⟨8, true⟩ n' run
    exact ⟨n', run, counted, more.trans (by rw [one])⟩
  · have one : n.handleSlots = 1 := slots.trans one
    rw [one] at full
    contradiction
  · have fits : refusal ((writeHandle ⟨8, true⟩).run n) = none := by decide +kernel
    rw [run] at fits
    contradiction

/-! ## Ports -/

/-- Whether a port is taken over depends on whether its number can be written, and on nothing
else. -/
theorem writePort_cases (p : Port) (m : Message) :
    (∃ n, (writePort p).run m = .ok () n ∧ m.portSlots < wordLimit ∧ m.contentSize + 4 < wordLimit ∧
        n.portSlots = m.portSlots + 1) ∨
      ∃ n, (writePort p).run m = .error .sizeOverflow n ∧
        ¬ (m.portSlots < wordLimit ∧ m.contentSize + 4 < wordLimit) := by
  rw [run_writePort]
  have size : (m.extended (Word.bytes (UInt32.ofNat m.portSlots)).toByteArray).contentSize =
      m.contentSize + 4 := by
    have word := size_wordRow (UInt32.ofNat m.portSlots)
    rw [wordRow] at word
    rw [contentSize_extended, word]
    rfl
  simp only [size]
  by_cases below : m.portSlots < wordLimit
  · rw [if_pos below]
    by_cases room : m.contentSize + 4 < wordLimit
    · exact Or.inl ⟨_, if_pos room, below, room, Slots.size_push m.attachments.ports p⟩
    · exact Or.inr ⟨_, if_neg room, fun both => room both.2⟩
  · exact Or.inr ⟨_, if_neg below, fun both => below both.1⟩

/-- Ports that arrived are attached all together, unless there are slots for ports already. -/
theorem attachPorts_cases (ps : List Port) (m : Message) :
    (∃ n, (attachPorts ps).run m = .ok () n ∧ m.portSlots = 0 ∧ n.portSlots = ps.length) ∨
      (attachPorts ps).run m = .error .portsPresent m ∧ m.portSlots ≠ 0 := by
  rw [run_attachPorts]
  by_cases empty : m.attachments.ports.isEmpty
  · exact Or.inl ⟨_, if_neg (by simp [empty]), Slots.size_of_isEmpty empty, Slots.size_ofList ps⟩
  · refine Or.inr ⟨if_pos (by simp [empty]), ?_⟩
    intro none
    exact empty (by simpa [portSlots, Slots.size, Slots.isEmpty] using none)

/-- Attachments are joined with the message that they arrive with if there are as many handles as it
announces, however many ports there are. -/
theorem attach_bare {m : Message} (few : m.header.handleCount.toNat ≤ descriptorLimit) (parcel : Parcel)
    (announced : parcel.handles.length = m.header.handleCount.toNat) :
    ∃ d, parcel.attach m.bare = .ok d ∧ d.portSlots = parcel.ports.length := by
  have same : parcel.handles.length = m.bare.header.handleCount.toNat := announced
  have fits : ¬ parcel.handles.length > descriptorLimit := by
    rw [announced]
    exact Nat.not_lt.2 few
  have noHandles : m.bare.attachments.handles.isEmpty = true := rfl
  have noPorts : (m.bare.withHandles parcel.handles).attachments.ports.isEmpty = true := rfl
  have handles := run_attachHandles parcel.handles m.bare
  rw [noHandles, if_neg (by decide), if_neg fits] at handles
  have ports := run_attachPorts parcel.ports (m.bare.withHandles parcel.handles)
  rw [noPorts, if_neg (by decide)] at ports
  refine ⟨(m.bare.withHandles parcel.handles).withPorts parcel.ports, ?_, Slots.size_ofList _⟩
  simp only [Parcel.attach, same, ne_eq, not_true_eq_false, if_false, EStateM.run_bind, handles, ports]

/-- A channel does not look at ports when it is asked to take a message on. -/
theorem send_replace_ports (c : Channel) (side : Side) (m : Message) (s : Slots Port) :
    (c.send side (Row.ports.replace m s)).result = (c.send side m).result := by
  have size : (Row.ports.replace m s).size = m.size := rfl
  have handles : (Row.ports.replace m s).attachments.handles = m.attachments.handles := rfl
  have header : (Row.ports.replace m s).header = m.header := rfl
  simp only [Channel.send, size, handles, header]
  split
  · rfl
  split
  · rfl
  · split <;> rfl

/-- Nothing is refused because there are too many ports. Let any operations be done with a message
that was made or decoded. Then there is a slot for each port that was attached since all were moved
out the last time, so there are more slots than a message may have handles as soon as more ports
were attached. Another port is taken over as long as its number fits into a word and this word into
the payload, any number of ports is attached to a message that has no slots for them, a channel
takes a message on whatever ports it has, and any number of ports is joined with the bytes that they
arrive with. -/
theorem ports_unlimited {m : Message} (fresh : m.Fresh) (ops : List Operation) :
    let n := m.after ops
    let books := Row.ports.ledger m ops
    n.portSlots = books.items.length ∧
      (∀ p, (∃ n', (writePort p).run n = .ok () n' ∧ n'.portSlots = books.items.length + 1) ↔
        books.items.length < wordLimit ∧ n.contentSize + 4 < wordLimit) ∧
      (∀ ps, (∃ n', (attachPorts ps).run n = .ok () n' ∧ n'.portSlots = ps.length) ↔
        books.items = []) ∧
      (∀ (c : Channel) (side : Side) (s : Slots Port),
        (c.send side (Row.ports.replace n s)).result = (c.send side n).result) ∧
      n.arriving.portSlots = books.left.length ∧
      ∀ parcel : Parcel, parcel.handles.length = n.header.handleCount.toNat →
        ∃ d, parcel.attach n.bare = .ok d ∧ d.portSlots = parcel.ports.length := by
  intro n books
  have follows : (Row.ports.slots n).Follows books := Row.ports.follows_after fresh.attachments ops
  have slots : n.portSlots = books.items.length := follows.size
  have few : n.header.handleCount.toNat ≤ descriptorLimit :=
    after_of_run handleCount_le_run fresh.handleCount_le ops
  refine ⟨slots, ?_, ?_, fun c side s => send_replace_ports c side n s, ?_, attach_bare few⟩
  · intro p
    rw [← slots]
    rcases writePort_cases p n with ⟨w, run, below, room, more⟩ | ⟨w, run, full⟩
    · exact ⟨fun _ => ⟨below, room⟩, fun _ => ⟨w, run, more⟩⟩
    · rw [run]
      exact ⟨fun ⟨_, written, _⟩ => (nomatch written), fun room => absurd room full⟩
  · intro ps
    rw [← List.length_eq_zero_iff, ← slots]
    rcases attachPorts_cases ps n with ⟨w, run, none, all⟩ | ⟨run, some⟩
    · exact ⟨fun _ => none, fun _ => ⟨w, run, all⟩⟩
    · rw [run]
      exact ⟨fun ⟨_, attached, _⟩ => (nomatch attached), fun none => absurd none some⟩
  · rw [← follows.remaining]
    exact Slots.size_ofList _

/-- As many ports as a message may have handles. -/
def crowd : List Port := List.replicate descriptorLimit ⟨⟨1, 0⟩, true⟩

/-- A new message takes over a crowd of ports. -/
theorem attachPorts_crowd :
    (attachPorts crowd).run (addressed 1 2 {}) = .ok () ((addressed 1 2 {}).withPorts crowd) :=
  (run_attachPorts crowd (addressed 1 2 {})).trans (if_neg (by decide))

/-- The crowd has as many slots as there are ports. -/
theorem portSlots_crowd : ((addressed 1 2 {}).withPorts crowd).portSlots = descriptorLimit :=
  (Slots.size_ofList crowd).trans List.length_replicate

/-- Attaching the crowd, as an operation. -/
theorem after_crowd :
    (addressed 1 2 {}).after [.attachPorts crowd] = (addressed 1 2 {}).withPorts crowd := by
  show leaving ((attachPorts crowd).run (addressed 1 2 {})) = _
  rw [attachPorts_crowd]
  rfl

/-- One more port is taken over. -/
theorem ports_unlimited_crowd :
    ∃ n, (writePort ⟨⟨2, 0⟩, true⟩).run ((addressed 1 2 {}).withPorts crowd) = .ok () n ∧
      n.portSlots = descriptorLimit + 1 := by
  obtain ⟨slots, written, -⟩ := ports_unlimited (.addressed 1 2 {}) [.attachPorts crowd]
  rw [after_crowd] at slots written
  rw [portSlots_crowd] at slots
  rw [← slots] at written
  exact (written ⟨⟨2, 0⟩, true⟩).2 ⟨descriptorLimit_lt_wordLimit, by decide⟩

/-- A message comes by more ports than the limit allows, and so does what arrives of it. -/
theorem ports_beyond_limit :
    ∃ n, (attachPorts crowd).run (addressed 1 2 {}) = .ok () ((addressed 1 2 {}).withPorts crowd) ∧
      (writePort ⟨⟨2, 0⟩, true⟩).run ((addressed 1 2 {}).withPorts crowd) = .ok () n ∧
      n.portSlots = 32768 ∧ n.arriving.portSlots = 32768 ∧ n.portSlots > descriptorLimit := by
  rcases writePort_cases ⟨⟨2, 0⟩, true⟩ ((addressed 1 2 {}).withPorts crowd) with
    ⟨n, run, -, -, more⟩ | ⟨n, run, full⟩
  · rw [portSlots_crowd] at more
    have placed : Row.ports.Placed ⟨⟨2, 0⟩, true⟩ _ n := Row.placed_of_write run
    have left : n.attachments.ports.remaining = crowd ++ [⟨⟨2, 0⟩, true⟩] := by
      rw [placed.attachments]
      exact (Slots.remaining_push _ _).trans (by rw [Row.slots, Row.of]; simp [withPorts])
    have arriving : n.arriving.portSlots = descriptorLimit + 1 := by
      refine (Slots.size_ofList n.attachments.ports.remaining).trans ?_
      rw [left, List.length_append, crowd, List.length_replicate]
      rfl
    exact ⟨n, attachPorts_crowd, run, more, arriving, by omega⟩
  · rw [portSlots_crowd] at full
    exact absurd ⟨descriptorLimit_lt_wordLimit, by decide⟩ full

end Interprocess.Message
