import Interprocess.Proofs.Channel.Passage
import Interprocess.Proofs.Message.Counted

/-!
# Slot numbers across a channel

A payload names its attachments by slot number, and an emptied slot stays in its row so that the
other numbers stay right. But attachments travel without their slots: what is left of a row is lined
up, and fills a new row at the other end from the front. So the number of a slot becomes the number
of filled slots before it (`Slots.getElem?_filledBefore`), and a row keeps its numbers exactly if no
empty slot lies before a filled one (`Slots.getElem?_remaining_iff`).

For file handles a channel compares the number that is announced with the number that is left. Since
the announced number counts the slots (`Message.Built.counted`), only a row without empty slots
passes, and all handles arrive where they were: `Traffic.handles_keep_their_slots`. Nothing is
announced for ports. They close up, and a payload may then name another port than it did:
`Traffic.ports_close_up`, `Traffic.port_numbers_shift`.
-/

set_option autoImplicit false

namespace Interprocess

/-! ## Rows that close up -/

namespace Slots

variable {α : Type}

/-- In a row that is filled from a list each element has its own place. -/
theorem get?_ofList (as : List α) (i : Nat) : (ofList as).get? i = as[i]? := by
  rw [get?_eq, toList_ofList, List.getElem?_map]
  cases as[i]? with
  | none => rfl
  | some a => rfl

/-- Looking a slot up gives what lies in it. -/
theorem get?_eq_some_iff {s : Slots α} {i : Nat} {a : α} :
    s.get? i = some a ↔ s.toList[i]? = some (some a) := by
  rw [get?_eq, Option.join_eq_some_iff]

/-- Looking up a slot within the row gives its cell, filled or not. -/
theorem get?_of_lt {s : Slots α} {i : Nat} (within : i < s.toList.length) :
    s.get? i = s.toList[i] := by
  rw [get?_eq, List.getElem?_eq_getElem within, Option.join_some]

/-- The number of filled slots that lie before a place. -/
def filledBefore (s : Slots α) (i : Nat) : Nat := (s.toList.take i).countP Option.isSome

/-- No empty slot lies before a filled one. -/
def Packed (s : Slots α) : Prop := ∀ i j, i < j → (s.get? j).isSome → (s.get? i).isSome

/-- As much is left in a row as there are filled slots. -/
theorem length_remaining (s : Slots α) : s.remaining.length = s.toList.countP Option.isSome :=
  List.length_filterMap_eq_countP

/-- What lies in a slot is left in the place that counts the filled slots before it. -/
theorem getElem?_filledBefore {s : Slots α} {i : Nat} {a : α} (filled : s.get? i = some a) :
    s.remaining[s.filledBefore i]? = some a := by
  obtain ⟨within, cell⟩ := List.getElem?_eq_some_iff.1 (get?_eq_some_iff.1 filled)
  have row : s.toList = s.toList.take i ++ some a :: s.toList.drop (i + 1) := by
    rw [← cell, ← List.drop_eq_getElem_cons within, List.take_append_drop]
  -- what is left before the slot, then the slot, then what is left behind it
  have closed : s.remaining =
      (s.toList.take i).filterMap id ++ a :: (s.toList.drop (i + 1)).filterMap id :=
    calc s.remaining = (s.toList.take i ++ some a :: s.toList.drop (i + 1)).filterMap id :=
          congrArg (List.filterMap id) row
      _ = _ := by rw [List.filterMap_append, List.filterMap_cons_some (f := id) rfl]
  have before : ((s.toList.take i).filterMap id).length = s.filledBefore i :=
    List.length_filterMap_eq_countP
  rw [closed, ← before, List.getElem?_append_right (Nat.le_refl _), Nat.sub_self]
  rfl

/-- If all slots before a place are filled, they are as many as the place says. -/
theorem filledBefore_eq {s : Slots α} {i : Nat} (within : i ≤ s.toList.length)
    (filled : ∀ j < i, (s.get? j).isSome) : s.filledBefore i = i := by
  have whole : (s.toList.take i).length = i := List.length_take_of_le within
  have all : ∀ cell ∈ s.toList.take i, cell.isSome := by
    intro cell mem
    obtain ⟨j, before, rfl⟩ := List.mem_iff_getElem.1 mem
    rw [whole] at before
    rw [List.getElem_take, ← get?_of_lt (Nat.lt_of_lt_of_le before within)]
    exact filled j before
  rw [filledBefore, List.countP_eq_length.2 all, whole]

/-- Behind an empty slot of a packed row nothing is left. -/
theorem Packed.length_remaining_le {s : Slots α} (packed : s.Packed) {i : Nat}
    (empty : s.get? i = none) : s.remaining.length ≤ i := by
  have nothing : (s.toList.drop i).filterMap id = [] := by
    refine List.filterMap_eq_nil_iff.2 ?_
    intro cell mem
    obtain ⟨k, within, rfl⟩ := List.mem_iff_getElem.1 mem
    rw [List.length_drop] at within
    have place : i + k < s.toList.length := by omega
    rw [List.getElem_drop, id, ← get?_of_lt place]
    rcases Nat.eq_zero_or_pos k with rfl | behind
    · exact empty
    cases slot : s.get? (i + k) with
    | none => rfl
    | some a =>
      -- a filled slot back there would say that slot `i` is filled too
      have filled := packed i (i + k) (by omega) (Option.isSome_of_eq_some slot)
      rw [empty] at filled
      contradiction
  have closed : s.remaining = (s.toList.take i).filterMap id := by
    rw [remaining, ← List.append_nil ((s.toList.take i).filterMap id), ← nothing,
      ← List.filterMap_append, List.take_append_drop]
  calc s.remaining.length ≤ (s.toList.take i).length := by
        rw [closed]
        exact List.length_filterMap_le id _
    _ ≤ i := List.length_take_le i _

/-- Every slot keeps its place among what is left exactly if the row is packed. -/
theorem getElem?_remaining_iff (s : Slots α) :
    (∀ i, s.remaining[i]? = s.get? i) ↔ s.Packed := by
  constructor
  · intro same i j before filled
    obtain ⟨a, slot⟩ := Option.isSome_iff_exists.1 filled
    rw [← same] at slot ⊢
    have within := (List.getElem?_eq_some_iff.1 slot).1
    rw [List.getElem?_eq_getElem (Nat.lt_trans before within)]
    rfl
  · intro packed i
    cases slot : s.get? i with
    | none => exact List.getElem?_eq_none (packed.length_remaining_le slot)
    | some a =>
      have within := (List.getElem?_eq_some_iff.1 (get?_eq_some_iff.1 slot)).1
      have kept : s.filledBefore i = i := by
        refine filledBefore_eq (Nat.le_of_lt within) ?_
        intro j before
        exact packed j i before (Option.isSome_of_eq_some slot)
      rw [← kept]
      exact getElem?_filledBefore slot

/-- No more is left in a row than it has slots. -/
theorem length_remaining_le (s : Slots α) : s.remaining.length ≤ s.size := by
  rw [← length_toList]
  exact List.length_filterMap_le id s.toList

/-- As much is left as there are slots if and only if no slot is empty. -/
theorem length_remaining_eq_iff (s : Slots α) :
    s.remaining.length = s.size ↔ ∀ i < s.size, (s.get? i).isSome := by
  rw [length_remaining, ← length_toList, List.countP_eq_length, List.forall_mem_iff_forall_getElem]
  constructor
  · intro filled i within
    rw [get?_of_lt within]
    exact filled i within
  · intro filled i within
    rw [← get?_of_lt within]
    exact filled i within

/-- Cells that are all filled are the cells of what lies in them. -/
theorem map_some_filterMap {cells : List (Option α)} (filled : ∀ cell ∈ cells, cell.isSome) :
    (cells.filterMap id).map some = cells := by
  induction cells with
  | nil => rfl
  | cons cell cells ih =>
    obtain ⟨first, others⟩ := List.forall_mem_cons.1 filled
    obtain ⟨a, rfl⟩ := Option.isSome_iff_exists.1 first
    rw [List.filterMap_cons_some (f := id) rfl, List.map_cons, ih others]

/-- A row without empty slots is filled again by what is left in it. -/
theorem ofList_remaining_of_length_eq {s : Slots α} (full : s.remaining.length = s.size) :
    ofList s.remaining = s := by
  have filled : ∀ cell ∈ s.toList, cell.isSome := by
    rw [length_remaining, ← length_toList] at full
    exact List.countP_eq_length.1 full
  exact ofList_remaining (map_some_filterMap filled).symm

end Slots

/-! ## What a read comes to -/

/-- What a step hands out, or why it fails. -/
def outcome {ε σ α : Type} : EStateM.Result ε σ α → Except ε α
  | .ok a _ => .ok a
  | .error e _ => .error e

/-- What a read of an attachment comes to depends only on the slot that the payload names. -/
theorem Row.outcome_consume {α : Type} (row : Row α) (r : Reader) :
    outcome (row.consume.run r) =
      if r.remaining < 4 then .error (.underflow 4 r.remaining)
      else
        ((row.slots r.message).get? r.word.toNat).elim (.error (row.missing r.word.toNat)) .ok := by
  rw [run_consume]
  split
  · rfl
  · cases (row.slots r.message).get? r.word.toNat <;> rfl

/-- Messages with the same bytes and the same in a row of slots give the same when it is read. -/
theorem Row.outcome_consume_congr {α : Type} {row : Row α} {m d : Message}
    (payload : d.payload = m.payload) (same : ∀ i, (row.slots d).get? i = (row.slots m).get? i)
    (place : Nat) :
    outcome (row.consume.run { message := d, place }) =
      outcome (row.consume.run { message := m, place }) := by
  have left : ({ message := d, place } : Reader).remaining =
      ({ message := m, place } : Reader).remaining := by
    rw [Reader.remaining, Reader.remaining, payload]
  have word : ({ message := d, place } : Reader).word =
      ({ message := m, place } : Reader).word := by
    rw [Reader.word, Reader.word, payload]
  rw [outcome_consume, outcome_consume, left, word, same]

namespace Message

/-- One message names the same handles as another: the rows are the same, and so is what is read in
any place of the payload. -/
structure SameHandles (m d : Message) : Prop where
  slots : d.attachments.handles = m.attachments.handles
  reads : ∀ place, outcome (Reader.readHandle.run { message := d, place }) =
    outcome (Reader.readHandle.run { message := m, place })

/-- One message has the ports of another, but without the empty slots between them. It names the
same ports only if these were packed. -/
structure PortsClosedUp (m d : Message) : Prop where
  payload : d.payload = m.payload
  slots : ∀ i, d.attachments.ports.get? i = m.attachments.ports.remaining[i]?
  moved : ∀ i p, m.attachments.ports.get? i = some p →
    d.attachments.ports.get? (m.attachments.ports.filledBefore i) = some p
  same : (∀ i, d.attachments.ports.get? i = m.attachments.ports.get? i) ↔ m.attachments.ports.Packed
  reads : m.attachments.ports.Packed → ∀ place,
    outcome (Reader.readPort.run { message := d, place }) =
      outcome (Reader.readPort.run { message := m, place })

/-- As many handles are left as are announced if and only if the header counts the slots and none of
them is empty. -/
theorem Counted.length_remaining_eq_iff {m : Message} (counted : m.Counted) :
    m.attachments.handles.remaining.length = m.header.handleCount.toNat ↔
      m.header.handleCount.toNat = m.handleSlots ∧
        ∀ i < m.handleSlots, (m.attachments.handles.get? i).isSome := by
  unfold handleSlots
  rw [← Slots.length_remaining_eq_iff]
  constructor
  · intro left
    have few := m.attachments.handles.length_remaining_le
    -- a number without slots can only be met if it is zero
    rcases counted.announced with none | announced
    · unfold handleSlots at none
      omega
    · unfold handleSlots at announced
      exact ⟨announced, left.trans announced⟩
  · rintro ⟨announced, full⟩
    exact full.trans announced.symm

/-- If the header counts the handles that are left, a message names the same handles when it
arrives. -/
theorem Counted.sameHandles_arriving {m : Message} (counted : m.Counted)
    (left : m.attachments.handles.remaining.length = m.header.handleCount.toNat) :
    m.SameHandles m.arriving := by
  obtain ⟨announced, filled⟩ := counted.length_remaining_eq_iff.1 left
  have slots : m.arriving.attachments.handles = m.attachments.handles :=
    Slots.ofList_remaining_of_length_eq (left.trans announced)
  have same (i : Nat) : (Row.handles.slots m.arriving).get? i = (Row.handles.slots m).get? i :=
    congrArg (Slots.get? · i) slots
  exact ⟨slots, Row.outcome_consume_congr rfl same⟩

/-- The ports of a message have closed up when it arrives. -/
theorem portsClosedUp_arriving (m : Message) : m.PortsClosedUp m.arriving := by
  have slots (i : Nat) : m.arriving.attachments.ports.get? i = m.attachments.ports.remaining[i]? :=
    Slots.get?_ofList _ i
  have same : (∀ i, m.arriving.attachments.ports.get? i = m.attachments.ports.get? i) ↔
      m.attachments.ports.Packed := by
    rw [← Slots.getElem?_remaining_iff]
    simp only [slots]
  refine ⟨rfl, slots, ?_, same, fun packed => Row.outcome_consume_congr rfl (same.2 packed)⟩
  intro i p filled
  rw [slots]
  exact Slots.getElem?_filledBefore filled

end Message

namespace Traffic

variable {config : ChannelConfig} {channel : Channel} {earlier later : List Event} {side : Side}
  {m : Message}

/-- What was accepted is handed over in its place as it arrives, by a running loop when it is polled
next at the latest. -/
theorem arrives (created : Channel.create config = .ok channel)
    (others : ∀ s n, Event.send s n ∈ earlier ++ later → n.Built) (built : m.Built)
    (sent : ((run channel earlier).channel.send side m).result = .ok ()) :
    let place := ((run channel earlier).accepted side.other).length
    let after := run channel (earlier ++ .send side m :: later)
    (∀ d, (after.delivered side.other)[place]? = some d → d = m.arriving) ∧
      ((after.channel.endpoint side.other).receiver.isRunning →
        ((after.step (.poll side.other)).delivered side.other)[place]? = some m.arriving) := by
  intro place after
  have orderly : after.Orderly config := by
    refine orderly_run created fun s n mem => ?_
    rcases List.mem_append.1 mem with old | recent
    · exact others s n (List.mem_append_left _ old)
    rcases List.mem_cons.1 recent with this | next
    · obtain ⟨-, rfl⟩ := Event.send.inj this
      exact built
    · exact others s n (List.mem_append_right _ next)
  have accepted : (after.accepted side.other)[place]? = some m := accepted_place sent
  refine ⟨fun d delivered => orderly.delivered_place accepted delivered, fun running => ?_⟩
  have within := (List.getElem?_eq_some_iff.1 accepted).1
  obtain ⟨more, kept⟩ := after.accepted_step (.poll side.other) side.other
  rw [orderly.delivered_poll running, ← kept, List.map_append,
    List.getElem?_append_left (by rw [List.length_map]; exact within), List.getElem?_map, accepted,
    Option.map_some]

/-- A message that keeps the limit is accepted for an end that still has its inlet if and only if
the header counts the slots for handles and no handle was moved out of them. The handles of a
message that was accepted keep their slots, so its payload names the same handles at the other end,
whatever else happens on the channel before and after. -/
theorem handles_keep_their_slots (created : Channel.create config = .ok channel)
    (others : ∀ s n, Event.send s n ∈ earlier ++ later → n.Built) (built : m.Built) :
    let before := run channel earlier
    let place := (before.accepted side.other).length
    let after := run channel (earlier ++ .send side m :: later)
    (m.size ≤ config.maxMessageSize.toNat →
      (before.channel.endpoint side.other).receiver.inlet?.isSome →
      ((before.channel.send side m).result = .ok () ↔
        m.header.handleCount.toNat = m.handleSlots ∧
          ∀ i < m.handleSlots, (m.attachments.handles.get? i).isSome)) ∧
    ((before.channel.send side m).result = .ok () →
      (∀ d, (after.delivered side.other)[place]? = some d → m.SameHandles d) ∧
      ((after.channel.endpoint side.other).receiver.isRunning →
        ∃ d, ((after.step (.poll side.other)).delivered side.other)[place]? = some d ∧
          m.SameHandles d)) := by
  intro before place after
  have counted := built.counted
  have left (sent : (before.channel.send side m).result = .ok ()) :
      m.attachments.handles.remaining.length = m.header.handleCount.toNat := by
    rcases before.channel.send_cases side m with ⟨-, -, -, left⟩ | ⟨e, refused, -⟩
    · exact left
    · rw [refused] at sent
      contradiction
  constructor
  · intro fits there
    have orderly : before.Orderly config :=
      orderly_run created fun s n mem => others s n (List.mem_append_left _ mem)
    rw [← counted.length_remaining_eq_iff]
    exact ⟨left, fun left => Channel.send_eq_ok (orderly.limits ▸ fits) left there⟩
  · intro sent
    obtain ⟨delivered, polled⟩ := arrives created others built sent
    have same := counted.sameHandles_arriving (left sent)
    refine ⟨?_, fun running => ⟨m.arriving, polled running, same⟩⟩
    intro d place
    rw [delivered d place]
    exact same

/-- Ports and handles are written in turn, and then the first port is read. -/
def worn : Message :=
  [.write (.port ⟨⟨1, 2⟩, true⟩), .write (.handle ⟨7, true⟩), .write (.port ⟨⟨3, 4⟩, true⟩),
    .write (.handle ⟨8, true⟩), .read .port 0].foldl (fun m op => (Message.Operation.run m op).2)
    (.addressed 1 2 {})

/-- Callers can come by the worn message. -/
theorem built_worn : worn.Built :=
  (Message.Built.addressed 1 2 {}).after (by decide +kernel)

/-- Two handles arrive where they were. When the first one is taken before, the message is
refused. -/
theorem handles_keep_their_slots_worn :
    (∃ d, (((run choppyChannel [.start .b, .send .a worn]).step (.poll .b)).delivered .b)[0]? =
        some d ∧ worn.SameHandles d) ∧
      ((run choppyChannel [.start .b]).channel.send .a worn.takeHandle.2).result ≠ .ok () := by
  have created : Channel.create choppyChannel.config = .ok choppyChannel := rfl
  have started : ∀ s n, Event.send s n ∈ [Event.start .b] ++ [] → n.Built := by simp
  have robbed : worn.takeHandle.2.Built := built_worn.step .takeHandle (by decide +kernel)
  obtain ⟨accepted, passage⟩ :=
    @handles_keep_their_slots _ _ [.start .b] [] .a worn created started built_worn
  obtain ⟨refused, -⟩ :=
    @handles_keep_their_slots _ _ [.start .b] [] .a worn.takeHandle.2 created started robbed
  refine ⟨(passage ((accepted (by decide +kernel) rfl).2 (by decide +kernel))).2 rfl, ?_⟩
  intro sent
  obtain ⟨-, filled⟩ := (refused (by decide +kernel) rfl).1 sent
  have taken : ¬ (worn.takeHandle.2.attachments.handles.get? 0).isSome := by decide +kernel
  exact taken (filled 0 (by decide +kernel))

/-- The ports of a message that was accepted close up: they arrive in the same order, but without
the empty slots between them. Its payload names the same ports at the other end if these were
packed. -/
theorem ports_close_up (created : Channel.create config = .ok channel)
    (others : ∀ s n, Event.send s n ∈ earlier ++ later → n.Built) (built : m.Built)
    (sent : ((run channel earlier).channel.send side m).result = .ok ()) :
    let place := ((run channel earlier).accepted side.other).length
    let after := run channel (earlier ++ .send side m :: later)
    (∀ d, (after.delivered side.other)[place]? = some d → m.PortsClosedUp d) ∧
      ((after.channel.endpoint side.other).receiver.isRunning →
        ∃ d, ((after.step (.poll side.other)).delivered side.other)[place]? = some d ∧
          m.PortsClosedUp d) := by
  intro place after
  obtain ⟨delivered, polled⟩ := arrives created others built sent
  have closed := m.portsClosedUp_arriving
  refine ⟨?_, fun running => ⟨m.arriving, polled running, closed⟩⟩
  intro d there
  rw [delivered d there]
  exact closed

/-- Of two ports the first was read, so the second one arrives in its slot. -/
theorem ports_close_up_worn :
    ∃ d, (((run choppyChannel [.start .b, .send .a worn]).step (.poll .b)).delivered .b)[0]? =
        some d ∧ worn.PortsClosedUp d := by
  have created : Channel.create choppyChannel.config = .ok choppyChannel := rfl
  have started : ∀ s n, Event.send s n ∈ [Event.start .b] ++ [] → n.Built := by simp
  have sent : ((run choppyChannel [.start .b]).channel.send .a worn).result = .ok () := rfl
  exact (@ports_close_up _ _ [.start .b] [] .a worn created started built_worn sent).2 rfl

/-- In the place of a port that was read already another port is read at the other end, and in the
place of the port that is left none. -/
theorem port_numbers_shift :
    worn.Built ∧ ((run choppyChannel [.start .b]).channel.send .a worn).result = .ok () ∧
      ∃ d, (((run choppyChannel [.start .b, .send .a worn]).step (.poll .b)).delivered .b)[0]? =
          some d ∧
        outcome (Reader.readPort.run { message := worn, place := 0 }) = .error (.missingPort 0) ∧
        outcome (Reader.readPort.run { message := d, place := 0 }) = .ok ⟨⟨3, 4⟩, true⟩ ∧
        outcome (Reader.readPort.run { message := worn, place := 8 }) = .ok ⟨⟨3, 4⟩, true⟩ ∧
        outcome (Reader.readPort.run { message := d, place := 8 }) = .error (.missingPort 1) := by
  have created : Channel.create choppyChannel.config = .ok choppyChannel := rfl
  have started : ∀ s n, Event.send s n ∈ [Event.start .b] ++ [] → n.Built := by simp
  have sent : ((run choppyChannel [.start .b]).channel.send .a worn).result = .ok () := rfl
  have handed := (arrives created started built_worn sent).2 rfl
  exact ⟨built_worn, sent, worn.arriving, handed, rfl, rfl, rfl, rfl⟩

end Traffic

end Interprocess
