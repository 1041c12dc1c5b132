import Interprocess.Proofs.Channel.Traffic
import Interprocess.Proofs.Message.Reading

/-!
# What was written is read

A message that was filled field by field holds no empty slot, so it arrives as it was sent
(`Message.Holds.arriving`). A message that was accepted for an end keeps its place in the record of
that end, whatever happens later (`Traffic.accepted_run`), and its place among the messages that are
handed over is the same. Together with the reads that undo the writes this gives the main statement,
`Traffic.read_back_as_written`.
-/

set_option autoImplicit false

namespace Interprocess

/-! ## Full rows of slots -/

/-- All that a full row holds is left in it. -/
theorem Slots.remaining_of_full {α : Type} {s : Slots α} {as : List α}
    (full : s.toList = as.map some) : s.remaining = as := by
  rw [Slots.remaining, full, List.filterMap_map]
  exact List.filterMap_some

/-- A full row is filled again by what is left in it. -/
theorem Slots.ofList_remaining {α : Type} {s : Slots α} {as : List α}
    (full : s.toList = as.map some) : Slots.ofList s.remaining = s := by
  rw [remaining_of_full full]
  obtain ⟨cells⟩ := s
  have same : cells.toList = as.map some := full
  rw [Slots.ofList, ← same]

namespace Message

/-- A message that holds some fields arrives as it is. -/
theorem Holds.arriving {m : Message} {fs : List Field} {footer : ByteArray}
    (holds : m.Holds fs footer) : m.arriving = m := by
  rw [Message.arriving, Slots.ofList_remaining holds.handles, Slots.ofList_remaining holds.ports]

/-- A message that holds some fields announces the handles that are left in it. -/
theorem Holds.announced {m : Message} {fs : List Field} {footer : ByteArray}
    (holds : m.Holds fs footer) :
    m.attachments.handles.remaining.length = m.header.handleCount.toNat := by
  rw [Slots.remaining_of_full holds.handles, holds.handleCount]

/-- A message as it is made, before anything is written to it. -/
inductive New : Message → Prop
  | addressed (routing : Int32) (type : MessageType) (flags : Flags) :
      New (addressed routing type flags)
  | constructing (routing : Int32) (type : MessageType) (flags : Flags) :
      New (constructing routing type flags)
  | dispatchFailure (level : Level) : New (dispatchFailure level)
  | reply {call : Message} (type : MessageType) : call.Built → New (call.reply type)

/-- A new message is one that callers can come by. -/
theorem New.built {m : Message} (new : m.New) : m.Built := by
  cases new with
  | addressed routing type flags => exact .addressed routing type flags
  | constructing routing type flags => exact .constructing routing type flags
  | dispatchFailure level => exact .dispatchFailure level
  | reply type call => exact call.reply type

/-- A new message holds no fields and has no footer. -/
theorem New.holds {m : Message} (new : m.New) : m.Holds [] ByteArray.empty := by
  cases new with
  | addressed | constructing | dispatchFailure | reply => exact ⟨rfl, rfl, rfl, rfl, rfl⟩

end Message

namespace Channel

/-- A message that keeps the limit and announces the handles it holds is sent to an end that still
has its inlet. -/
theorem send_eq_ok {c : Channel} {side : Side} {m : Message}
    (fits : m.size ≤ c.config.maxMessageSize.toNat)
    (announced : m.attachments.handles.remaining.length = m.header.handleCount.toNat)
    (there : (c.endpoint side.other).receiver.inlet?.isSome) : (c.send side m).result = .ok () :=
  congrArg Sending.result (send_queued fits announced there)

end Channel

namespace Traffic

/-! ## Records only grow -/

/-- Noting something takes nothing back from any record. -/
theorem note_prefix (record : Side → List Message) (side s : Side) (ms : List Message) :
    record s <+: note record side ms s := by
  by_cases same : s = side
  · subst same
    rw [note_same]
    exact List.prefix_append _ _
  · exact ⟨[], by rw [note_of_ne same, List.append_nil]⟩

/-- No event takes anything back from what was accepted. -/
theorem accepted_step (t : Traffic) (event : Event) (side : Side) :
    t.accepted side <+: (t.step event).accepted side := by
  cases event with
  | send s m =>
    rcases t.channel.send_cases s m with ⟨result, -⟩ | ⟨e, result, -⟩
    · rw [step_send_ok result]
      exact note_prefix _ _ _ _
    · exact ⟨[], by rw [step_send_error result, List.append_nil]⟩
  | poll s =>
    rw [step]
    split <;> exact List.prefix_rfl
  | start | further | cancel | abort | drop => exact List.prefix_rfl

/-- No run takes anything back from what was accepted. -/
theorem accepted_run (t : Traffic) (events : List Event) (side : Side) :
    t.accepted side <+: (events.foldl step t).accepted side := by
  induction events generalizing t with
  | nil => exact List.prefix_rfl
  | cons event events ih => exact (t.accepted_step event side).trans (ih (t.step event))

/-- A message that was accepted keeps its place. -/
theorem accepted_place {channel : Channel} {earlier later : List Event} {side : Side} {m : Message}
    (result : ((run channel earlier).channel.send side m).result = .ok ()) :
    ((run channel (earlier ++ .send side m :: later)).accepted side.other)[
      ((run channel earlier).accepted side.other).length]? = some m := by
  have grown := accepted_run ((run channel earlier).step (.send side m)) later side.other
  have whole : run channel (earlier ++ .send side m :: later) =
      later.foldl step ((run channel earlier).step (.send side m)) := by
    rw [run, List.foldl_append]
    rfl
  rw [step_send_ok result] at whole grown
  obtain ⟨more, accepted⟩ := grown
  rw [whole, ← accepted]
  simp [note_same]

/-- What is handed over in some place is what was accepted in that place, as it arrives. -/
theorem Orderly.delivered_place {config : ChannelConfig} {t : Traffic} (orderly : t.Orderly config)
    {side : Side} {place : Nat} {m d : Message} (accepted : (t.accepted side)[place]? = some m)
    (delivered : (t.delivered side)[place]? = some d) : d = m.arriving := by
  obtain ⟨ms, records, -⟩ := orderly.ends side
  have arrived : ((t.accepted side).map Message.arriving)[place]? = some d := by
    rw [records]
    exact List.getElem?_append_left (List.getElem?_eq_some_iff.1 delivered).1 ▸ delivered
  rw [List.getElem?_map, accepted] at arrived
  exact (Option.some.inj arrived).symm

/-- Fields are written to a new message in any order, and footers between them, as long as the
content can be announced and there is a slot for each file handle. The reads that match the fields
then give them back, with the very same attachments, and leave nothing. They do so as well at the
other end of a channel, in the place that the message has among those sent there, whatever else
happens on the channel before and after. -/
theorem read_back_as_written {new : Message} (made : new.New) {es : List Entry}
    (room : ((Entry.allFields es).map Field.width).sum + align (Entry.wholeFooter es).size <
      wordLimit)
    (few : ((Entry.allFields es).flatMap Field.handles).length ≤ descriptorLimit) :
    ∃ m, (Entry.writeAll es).run new = .ok () m ∧ m.ReadsBack (Entry.allFields es) ∧
      ∀ (config : ChannelConfig) (channel : Channel), Channel.create config = .ok channel →
        m.size ≤ config.maxMessageSize.toNat →
      ∀ (earlier later : List Event) (side : Side),
        (∀ s n, Event.send s n ∈ earlier ++ later → n.Built) →
        ((run channel earlier).channel.endpoint side.other).receiver.inlet?.isSome →
      let place := ((run channel earlier).accepted side.other).length
      let after := run channel (earlier ++ .send side m :: later)
      ((run channel earlier).channel.send side m).result = .ok () ∧
      (∀ d, (after.delivered side.other)[place]? = some d → d.ReadsBack (Entry.allFields es)) ∧
      ((after.channel.endpoint side.other).receiver.isRunning →
        ∃ d, ((after.step (.poll side.other)).delivered side.other)[place]? = some d ∧
          d.ReadsBack (Entry.allFields es)) := by
  obtain ⟨m, written, holds, built⟩ := made.holds.writeAll made.built (by simpa using room)
    (by simpa using few)
  rw [List.nil_append] at holds
  have back : m.ReadsBack (Entry.allFields es) := holds.readsBack (by omega)
  refine ⟨m, written, back, ?_⟩
  intro config channel created fits earlier later side others there place after
  have before : (run channel earlier).Orderly config :=
    orderly_run created fun s n mem => others s n (List.mem_append_left _ mem)
  have orderly : after.Orderly config := by
    refine orderly_run created fun s n mem => ?_
    rcases List.mem_append.1 mem with old | recent
    · exact others s n (List.mem_append_left _ old)
    rcases List.mem_cons.1 recent with this | next
    · obtain ⟨-, rfl⟩ := Event.send.inj this
      exact built
    · exact others s n (List.mem_append_right _ next)
  have sent : ((run channel earlier).channel.send side m).result = .ok () :=
    Channel.send_eq_ok (before.limits ▸ fits) holds.announced there
  refine ⟨sent, ?_, ?_⟩
  · intro d delivered
    rw [orderly.delivered_place (accepted_place sent) delivered, holds.arriving]
    exact back
  · intro running
    obtain ⟨more, kept⟩ := after.accepted_step (.poll side.other) side.other
    refine ⟨m, ?_, back⟩
    rw [orderly.delivered_poll running, ← kept, List.map_append]
    have accepted := @accepted_place channel earlier later side m sent
    have within := (List.getElem?_eq_some_iff.1 accepted).1
    rw [List.getElem?_append_left (by rw [List.length_map]; exact within), List.getElem?_map,
      accepted, Option.map_some, holds.arriving]

/-- Fields of several kinds, with footers between them. -/
def assorted : List Entry :=
  [.field (.text "ä€"), .footer ⟨#[1, 2]⟩, .field (.bytes ⟨#[3, 4, 5]⟩), .field (.handle ⟨7, true⟩),
    .field (.i64 (-1)), .footer ⟨#[6]⟩, .field (.port ⟨⟨1, 2⟩, true⟩), .field (.bool true)]

/-- A message with these fields. -/
def assortedMessage : Message :=
  leaving ((Entry.writeAll assorted).run (.addressed 1 2 {}))

/-- The fields are read back from the message and from what is handed over at the other end. -/
theorem read_back_as_written_assorted :
    assortedMessage.ReadsBack (Entry.allFields assorted) ∧
      ∃ d, (((run choppyChannel [.start .b, .send .a assortedMessage]).step
          (.poll .b)).delivered .b)[0]? = some d ∧
        d.ReadsBack (Entry.allFields assorted) := by
  obtain ⟨m, written, back, passage⟩ :=
    @read_back_as_written _ (.addressed 1 2 {}) assorted (by decide +kernel) (by decide +kernel)
  obtain rfl : assortedMessage = m := by
    rw [assortedMessage, written]
    rfl
  refine ⟨back, ?_⟩
  obtain ⟨-, -, handed⟩ := passage choppyChannel.config choppyChannel rfl (by decide +kernel)
    [.start .b] [] .a (by simp) rfl
  exact handed (by decide +kernel)

end Traffic

end Interprocess
