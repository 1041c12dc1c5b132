import Interprocess.Proofs.Channel.Traffic
import Interprocess.Proofs.Custody.Holdings

/-!
# How receive loops end

A receive loop ends in good order when it was asked to end or when the other end is gone, and it may
be asked at any time, even before it is started. Three things meet here. The wish to end is kept in
the inlet as long as that is there, and an end that is gone does not come back: `follows_run` says
so for any run, from its events alone. A loop looks at the wish only after it has handled everything
that arrived, so nothing that was accepted is left behind. And an inlet that is gone stays gone, so
the end is deaf from then on: messages are refused and closed (`Channel.Refuses`), and whoever
starts another loop is told that there was one (`Channel.FailsAt`). `Traffic.ending_loses_nothing`
puts them together.
-/

set_option autoImplicit false

namespace Interprocess

/-! ## Inlets that are kept -/

namespace Receiver

/-- Work on an inlet reaches the inlet of a receiver, if it is still there. -/
theorem inlet?_mapInlet (f : Inlet → Inlet) (r : Receiver) :
    (r.mapInlet f).inlet? = r.inlet?.map f := by
  cases r <;> rfl

/-- An inlet that is there after a loop was given up was there before. -/
theorem inlet?_of_abort {r : Receiver} {i : Inlet} (there : r.abort.1.inlet? = some i) :
    r.inlet? = some i := by
  cases r with
  | ready inlet held => exact there
  | listening inlet buffer => contradiction
  | closed held => contradiction

/-- An inlet that is there after a loop was started was there before. -/
theorem inlet?_of_start {r : Receiver} {i : Inlet} (there : r.start.1.inlet? = some i) :
    r.inlet? = some i := by
  rw [inlet?_start] at there
  exact inlet?_of_abort there

/-- A loop that is started when the inlet is gone is held, and nothing has to be closed. -/
theorem start_of_gone {r : Receiver} (gone : r.inlet? = none) : r.start = (closed true, ∅) := by
  cases r with
  | ready | listening => contradiction
  | closed held => rfl

/-- The inlet that a loop leaves is the one it had, and whether it was asked to end is not
forgotten. -/
theorem inlet?_of_run? {config : ChannelConfig} {r : Receiver} {senderPresent : Bool}
    {round : Round} {i : Inlet} (runs : r.run? config senderPresent = some round)
    (there : round.receiver.inlet? = some i) :
    ∃ j, r.inlet? = some j ∧ i.cancelled = j.cancelled := by
  rcases run?_cases runs with ⟨-, rfl⟩ | ⟨j, taken, rfl⟩
  · contradiction
  refine ⟨j, taken, ?_⟩
  -- only the paths on which the loop goes on leave an inlet, and they leave `j`'s wish in it
  unfold Inlet.run at there
  generalize receive senderPresent [] j.chunks _ j.parcels = d at there
  obtain ⟨messages, buffer, chunks, parcels, pause⟩ := d
  cases pause with
  | failed e => contradiction
  | needsParcel =>
    obtain rfl := Option.some.inj there
    rfl
  | needsBytes =>
    by_cases ends : !senderPresent || j.cancelled
    · simp only [if_pos ends] at there
      contradiction
    · simp only [if_neg ends] at there
      obtain rfl := Option.some.inj there
      rfl

/-- A further call of the loop leaves an inlet only if there was one, and asks no loop to end. -/
theorem inlet?_of_further {config : ChannelConfig} {r : Receiver} {senderPresent : Bool} {i : Inlet}
    (there : (r.further config senderPresent).receiver.inlet? = some i) :
    ∃ j, r.inlet? = some j ∧ i.cancelled = j.cancelled := by
  cases r with
  | ready inlet held => exact @inlet?_of_run? config (.ready inlet true) senderPresent _ i rfl there
  | listening inlet buffer => exact ⟨i, there, rfl⟩
  | closed held => contradiction

/-- No loop can take over an inlet that is gone. -/
theorem not_isReady_of_gone {r : Receiver} (gone : r.inlet? = none) : ¬ r.isReady := by
  cases r with
  | ready | listening => contradiction
  | closed held => exact Bool.false_ne_true

/-- A loop that is run while its inlet is there is one that runs. -/
theorem isRunning_of_run? {config : ChannelConfig} {r : Receiver} {senderPresent : Bool}
    {round : Round} {i : Inlet} (runs : r.run? config senderPresent = some round)
    (there : r.inlet? = some i) : r.isRunning := by
  cases r with
  | ready inlet held =>
    cases held with
    | true => rfl
    | false => contradiction
  | listening inlet buffer => rfl
  | closed held => contradiction

end Receiver

/-- What may come of an end. It keeps its inlet or loses it; the inlet knows whether the loop was
asked to end, before or meanwhile; and the end stays unless it is dropped. -/
structure Endpoint.Follows (asked dropped : Prop) (before after : Endpoint) : Prop where
  inlet : ∀ i, after.receiver.inlet? = some i →
    ∃ j, before.receiver.inlet? = some j ∧ (i.cancelled ↔ j.cancelled ∨ asked)
  present : after.present ↔ before.present ∧ ¬ dropped

namespace Endpoint

variable {asked dropped : Prop} {before after : Endpoint}

/-- An end that nothing happens to stays as it is. -/
theorem Follows.refl (e : Endpoint) (notAsked : ¬ asked) (notDropped : ¬ dropped) :
    e.Follows asked dropped e := by
  refine ⟨fun i there => ⟨i, there, ?_⟩, ?_⟩
  · rw [or_iff_left notAsked]
  · rw [and_iff_left notDropped]

/-- What comes of an end in two stretches was asked or dropped in one of them. -/
theorem Follows.trans {asked' dropped' : Prop} {later : Endpoint}
    (first : before.Follows asked dropped after) (second : after.Follows asked' dropped' later) :
    before.Follows (asked ∨ asked') (dropped ∨ dropped') later := by
  constructor
  · intro i there
    obtain ⟨j, there, wish⟩ := second.inlet i there
    obtain ⟨k, there, wish'⟩ := first.inlet j there
    refine ⟨k, there, ?_⟩
    rw [wish, wish', or_assoc]
  · rw [second.present, first.present, and_assoc, not_or]

/-- An inlet that is gone does not come back. -/
theorem Follows.lost (follows : before.Follows asked dropped after)
    (gone : before.receiver.inlet? = none) : after.receiver.inlet? = none := by
  apply Option.eq_none_iff_forall_ne_some.2
  intro i there
  obtain ⟨j, kept, -⟩ := follows.inlet i there
  rw [gone] at kept
  contradiction

end Endpoint

/-- The end that an event is about. -/
def Event.target : Event → Side
  | .send side _ => side.other
  | .start side | .further side | .poll side | .cancel side | .abort side | .drop side => side

namespace Traffic

/-- Polling an end without a loop changes nothing. -/
theorem step_poll_none {t : Traffic} {side : Side} (idle : t.channel.poll? side = none) :
    t.step (.poll side) = t := by
  simp only [step, idle]

/-- Polling a loop records what it hands over at its end. -/
theorem step_poll_some {t : Traffic} {side : Side} {channel : Channel} {round : Round}
    (polled : t.channel.poll? side = some (channel, round)) :
    t.step (.poll side) =
      { t with channel, delivered := note t.delivered side round.received } := by
  simp only [step, polled]

/-- An event is about one end. Nothing changes at the other one. -/
theorem step_of_ne (t : Traffic) {event : Event} {side : Side} (ne : side ≠ event.target) :
    (t.step event).channel.endpoint side = t.channel.endpoint side ∧
      (t.step event).accepted side = t.accepted side ∧
      (t.step event).delivered side = t.delivered side := by
  cases event with
  | send s m =>
    rcases t.channel.send_cases s m with ⟨result, after, -⟩ | ⟨e, result, after⟩
    · rw [step_send_ok result, after]
      refine ⟨?_, note_of_ne ne _ _, rfl⟩
      exact (Channel.endpoint_setEndpoint _ _ _ _).trans (if_neg ne)
    · rw [step_send_error result, after]
      exact ⟨rfl, rfl, rfl⟩
  | poll s =>
    cases polled : t.channel.poll? s with
    | none =>
      rw [step_poll_none polled]
      exact ⟨rfl, rfl, rfl⟩
    | some outcome =>
      rw [step_poll_some polled, (Channel.poll?_eq_some polled).2]
      refine ⟨?_, rfl, note_of_ne ne _ _⟩
      exact (Channel.endpoint_setEndpoint _ _ _ _).trans (if_neg ne)
  | further s =>
    refine ⟨?_, rfl, note_of_ne ne _ _⟩
    exact (Channel.endpoint_setEndpoint _ _ _ _).trans (if_neg ne)
  | start | cancel | abort | drop =>
    exact ⟨(Channel.endpoint_setEndpoint _ _ _ _).trans (if_neg ne), rfl, rfl⟩

/-- What comes of an end in one event. -/
theorem follows_step (t : Traffic) (event : Event) (side : Side) :
    (t.channel.endpoint side).Follows (event = .cancel side) (event = .drop side)
      ((t.step event).channel.endpoint side) := by
  by_cases ne : side ≠ event.target
  · rw [(t.step_of_ne ne).1]
    apply Endpoint.Follows.refl
    · rintro rfl
      exact ne rfl
    · rintro rfl
      exact ne rfl
  obtain rfl : side = event.target := Decidable.not_not.1 ne
  cases event with
  | send s m =>
    rcases t.channel.send_cases s m with ⟨result, after, -⟩ | ⟨e, result, after⟩
    · rw [step_send_ok result, after]
      simp only [Event.target, Channel.endpoint_setEndpoint, if_pos]
      constructor
      · intro i there
        rw [Receiver.inlet?_mapInlet] at there
        obtain ⟨j, kept, rfl⟩ := Option.map_eq_some_iff.1 there
        exact ⟨j, kept, by simp [Channel.enqueue]⟩
      · simp
    · rw [step_send_error result, after]
      exact Endpoint.Follows.refl _ (by simp) (by simp)
  | start s =>
    simp only [step, Channel.start, Event.target, Channel.endpoint_setEndpoint, if_pos]
    exact ⟨fun i there => ⟨i, Receiver.inlet?_of_start there, by simp⟩, by simp [Endpoint.start]⟩
  | poll s =>
    cases polled : t.channel.poll? s with
    | none =>
      rw [step_poll_none polled]
      exact Endpoint.Follows.refl _ (by simp) (by simp)
    | some outcome =>
      obtain ⟨runs, after⟩ := Channel.poll?_eq_some polled
      rw [step_poll_some polled, after]
      simp only [Event.target, Channel.endpoint_setEndpoint, if_pos]
      constructor
      · intro i there
        obtain ⟨j, there, same⟩ := Receiver.inlet?_of_run? runs there
        exact ⟨j, there, by simp [same]⟩
      · simp
  | further s =>
    simp only [step, Channel.further, Event.target, Channel.endpoint_setEndpoint, if_pos]
    constructor
    · intro i there
      obtain ⟨j, there, same⟩ := Receiver.inlet?_of_further there
      exact ⟨j, there, by simp [same]⟩
    · simp
  | cancel s =>
    simp only [step, Channel.cancel, Event.target, Channel.endpoint_setEndpoint, if_pos]
    constructor
    · intro i there
      rw [Endpoint.cancel, Receiver.inlet?_mapInlet] at there
      obtain ⟨j, kept, rfl⟩ := Option.map_eq_some_iff.1 there
      exact ⟨j, kept, by simp⟩
    · simp [Endpoint.cancel]
  | abort s =>
    simp only [step, Channel.abort, Event.target, Channel.endpoint_setEndpoint, if_pos]
    exact ⟨fun i there => ⟨i, Receiver.inlet?_of_abort there, by simp⟩, by simp [Endpoint.abort]⟩
  | drop s =>
    simp only [step, Channel.drop, Event.target, Channel.endpoint_setEndpoint, if_pos]
    refine ⟨fun i there => ?_, by simp [Endpoint.drop]⟩
    contradiction

/-- What comes of an end in a run. -/
theorem follows_run (t : Traffic) (events : List Event) (side : Side) :
    (t.channel.endpoint side).Follows (.cancel side ∈ events) (.drop side ∈ events)
      ((events.foldl step t).channel.endpoint side) := by
  -- `trans` adds up what was asked with the first event and what was asked later
  induction events generalizing t with
  | nil => exact Endpoint.Follows.refl _ List.not_mem_nil List.not_mem_nil
  | cons event events ih =>
    have both := (t.follows_step event side).trans (ih (t.step event))
    rw [List.mem_cons, List.mem_cons, eq_comm, @eq_comm _ (Event.drop side)]
    exact both

/-- On a channel that was new before a run, the events of the run tell what an inlet knows and which
ends are there. -/
theorem wishes_run {config : ChannelConfig} {channel : Channel}
    (made : Channel.create config = .ok channel) (events : List Event) (side : Side) :
    (∀ i, ((run channel events).channel.endpoint side).receiver.inlet? = some i →
      (i.cancelled ↔ .cancel side ∈ events)) ∧
    (((run channel events).channel.endpoint side).present ↔ .drop side ∉ events) := by
  obtain ⟨rfl, -⟩ := Channel.create_eq_ok made
  have new : ({ config } : Channel).endpoint side = .initial := by cases side <;> rfl
  have follows := follows_run { channel := { config } } events side
  simp only [new] at follows
  constructor
  · intro i there
    obtain ⟨j, initial, wish⟩ := follows.inlet i there
    obtain rfl : ({} : Inlet) = j := Option.some.inj initial
    simpa using wish
  · rw [run, follows.present]
    exact and_iff_right rfl

/-- A loop is finished if it has an inlet and was asked to end or has nobody to wait for. It takes
the inlet along. -/
theorem Orderly.finished_iff {config : ChannelConfig} {t : Traffic} (orderly : t.Orderly config)
    {side : Side} {after : Channel} {round : Round}
    (polled : t.channel.poll? side = some (after, round)) :
    (round.status = .finished ↔
      ∃ i, (t.channel.endpoint side).receiver.inlet? = some i ∧
        (i.cancelled ∨ ¬ (t.channel.endpoint side.other).present)) ∧
    (round.status = .finished → round.receiver.inlet? = none) := by
  obtain ⟨ms, -, carried⟩ := orderly.ends side
  obtain ⟨runs, -⟩ := Channel.poll?_eq_some polled
  rw [orderly.limits] at runs
  rcases Receiver.run?_cases runs with ⟨late, rfl⟩ | ⟨i, there, rfl⟩
  · rw [late]
    refine ⟨iff_of_false (fun status => by contradiction) ?_, fun status => by contradiction⟩
    rintro ⟨i, there, -⟩
    contradiction
  rw [(carried i there).2.run, there]
  have asked : (!(t.channel.endpoint side.other).present || i.cancelled) = true ↔
      ∃ j, some i = some j ∧ (j.cancelled ∨ ¬ (t.channel.endpoint side.other).present) := by
    simp [or_comm]
  rw [← asked]
  split
  · next ends => exact ⟨iff_of_true rfl ends, fun _ => rfl⟩
  · next goesOn =>
    exact ⟨iff_of_false (fun status => by contradiction) goesOn, fun status => by contradiction⟩

end Traffic

/-! ## Ends whose inlet is gone -/

/-- What a loop brings that was started when the inlet was gone. -/
def Round.late : Round := .alreadyStarted (.closed false)

namespace Channel

/-- A message is refused, and what it holds is closed. -/
structure Refuses (c : Channel) (side : Side) (m : Message) : Prop where
  failed : ∃ e, (c.send side m).result = .error e
  peerClosed : m.size ≤ c.config.maxMessageSize.toNat →
    m.attachments.handles.remaining.length = m.header.handleCount.toNat →
      (c.send side m).result = .error .peerClosed
  unchanged : (c.send side m).channel = c
  closed : (c.send side m).released.Settles m.items

/-- What is sent to an end whose inlet is gone is refused and closed. -/
theorem refuses_of_gone {c : Channel} {side : Side}
    (gone : (c.endpoint side.other).receiver.inlet? = none) (m : Message) : c.Refuses side m := by
  obtain ⟨e, refused⟩ := send_turnedAway (c := c) (m := m) (Or.inr (Or.inr gone))
  refine ⟨⟨e, by rw [refused]⟩, fun fits announced => ?_, by rw [refused], ?_⟩
  · rw [send_gone fits announced gone]
  · rw [refused]
    exact m.settles_close

/-- A loop of this end fails when it is run, and it touches no message. -/
def FailsAt (c : Channel) (side : Side) : Prop :=
  ∃ after, c.poll? side = some (after, .late) ∧
    after.endpoint side.other = c.endpoint side.other

/-- If there is a loop to be run where the inlet is gone, it fails. -/
theorem failsAt_of_late {c after : Channel} {side : Side} {round : Round}
    (gone : (c.endpoint side).receiver.inlet? = none) (polled : c.poll? side = some (after, round)) :
    c.FailsAt side := by
  obtain ⟨runs, rest⟩ := poll?_eq_some polled
  rcases Receiver.run?_cases runs with ⟨-, rfl⟩ | ⟨i, there, -⟩
  · refine ⟨after, polled, ?_⟩
    rw [rest, endpoint_setEndpoint, if_neg (Side.other_ne side)]
  · rw [gone] at there
    contradiction

/-- A loop that is held where the inlet is gone fails when it is run. -/
theorem failsAt_of_held {c : Channel} {side : Side}
    (held : (c.endpoint side).receiver = .closed true) : c.FailsAt side := by
  have runs : (c.endpoint side).receiver.run? c.config (c.endpoint side.other).present =
      some .late := by
    rw [held]
    rfl
  apply failsAt_of_late (by rw [held]; rfl)
  rw [poll?, runs]
  rfl

end Channel

namespace Traffic

/-- Nothing is accepted for an end whose inlet is gone, and nothing is handed over there. -/
theorem records_step {t : Traffic} {side : Side}
    (gone : (t.channel.endpoint side).receiver.inlet? = none) (event : Event) :
    (t.step event).accepted side = t.accepted side ∧
      (t.step event).delivered side = t.delivered side := by
  by_cases ne : side ≠ event.target
  · exact (t.step_of_ne ne).2
  obtain rfl : side = event.target := Decidable.not_not.1 ne
  cases event with
  | send s m =>
    obtain ⟨e, result⟩ := (Channel.refuses_of_gone gone m).failed
    rw [step_send_error result]
    exact ⟨rfl, rfl⟩
  | poll s =>
    cases polled : t.channel.poll? s with
    | none =>
      rw [step_poll_none polled]
      exact ⟨rfl, rfl⟩
    | some outcome =>
      obtain ⟨after, late, -⟩ : t.channel.FailsAt s := Channel.failsAt_of_late gone polled
      rw [step_poll_some late]
      exact ⟨rfl, (note_same _ _ _).trans (List.append_nil _)⟩
  | further s =>
    have same : t.step (.further s) = t :=
      step_further_of_not_isReady (Receiver.not_isReady_of_gone gone)
    rw [same]
    exact ⟨rfl, rfl⟩
  | start | cancel | abort | drop => exact ⟨rfl, rfl⟩

/-- Once its inlet is gone, nothing is ever added to the records of an end. -/
theorem records_run {t : Traffic} {side : Side}
    (gone : (t.channel.endpoint side).receiver.inlet? = none) (events : List Event) :
    (events.foldl step t).accepted side = t.accepted side ∧
      (events.foldl step t).delivered side = t.delivered side := by
  induction events generalizing t with
  | nil => exact ⟨rfl, rfl⟩
  | cons event events ih =>
    have first := records_step gone event
    have rest := ih ((t.follows_step event side).lost gone)
    exact ⟨rest.1.trans first.1, rest.2.trans first.2⟩

/-- A loop that comes too late waits for its run, whatever happens at the two ends, unless it is
given up before. -/
theorem held_step {t : Traffic} {side : Side} {event : Event}
    (held : (t.channel.endpoint side).receiver = .closed true) (polled : event ≠ .poll side)
    (aborted : event ≠ .abort side) (dropped : event ≠ .drop side) :
    ((t.step event).channel.endpoint side).receiver = .closed true := by
  by_cases ne : side ≠ event.target
  · rw [(t.step_of_ne ne).1, held]
  obtain rfl : side = event.target := Decidable.not_not.1 ne
  cases event with
  | send s m =>
    simp only [Event.target] at held
    have gone : (t.channel.endpoint s.other).receiver.inlet? = none := by
      rw [held]
      rfl
    have refused := Channel.refuses_of_gone gone m
    obtain ⟨e, result⟩ := refused.failed
    rw [step_send_error result, refused.unchanged]
    exact held
  | start s =>
    simp only [Event.target] at held
    simp only [step, Channel.start, Event.target, Channel.endpoint_setEndpoint, if_pos]
    rw [Endpoint.start, held]
    rfl
  | cancel s =>
    simp only [Event.target] at held
    simp only [step, Channel.cancel, Event.target, Channel.endpoint_setEndpoint, if_pos]
    rw [Endpoint.cancel, held]
    rfl
  | further s =>
    simp only [Event.target] at held ⊢
    rw [step_further_of_not_isReady (by rw [held]; exact Bool.false_ne_true), held]
  | poll s => exact absurd rfl polled
  | abort s => exact absurd rfl aborted
  | drop s => exact absurd rfl dropped

/-- A loop that comes too late stays held through every run in which it is neither run nor given
up. -/
theorem held_run {t : Traffic} {side : Side} {events : List Event}
    (held : (t.channel.endpoint side).receiver = .closed true) (polled : .poll side ∉ events)
    (aborted : .abort side ∉ events) (dropped : .drop side ∉ events) :
    ((events.foldl step t).channel.endpoint side).receiver = .closed true := by
  induction events generalizing t with
  | nil => exact held
  | cons event events ih =>
    obtain ⟨polled, unpolled⟩ := List.ne_and_not_mem_of_not_mem_cons polled
    obtain ⟨aborted, unaborted⟩ := List.ne_and_not_mem_of_not_mem_cons aborted
    obtain ⟨dropped, undropped⟩ := List.ne_and_not_mem_of_not_mem_cons dropped
    exact ih (held_step held polled.symm aborted.symm dropped.symm) unpolled unaborted undropped

/-- What is left of an end whose inlet is gone. Messages to it are refused and closed, and loops
fail there: one that is held already, one that is called beside it, and one that is started and not
given up before it runs. -/
structure Deaf (t : Traffic) (side : Side) : Prop where
  refuses : ∀ m, t.channel.Refuses side.other m
  held : (t.channel.poll? side).isSome → t.channel.FailsAt side
  further : t.channel.further side = (t.channel, .alreadyStarted (t.channel.endpoint side).receiver)
  nothing : (t.channel.start side).2 = ∅
  started : ∀ meanwhile : List Event, .poll side ∉ meanwhile → .abort side ∉ meanwhile →
    .drop side ∉ meanwhile → ((.start side :: meanwhile).foldl step t).channel.FailsAt side

/-- An end whose inlet is gone is deaf. -/
theorem deaf_of_gone {t : Traffic} {side : Side}
    (gone : (t.channel.endpoint side).receiver.inlet? = none) : t.Deaf side := by
  have start := Receiver.start_of_gone gone
  have taken := Receiver.not_isReady_of_gone gone
  refine ⟨fun m => ?_, fun some => ?_, Channel.further_of_not_isReady taken, ?_,
    fun meanwhile unpolled unaborted undropped => ?_⟩
  · apply Channel.refuses_of_gone
    rw [Side.other_other]
    exact gone
  · obtain ⟨outcome, polled⟩ := Option.isSome_iff_exists.1 some
    exact Channel.failsAt_of_late gone polled
  · rw [Channel.start, Endpoint.start, start]
  · have held : ((t.step (.start side)).channel.endpoint side).receiver = .closed true := by
      simp only [step, Channel.start, Endpoint.start, start, Channel.endpoint_setEndpoint, if_pos]
    rw [List.foldl_cons]
    exact Channel.failsAt_of_held (held_run held unpolled unaborted undropped)

/-! ## Ending a loop -/

/-- After any run, a loop that is run finishes exactly if it has an inlet and was asked to end or
has lost its sender. -/
theorem finished_iff_asked {config : ChannelConfig} {channel : Channel}
    (made : Channel.create config = .ok channel) {events : List Event}
    (built : ∀ side m, Event.send side m ∈ events → m.Built) {side : Side} {after : Channel}
    {round : Round} (polled : (run channel events).channel.poll? side = some (after, round)) :
    round.status = .finished ↔
      ((run channel events).channel.endpoint side).receiver.isRunning ∧
        (.cancel side ∈ events ∨ .drop side.other ∈ events) := by
  have orderly := orderly_run made built
  obtain ⟨runs, -⟩ := Channel.poll?_eq_some polled
  have wish := (wishes_run made events side).1
  have present := (wishes_run made events side.other).2
  rw [(orderly.finished_iff polled).1]
  constructor
  · rintro ⟨i, there, ends⟩
    rw [wish i there, present, not_not] at ends
    exact ⟨Receiver.isRunning_of_run? runs there, ends⟩
  · rintro ⟨running, ends⟩
    obtain ⟨i, there⟩ := Receiver.inlet?_of_isRunning running
    refine ⟨i, there, ?_⟩
    rw [wish i there, present, not_not]
    exact ends

/-- Whatever happens on a channel, a loop that runs comes to a result, and it finishes exactly if it
was asked to end, at any time, or the other end was dropped. All that was accepted for its end by
then has been handed over when it finishes, in order. Whatever happens later, nothing is accepted
for that end any more, nothing is handed over there, and the end is deaf: every message to it is
refused and closed, and every loop that is started there fails and touches no message. -/
theorem ending_loses_nothing {config : ChannelConfig} {channel : Channel}
    (made : Channel.create config = .ok channel) {events : List Event}
    (built : ∀ side m, Event.send side m ∈ events → m.Built) (side : Side) :
    let t := run channel events
    ((t.channel.endpoint side).receiver.isRunning → (t.channel.poll? side).isSome) ∧
      ∀ after round, t.channel.poll? side = some (after, round) →
        (round.status = .finished ↔
          (t.channel.endpoint side).receiver.isRunning ∧
            (.cancel side ∈ events ∨ .drop side.other ∈ events)) ∧
        (round.status = .finished →
          (t.step (.poll side)).delivered side = (t.accepted side).map Message.arriving ∧
          ∀ later : List Event,
            let u := run channel (events ++ .poll side :: later)
            u.accepted side = t.accepted side ∧
              u.delivered side = (t.accepted side).map Message.arriving ∧ u.Deaf side) := by
  intro t
  have orderly : t.Orderly config := orderly_run made built
  constructor
  · intro running
    obtain ⟨after, round, polled⟩ := Channel.poll?_of_isRunning running
    exact Option.isSome_of_eq_some polled
  intro after round polled
  have finished := finished_iff_asked made built polled
  refine ⟨finished, fun status => ?_⟩
  have handed : (t.step (.poll side)).delivered side = (t.accepted side).map Message.arriving := by
    rw [orderly.delivered_poll (finished.1 status).1, step_poll_some polled]
  have gone : ((t.step (.poll side)).channel.endpoint side).receiver.inlet? = none := by
    rw [step_poll_some polled, (Channel.poll?_eq_some polled).2, Channel.endpoint_setEndpoint,
      if_pos rfl]
    exact (orderly.finished_iff polled).2 status
  refine ⟨handed, fun later => ?_⟩
  -- from here on nothing is needed but that the inlet is gone, and it stays gone
  have split : run channel (events ++ .poll side :: later) =
      later.foldl step (t.step (.poll side)) := List.foldl_append
  obtain ⟨accepted, delivered⟩ := records_run gone later
  rw [split]
  refine ⟨?_, delivered.trans handed, deaf_of_gone ((follows_run _ later side).lost gone)⟩
  rw [accepted, step_poll_some polled]

/-- A loop is asked to end before it is started, and again behind the only message. -/
def askedTwice : List Event :=
  [.cancel .b, .start .b, .send .a (.dispatchFailure .insideSync), .cancel .b]

/-- The message is handed over before the loop finishes, and the end is deaf afterwards, also when
the other end is dropped. -/
theorem ending_loses_nothing_asked :
    ∃ after round, (run narrowChannel askedTwice).channel.poll? .b = some (after, round) ∧
      round.status = .finished ∧
      ((run narrowChannel askedTwice).step (.poll .b)).delivered .b =
        [(Message.dispatchFailure .insideSync).arriving] ∧
      (run narrowChannel (askedTwice ++ .poll .b :: [.drop .a])).Deaf .b := by
  have made : Channel.create narrowChannel.config = .ok narrowChannel := rfl
  have built : ∀ side m, Event.send side m ∈ askedTwice → m.Built := by
    intro side m mem
    obtain ⟨-, rfl⟩ : side = .a ∧ m = .dispatchFailure .insideSync := by
      simpa [askedTwice] using mem
    exact .dispatchFailure _
  have running : ((run narrowChannel askedTwice).channel.endpoint .b).receiver.isRunning := rfl
  obtain ⟨runs, results⟩ := ending_loses_nothing made built .b
  obtain ⟨⟨after, round⟩, polled⟩ := Option.isSome_iff_exists.1 (runs running)
  obtain ⟨finished, ending⟩ := results after round polled
  have status : round.status = .finished := finished.2 ⟨running, Or.inl (by simp [askedTwice])⟩
  obtain ⟨handed, later⟩ := ending status
  exact ⟨after, round, polled, status, handed, (later [.drop .a]).2.2⟩

end Traffic

end Interprocess
