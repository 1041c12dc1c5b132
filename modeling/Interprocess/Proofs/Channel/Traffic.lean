import Interprocess.Proofs.Channel.Underway

/-!
# Traffic on a channel

A channel is used from both ends in any order: messages are sent, receive loops are started, run,
asked to end and given up, also beside each other, and ends are dropped. `Traffic` is a channel with
two records for each end, of the messages that were accepted for it and of those that were handed
over there. What ties them together is `Traffic.Orderly`: the accepted messages are those that were
handed over and then those whose bytes and parcels are still under way, unless the inlet is gone.
Every event keeps this, `Orderly.step`, and so does every run, `orderly_run`. So messages are handed
over in order and unchanged (`delivered_in_order`), and no loop that took an inlet over fails
(`loop_never_fails`).
-/

set_option autoImplicit false

namespace Interprocess

/-- What can happen on a channel, and at which end. -/
inductive Event
  /-- A message is sent from an end to the other one. -/
  | send (side : Side) (m : Message)
  /-- A new loop is held, and the one that was there is given up. -/
  | start (side : Side)
  /-- The receive loop is called and run beside the loop that is there, which is not given up. -/
  | further (side : Side)
  /-- The loop that is there runs as far as it comes. -/
  | poll (side : Side)
  /-- The loop is asked to end. -/
  | cancel (side : Side)
  /-- The loop that is there is given up. -/
  | abort (side : Side)
  /-- The end is given up, and its loop with it. -/
  | drop (side : Side)

/-- Adds messages to the record of one end. -/
def note (record : Side → List Message) (side : Side) (ms : List Message) : Side → List Message :=
  fun s => if s = side then record s ++ ms else record s

/-- A channel and the records of what it was used for. -/
structure Traffic where
  channel : Channel
  /-- The messages whose sending to an end succeeded, as they were sent. -/
  accepted : Side → List Message := fun _ => []
  /-- The messages that were handed over at an end. -/
  delivered : Side → List Message := fun _ => []

namespace Traffic

/-- A message is accepted for the end it is sent to, and handed over at the end that is polled. -/
def step (t : Traffic) : Event → Traffic
  | .send side m =>
    match t.channel.send side m with
    | { channel, result := .ok (), .. } =>
      { t with channel, accepted := note t.accepted side.other [m] }
    | { channel, result := .error _, .. } => { t with channel }
  | .start side => { t with channel := (t.channel.start side).1 }
  | .further side =>
    { t with
      channel := (t.channel.further side).1
      delivered := note t.delivered side (t.channel.further side).2.received }
  | .poll side =>
    match t.channel.poll? side with
    | some (channel, round) => { t with channel, delivered := note t.delivered side round.received }
    | none => t
  | .cancel side => { t with channel := t.channel.cancel side }
  | .abort side => { t with channel := (t.channel.abort side).1 }
  | .drop side => { t with channel := (t.channel.drop side).1 }

/-- What has come of a channel after some events. -/
def run (channel : Channel) (events : List Event) : Traffic :=
  events.foldl step { channel }

end Traffic

/-! ## The two ends -/

/-- The side opposite to the opposite side is the first one. -/
@[simp] theorem Side.other_other (side : Side) : side.other.other = side := by
  cases side <;> rfl

/-- There are two sides only. -/
theorem Side.eq_or_eq_other (side s : Side) : s = side ∨ s = side.other := by
  cases side <;> cases s <;> simp [Side.other]

/-- The opposite side is a different one. -/
theorem Side.other_ne (side : Side) : side.other ≠ side := by
  cases side <;> simp [Side.other]

namespace Channel

/-- Replacing an end leaves the limits of a channel as they are. -/
@[simp] theorem config_setEndpoint (c : Channel) (side : Side) (e : Endpoint) :
    (c.setEndpoint side e).config = c.config := by
  cases side <;> rfl

/-- Replacing an end changes this end and not the other one. -/
@[simp] theorem endpoint_setEndpoint (c : Channel) (side s : Side) (e : Endpoint) :
    (c.setEndpoint side e).endpoint s = if s = side then e else c.endpoint s := by
  cases side <;> cases s <;> rfl

/-- Of two ends that replace the same one, the last one stays. -/
@[simp] theorem setEndpoint_setEndpoint (c : Channel) (side : Side) (e f : Endpoint) :
    (c.setEndpoint side e).setEndpoint side f = c.setEndpoint side f := by
  cases side <;> rfl

/-- Replacing an end by itself changes nothing. -/
@[simp] theorem setEndpoint_endpoint (c : Channel) (side : Side) :
    c.setEndpoint side (c.endpoint side) = c := by
  cases side <;> rfl

/-- A channel is made only with chunks that are not empty. -/
theorem create_eq_ok {config : ChannelConfig} {c : Channel} (made : create config = .ok c) :
    c = { config } ∧ 0 < config.maxChunkLength := by
  unfold create ChannelConfig.validate at made
  split at made
  · next valid =>
    obtain rfl := Except.ok.inj made
    split at valid
    · contradiction
    split at valid
    · contradiction
    split at valid
    · contradiction
    next positive => exact ⟨rfl, Nat.pos_of_ne_zero positive⟩
  · contradiction

section Send

variable {c : Channel} {side : Side} {m : Message}

/-- A message that is too large is refused and closed. -/
theorem send_tooLarge (large : m.size > c.config.maxMessageSize.toNat) :
    c.send side m =
      { channel := c, result := .error (.tooLarge m.size c.config.maxMessageSize)
        released := m.close } := by
  simp only [send, if_pos large]

/-- A message that announces another number of handles than it has left is refused and closed. -/
theorem send_mismatch (fits : m.size ≤ c.config.maxMessageSize.toNat)
    (differ : m.attachments.handles.remaining.length ≠ m.header.handleCount.toNat) :
    c.send side m =
      { channel := c
        result := .error (.handleMismatch m.header.handleCount.toNat
          m.attachments.handles.remaining.length)
        released := m.close } := by
  simp only [send, gt_iff_lt, if_neg (Nat.not_lt.2 fits), if_pos differ]

/-- A message for an end whose inlet is gone is refused and closed. -/
theorem send_gone (fits : m.size ≤ c.config.maxMessageSize.toNat)
    (announced : m.attachments.handles.remaining.length = m.header.handleCount.toNat)
    (gone : (c.endpoint side.other).receiver.inlet? = none) :
    c.send side m = { channel := c, result := .error .peerClosed, released := m.close } := by
  have none : (c.endpoint side.other).receiver.inlet?.isNone := Option.isNone_iff_eq_none.2 gone
  simp only [send, gt_iff_lt, if_neg (Nat.not_lt.2 fits), announced, ne_eq, not_true_eq_false,
    if_false, if_pos none]

/-- A message that nothing speaks against is queued behind what is under way. -/
theorem send_queued (fits : m.size ≤ c.config.maxMessageSize.toNat)
    (announced : m.attachments.handles.remaining.length = m.header.handleCount.toNat)
    (there : (c.endpoint side.other).receiver.inlet?.isSome) :
    c.send side m =
      { channel := c.setEndpoint side.other
          { c.endpoint side.other with
            receiver := (c.endpoint side.other).receiver.mapInlet (c.enqueue m m.parcel) }
        result := .ok (), released := ∅ } := by
  have present : ¬ (c.endpoint side.other).receiver.inlet?.isNone := by
    rw [← Option.not_isSome, there]
    exact Bool.false_ne_true
  simp only [send, gt_iff_lt, if_neg (Nat.not_lt.2 fits), announced, ne_eq, not_true_eq_false,
    if_false, if_neg present]
  rfl

/-- When a message is refused. -/
def TurnsAway (c : Channel) (side : Side) (m : Message) : Prop :=
  m.size > c.config.maxMessageSize.toNat ∨
    m.attachments.handles.remaining.length ≠ m.header.handleCount.toNat ∨
    (c.endpoint side.other).receiver.inlet? = none

/-- A message that is refused leaves the channel as it was, and is closed. -/
theorem send_turnedAway (refuses : c.TurnsAway side m) :
    ∃ e, c.send side m = { channel := c, result := .error e, released := m.close } := by
  by_cases large : m.size > c.config.maxMessageSize.toNat
  · exact ⟨_, send_tooLarge large⟩
  have fits : m.size ≤ c.config.maxMessageSize.toNat := Nat.le_of_not_gt large
  by_cases announced : m.attachments.handles.remaining.length = m.header.handleCount.toNat
  · have gone : (c.endpoint side.other).receiver.inlet? = none :=
      (refuses.resolve_left large).resolve_left (fun differ => differ announced)
    exact ⟨_, send_gone fits announced gone⟩
  · exact ⟨_, send_mismatch fits announced⟩

/-- A message that is not turned away keeps the limit, announces its handles, and is queued. -/
theorem send_accepted (accepts : ¬ c.TurnsAway side m) :
    m.size ≤ c.config.maxMessageSize.toNat ∧
      m.attachments.handles.remaining.length = m.header.handleCount.toNat ∧
      (c.endpoint side.other).receiver.inlet?.isSome ∧
      c.send side m =
        { channel := c.setEndpoint side.other
            { c.endpoint side.other with
              receiver := (c.endpoint side.other).receiver.mapInlet (c.enqueue m m.parcel) }
          result := .ok (), released := ∅ } := by
  obtain ⟨large, rest⟩ := not_or.1 accepts
  obtain ⟨differ, gone⟩ := not_or.1 rest
  have fits : m.size ≤ c.config.maxMessageSize.toNat := Nat.le_of_not_gt large
  have announced := Decidable.not_not.1 differ
  have there := Option.isSome_iff_ne_none.2 gone
  exact ⟨fits, announced, there, send_queued fits announced there⟩

/-- A message whose sending failed is one that the channel turns away. -/
theorem turnsAway_of_error {e : SendError} (failed : (c.send side m).result = .error e) :
    c.TurnsAway side m := by
  refine Classical.byContradiction fun accepts => ?_
  obtain ⟨-, -, -, sent⟩ := send_accepted accepts
  rw [sent] at failed
  contradiction

/-- A message that was sent is one that the channel does not turn away. -/
theorem not_turnsAway_of_ok (sent : (c.send side m).result = .ok ()) : ¬ c.TurnsAway side m := by
  intro refuses
  obtain ⟨e, refused⟩ := send_turnedAway refuses
  rw [refused] at sent
  contradiction

end Send

/-- A message is queued whole for an end that can still receive it, if it keeps the limit and holds
the handles that it announces. Otherwise nothing is queued and what it holds is closed. -/
theorem send_cases (c : Channel) (side : Side) (m : Message) :
    ((c.send side m).result = .ok () ∧
      (c.send side m).channel = c.setEndpoint side.other
        { c.endpoint side.other with
          receiver := (c.endpoint side.other).receiver.mapInlet (c.enqueue m m.parcel) } ∧
      m.size ≤ c.config.maxMessageSize.toNat ∧
      m.attachments.handles.remaining.length = m.header.handleCount.toNat) ∨
    (∃ e, (c.send side m).result = .error e ∧ (c.send side m).channel = c) := by
  by_cases refuses : c.TurnsAway side m
  · obtain ⟨e, sent⟩ := send_turnedAway refuses
    exact Or.inr ⟨e, by rw [sent], by rw [sent]⟩
  · obtain ⟨fits, announced, -, sent⟩ := send_accepted refuses
    exact Or.inl ⟨by rw [sent], by rw [sent], fits, announced⟩

/-- The limit on messages that are sent is the limit on their size. -/
theorem send_ne_tooLarge_iff (c : Channel) (side : Side) (m : Message) :
    (∀ size limit, (c.send side m).result ≠ .error (.tooLarge size limit)) ↔
      m.size ≤ c.config.maxMessageSize.toNat := by
  constructor
  · intro accepted
    refine Nat.le_of_not_gt fun large => accepted m.size c.config.maxMessageSize ?_
    rw [send_tooLarge large]
  · intro fits size limit
    simp only [send, gt_iff_lt, if_neg (Nat.not_lt.2 fits)]
    split
    · simp
    split
    · simp
    · simp

/-- The message of a loop comes from the receiver of the polled end, and no other end changes. -/
theorem poll?_eq_some {c channel : Channel} {side : Side} {round : Round}
    (polled : c.poll? side = some (channel, round)) :
    (c.endpoint side).receiver.run? c.config (c.endpoint side.other).present = some round ∧
      channel = c.setEndpoint side { c.endpoint side with receiver := round.receiver } := by
  obtain ⟨round', runs, eq⟩ := Option.map_eq_some_iff.1 polled
  obtain ⟨rfl, rfl⟩ := Prod.mk.inj eq
  exact ⟨runs, rfl⟩

/-- An end with a running loop can be polled. -/
theorem poll?_of_isRunning {c : Channel} {side : Side}
    (running : (c.endpoint side).receiver.isRunning) :
    ∃ channel round, c.poll? side = some (channel, round) := by
  obtain ⟨round, runs⟩ := Receiver.run?_of_isRunning c.config
    (c.endpoint side.other).present running
  refine ⟨c.setEndpoint side { c.endpoint side with receiver := round.receiver }, round, ?_⟩
  rw [poll?, runs]
  rfl

/-- Where no loop has taken the inlet over, a further call is a new loop that is run. -/
theorem poll?_start_of_isReady {c : Channel} {side : Side}
    (ready : (c.endpoint side).receiver.isReady) :
    (c.start side).1.poll? side = some (c.further side) := by
  cases receiver : (c.endpoint side).receiver with
  | ready inlet held =>
    have started : (c.start side).1 =
        c.setEndpoint side { c.endpoint side with receiver := .ready inlet true } := by
      rw [start, Endpoint.start, receiver]
      rfl
    rw [poll?, started, endpoint_setEndpoint, if_pos rfl, endpoint_setEndpoint,
      if_neg (Side.other_ne side), config_setEndpoint, further, receiver]
    simp only [Receiver.run?, Option.map_some, setEndpoint_setEndpoint]
    rfl
  | listening | closed =>
    rw [receiver] at ready
    contradiction

/-- Where a loop has taken the inlet over, a further call fails and changes nothing. -/
theorem further_of_not_isReady {c : Channel} {side : Side}
    (taken : ¬ (c.endpoint side).receiver.isReady) :
    c.further side = (c, .alreadyStarted (c.endpoint side).receiver) := by
  have fails : (c.endpoint side).receiver.further c.config (c.endpoint side.other).present =
      .alreadyStarted (c.endpoint side).receiver := by
    cases receiver : (c.endpoint side).receiver with
    | ready inlet held =>
      rw [receiver] at taken
      exact absurd rfl taken
    | listening | closed => rfl
  rw [further, fails]
  exact Prod.ext (c.setEndpoint_endpoint side) rfl

end Channel

/-- What is noted for a side stands at the end of its record. -/
theorem note_same (record : Side → List Message) (side : Side) (ms : List Message) :
    note record side ms side = record side ++ ms := if_pos rfl

/-- The record of the other side stays as it is. -/
theorem note_of_ne {side s : Side} (ne : s ≠ side) (record : Side → List Message)
    (ms : List Message) : note record side ms s = record s := if_neg ne

/-- Noting nothing changes no record. -/
@[simp] theorem note_nil (record : Side → List Message) (side : Side) :
    note record side [] = record := by
  funext s
  by_cases same : s = side
  · rw [same, note_same, List.append_nil]
  · exact note_of_ne same _ _

namespace Traffic

/-- What is known of one end: the messages that were accepted for it are those that were handed over
and then those under way. -/
def OrderlyAt (t : Traffic) (limit : UInt32) (side : Side) (ms : List Message) : Prop :=
  (t.accepted side).map Message.arriving = t.delivered side ++ ms.map Message.arriving ∧
    (t.channel.endpoint side).receiver.Carries limit ms

/-- At each end the accepted messages have been handed over or are under way, in order. -/
structure Orderly (config : ChannelConfig) (t : Traffic) : Prop where
  limits : t.channel.config = config
  ends : ∀ side, ∃ ms, t.OrderlyAt config.maxMessageSize side ms

/-- Events that replace one end by an end that carries the same leave everything in order. -/
theorem Orderly.replace {config : ChannelConfig} {t : Traffic} (orderly : t.Orderly config)
    (side : Side) {e : Endpoint}
    (carries : ∀ ms, (t.channel.endpoint side).receiver.Carries config.maxMessageSize ms →
      e.receiver.Carries config.maxMessageSize ms) :
    Orderly config { t with channel := t.channel.setEndpoint side e } := by
  refine ⟨by rw [Channel.config_setEndpoint, orderly.limits], fun s => ?_⟩
  obtain ⟨ms, records, carried⟩ := orderly.ends s
  refine ⟨ms, records, ?_⟩
  rw [Channel.endpoint_setEndpoint]
  split
  · next same =>
    subst same
    exact carries ms carried
  · exact carried

/-- An event that sends a message records it as accepted for the opposite side. -/
theorem step_send_ok {t : Traffic} {side : Side} {m : Message}
    (result : (t.channel.send side m).result = .ok ()) :
    t.step (.send side m) =
      { t with
        channel := (t.channel.send side m).channel
        accepted := note t.accepted side.other [m] } := by
  cases sent : t.channel.send side m with
  | mk channel outcome released =>
    rw [sent] at result
    obtain rfl : outcome = .ok () := result
    simp only [step, sent]

/-- An event that sends a message in vain records nothing. -/
theorem step_send_error {t : Traffic} {side : Side} {m : Message} {e : SendError}
    (result : (t.channel.send side m).result = .error e) :
    t.step (.send side m) = { t with channel := (t.channel.send side m).channel } := by
  cases sent : t.channel.send side m with
  | mk channel outcome released =>
    rw [sent] at result
    obtain rfl : outcome = .error e := result
    simp only [step, sent]

/-- Sending keeps everything in order, whether it succeeds or not. -/
theorem Orderly.send {config : ChannelConfig} {t : Traffic} (orderly : t.Orderly config)
    (positive : 0 < config.maxChunkLength) (side : Side) {m : Message} (sound : m.Sound) :
    Orderly config (t.step (.send side m)) := by
  rcases t.channel.send_cases side m with ⟨result, after, fits, handles⟩ | ⟨e, result, after⟩
  · rw [step_send_ok result, after]
    refine ⟨by rw [Channel.config_setEndpoint, orderly.limits], fun s => ?_⟩
    obtain ⟨ms, records, carried⟩ := orderly.ends s
    rcases Side.eq_or_eq_other side s with rfl | rfl
    · have kept : note t.accepted s.other [m] s = t.accepted s :=
        note_of_ne (Side.other_ne s).symm _ _
      refine ⟨ms, (congrArg _ kept).trans records, ?_⟩
      rw [Channel.endpoint_setEndpoint, if_neg (Side.other_ne s).symm]
      exact carried
    · have grown : note t.accepted side.other [m] side.other = t.accepted side.other ++ [m] :=
        note_same _ _ _
      refine ⟨ms ++ [m], (congrArg _ grown).trans ?_, ?_⟩
      · rw [List.map_append, List.map_append, records, List.append_assoc]
      · rw [Channel.endpoint_setEndpoint, if_pos rfl]
        rw [← orderly.limits] at carried positive ⊢
        exact carried.enqueue positive ⟨sound, fits, handles⟩
  · rw [step_send_error result, after]
    exact orderly

/-- Running a loop accepts no message. -/
theorem accepted_poll (t : Traffic) (side s : Side) :
    (t.step (.poll side)).accepted s = t.accepted s := by
  rw [step]
  split <;> rfl

/-- Running a loop keeps everything in order. -/
theorem Orderly.poll {config : ChannelConfig} {t : Traffic} (orderly : t.Orderly config)
    (side : Side) : Orderly config (t.step (.poll side)) := by
  cases polled : t.channel.poll? side with
  | none =>
    simp only [step, polled]
    exact orderly
  | some outcome =>
    obtain ⟨channel, round⟩ := outcome
    obtain ⟨runs, rfl⟩ := Channel.poll?_eq_some polled
    simp only [step, polled]
    refine ⟨by rw [Channel.config_setEndpoint, orderly.limits], fun s => ?_⟩
    obtain ⟨ms, records, carried⟩ := orderly.ends s
    by_cases same : s = side
    · subst same
      rw [orderly.limits] at runs
      simp only [OrderlyAt, note_same, Channel.endpoint_setEndpoint, if_pos]
      rcases carried.run runs with ⟨received, -, gone⟩ | ⟨received, nothing⟩
      · refine ⟨ms, by rw [received, List.append_nil, records], fun inlet there => ?_⟩
        rw [gone] at there
        contradiction
      · exact ⟨[], by rw [received, records, List.map_nil, List.append_nil], nothing⟩
    · have kept : note t.delivered side round.received s = t.delivered s := note_of_ne same _ _
      refine ⟨ms, records.trans (congrArg (· ++ _) kept.symm), ?_⟩
      rw [Channel.endpoint_setEndpoint, if_neg same]
      exact carried

/-- A further call of the loop is a new loop that is run, if no loop has taken the inlet over. -/
theorem step_further_of_isReady {t : Traffic} {side : Side}
    (ready : (t.channel.endpoint side).receiver.isReady) :
    t.step (.further side) = (t.step (.start side)).step (.poll side) := by
  simp only [step, Channel.poll?_start_of_isReady ready]

/-- Otherwise it changes nothing. -/
theorem step_further_of_not_isReady {t : Traffic} {side : Side}
    (taken : ¬ (t.channel.endpoint side).receiver.isReady) : t.step (.further side) = t := by
  simp only [step, Channel.further_of_not_isReady taken, Round.alreadyStarted, note_nil]

/-- Every event keeps everything in order, as long as only sound messages are sent. -/
theorem Orderly.step {config : ChannelConfig} {t : Traffic} (orderly : t.Orderly config)
    (positive : 0 < config.maxChunkLength) {event : Event}
    (sound : ∀ side m, event = .send side m → m.Sound) : Orderly config (t.step event) := by
  cases event with
  | send side m => exact orderly.send positive side (sound side m rfl)
  | start side => exact orderly.replace side fun _ => Receiver.Carries.start
  | further side =>
    by_cases ready : (t.channel.endpoint side).receiver.isReady
    · rw [step_further_of_isReady ready]
      exact (orderly.replace side fun _ => Receiver.Carries.start).poll side
    · rwa [step_further_of_not_isReady ready]
  | poll side => exact orderly.poll side
  | cancel side => exact orderly.replace side fun _ => Receiver.Carries.cancel
  | abort side => exact orderly.replace side fun _ => Receiver.Carries.abort
  | drop side => exact orderly.replace side fun _ _ => Receiver.carries_closed

/-- A new channel is in order: nothing was sent and nothing is under way. -/
theorem orderly_new (config : ChannelConfig) : Orderly config { channel := { config } } := by
  refine ⟨rfl, fun side => ⟨[], rfl, ?_⟩⟩
  cases side <;>
    · rintro _ ⟨⟩
      exact ⟨rfl, rfl, rfl, by simp⟩

/-- Whatever happens on a new channel, everything stays in order, as long as only messages are sent
that callers can come by. -/
theorem orderly_run {config : ChannelConfig} {channel : Channel}
    (made : Channel.create config = .ok channel) {events : List Event}
    (built : ∀ side m, Event.send side m ∈ events → m.Built) :
    Orderly config (run channel events) := by
  obtain ⟨rfl, positive⟩ := Channel.create_eq_ok made
  have kept (t : Traffic) (orderly : t.Orderly config) (events : List Event)
      (built : ∀ side m, Event.send side m ∈ events → m.Built) :
      Orderly config (events.foldl Traffic.step t) := by
    -- the channel changes with every event, so the induction is over all orderly states
    induction events generalizing t with
    | nil => exact orderly
    | cons event events ih =>
      refine ih _ (orderly.step positive ?_) fun side m mem =>
        built side m (List.mem_cons_of_mem _ mem)
      intro side m eq
      exact (built side m (eq ▸ List.mem_cons_self)).sound
  exact kept _ (orderly_new config) events built

/-- A loop that runs hands over all that was accepted. -/
theorem Orderly.delivered_poll {config : ChannelConfig} {t : Traffic} (orderly : t.Orderly config)
    {side : Side} (running : (t.channel.endpoint side).receiver.isRunning) :
    (t.step (.poll side)).delivered side =
      ((t.step (.poll side)).accepted side).map Message.arriving := by
  obtain ⟨ms, records, carried⟩ := orderly.ends side
  obtain ⟨channel, round, polled⟩ := Channel.poll?_of_isRunning running
  obtain ⟨runs, -⟩ := Channel.poll?_eq_some polled
  simp only [Traffic.step, polled, note_same, records]
  rw [orderly.limits] at runs
  rcases carried.run runs with ⟨-, gone, -⟩ | ⟨received, -⟩
  -- a loop that runs has taken an inlet over or can do so
  · obtain ⟨inlet, there⟩ := Receiver.inlet?_of_isRunning running
    rw [gone] at there
    contradiction
  · rw [received]

/-! ## What the two ends can rely on -/

/-- Whatever happens on a channel, an end is handed exactly the messages whose sending to it
succeeded, in that order and each as it was sent, and a loop that runs leaves none behind. -/
theorem delivered_in_order {config : ChannelConfig} {channel : Channel}
    (made : Channel.create config = .ok channel) {events : List Event}
    (built : ∀ side m, Event.send side m ∈ events → m.Built) (side : Side) :
    let t := run channel events
    t.delivered side <+: (t.accepted side).map Message.arriving ∧
      ((t.channel.endpoint side).receiver.isRunning →
        (t.step (.poll side)).delivered side =
          ((t.step (.poll side)).accepted side).map Message.arriving) := by
  have orderly := orderly_run made built
  refine ⟨?_, orderly.delivered_poll⟩
  obtain ⟨ms, records, -⟩ := orderly.ends side
  exact ⟨ms.map Message.arriving, records.symm⟩

/-- A channel whose chunks are shorter than a header. -/
def choppyChannel : Channel :=
  { config := { maxMessageSize := 128, segmentCapacity := 0, maxChunkLength := 7 } }

/-- A message with a text, a file handle, two ports and a footer. The first port was read
already. -/
def letter : Message :=
  Message.after (.addressed 1 2 {})
    [.write (.text "ä€"), .write (.handle ⟨7, true⟩), .write (.port ⟨⟨1, 2⟩, true⟩),
      .write (.port ⟨⟨3, 4⟩, true⟩), .writeFooter ⟨#[1, 2, 3]⟩, .read .port 16]

/-- The answer to it, with attachments of its own. -/
def answer : Message :=
  (letter.reply 5).after
    [.write (.bool true), .write (.handle ⟨8, false⟩), .write (.port ⟨⟨5, 6⟩, true⟩)]

/-- A message with a footer before and behind its port. -/
def postscript : Message :=
  Message.after (.constructing 3 4 {})
    [.writeFooter ⟨#[4]⟩, .write (.bytes ⟨#[9]⟩), .write (.port ⟨⟨7, 8⟩, true⟩),
      .writeFooter ⟨#[5]⟩]

/-- Both ends send twice. The handle of the first message is taken from a message that is sent
behind it, and a loop is called beside the one that listens. -/
def correspondence : List Event :=
  [.start .b, .send .a letter, .send .a letter.takeHandle.2, .poll .b, .start .a, .send .b answer,
    .further .b, .send .a postscript, .send .b (.dispatchFailure .insideSync)]

/-- Callers can come by all messages of the correspondence. -/
theorem built_of_mem_correspondence {side : Side} {m : Message}
    (mem : Event.send side m ∈ correspondence) : m.Built := by
  have letter_built : letter.Built := (Message.Built.addressed 1 2 {}).after (by decide +kernel)
  simp only [correspondence, List.mem_cons, List.not_mem_nil, reduceCtorEq, or_false, false_or,
    Event.send.injEq] at mem
  rcases mem with ⟨-, rfl⟩ | ⟨-, rfl⟩ | ⟨-, rfl⟩ | ⟨-, rfl⟩ | ⟨-, rfl⟩
  · exact letter_built
  · exact letter_built.step .takeHandle (by decide +kernel)
  · exact (letter_built.reply 5).after (by decide +kernel)
  · exact (Message.Built.constructing 3 4 {}).after (by decide +kernel)
  · exact .dispatchFailure _

/-- Messages that are cut into chunks of seven bytes are handed over at both ends. The one that
lacks its handle is refused and leaves no gap, and the loop that listens goes on. -/
theorem delivered_in_order_chunked :
    let t := run choppyChannel correspondence
    Channel.create choppyChannel.config = .ok choppyChannel ∧
      t.accepted .b = [letter, postscript] ∧
        t.accepted .a = [answer, .dispatchFailure .insideSync] ∧
        t.delivered .b = [letter.arriving] ∧
        (t.step (.poll .b)).delivered .b = [letter.arriving, postscript.arriving] ∧
        (t.step (.poll .a)).delivered .a =
          [answer.arriving, (Message.dispatchFailure .insideSync).arriving] := by
  have made : Channel.create choppyChannel.config = .ok choppyChannel := rfl
  obtain ⟨-, atSecond⟩ := delivered_in_order made (fun _ _ => built_of_mem_correspondence) .b
  obtain ⟨-, atFirst⟩ := delivered_in_order made (fun _ _ => built_of_mem_correspondence) .a
  have facts : (run choppyChannel correspondence).accepted .b = [letter, postscript] ∧
      (run choppyChannel correspondence).accepted .a = [answer, .dispatchFailure .insideSync] ∧
      (run choppyChannel correspondence).delivered .b = [letter.arriving] ∧
      ((run choppyChannel correspondence).channel.endpoint .b).receiver.isRunning = true ∧
      ((run choppyChannel correspondence).channel.endpoint .a).receiver.isRunning = true := by
    decide +kernel
  obtain ⟨toSecond, toFirst, halfway, secondRuns, firstRuns⟩ := facts
  have atSecond := atSecond secondRuns
  have atFirst := atFirst firstRuns
  rw [accepted_poll, toSecond] at atSecond
  rw [accepted_poll, toFirst] at atFirst
  exact ⟨made, toSecond, toFirst, halfway, atSecond, atFirst⟩

/-- Whatever happens on a channel, a receive loop does not fail: of what is under way, everything is
handed over and only more bytes are waited for. Only a loop that was started when the inlet had
been taken fails, and one that is called beside it leaves everything as it is. The two ends agree on
which messages are too large: the receiver cuts off all others whole. -/
theorem loop_never_fails {config : ChannelConfig} {channel : Channel}
    (made : Channel.create config = .ok channel) {events : List Event}
    (built : ∀ side m, Event.send side m ∈ events → m.Built) (side : Side) :
    let t := run channel events
    (∀ inlet senderPresent, (t.channel.endpoint side).receiver.inlet? = some inlet →
      (receive senderPresent [] inlet.chunks
        ((t.channel.endpoint side).receiver.buffer config.maxMessageSize)
        inlet.parcels).pause = .needsBytes) ∧
    (∀ channel round e, t.channel.poll? side = some (channel, round) →
      round.status = .failed e →
        e = .alreadyStarted ∧ (t.channel.endpoint side).receiver = .closed true) ∧
    (∀ e, (t.channel.further side).2.status = .failed e →
      e = .alreadyStarted ∧ ¬ (t.channel.endpoint side).receiver.isReady ∧
        (t.channel.further side).1 = t.channel) ∧
    (∀ (m : Message) (rest : ByteArray), m.Built →
      let cut := (StreamBuffer.next
        { bytes := m.encode ++ rest, maxMessageSize := config.maxMessageSize }).1
      ((∀ size limit, (t.channel.send side m).result ≠ .error (.tooLarge size limit)) ↔
        m.size ≤ config.maxMessageSize.toNat) ∧
      (cut = .ok (some m.bare) ↔ m.size ≤ config.maxMessageSize.toNat) ∧
      ((∃ e, cut = .error e) ↔ config.maxMessageSize.toNat < m.size)) := by
  have orderly := orderly_run made built
  obtain ⟨ms, records, carried⟩ := orderly.ends side
  refine ⟨?_, ?_, ?_, ?_⟩
  · intro inlet senderPresent there
    obtain ⟨size, inner⟩ := carried inlet there
    rw [inner.parcels, receive_frames senderPresent [] inner.sendable inner.stream]
  · intro channel round e polled failed
    obtain ⟨runs, -⟩ := Channel.poll?_eq_some polled
    rw [orderly.limits] at runs
    exact carried.status runs failed
  · intro e failed
    simp only [Channel.further, orderly.limits] at failed
    obtain ⟨answer, taken⟩ := carried.further failed
    exact ⟨answer, taken, by rw [Channel.further_of_not_isReady taken]⟩
  · intro m rest built
    refine ⟨?_, StreamBuffer.next_eq_bare_iff built.sound rest,
      StreamBuffer.next_isError_iff built.sound rest⟩
    rw [← orderly.limits]
    exact Channel.send_ne_tooLarge_iff _ side m

/-- A channel on which a message without content is as large as it may be. -/
def narrowChannel : Channel :=
  { config := { maxMessageSize := 32, segmentCapacity := 0, maxChunkLength := 7 } }

/-- A loop is started and a message without content is sent to it. -/
def oneMessage : List Event := [.start .b, .send .a (.dispatchFailure .insideSync)]

/-- Callers can come by the one message. -/
theorem built_of_mem_oneMessage {side : Side} {m : Message} (mem : Event.send side m ∈ oneMessage) :
    m.Built := by
  obtain ⟨-, rfl⟩ : side = .a ∧ m = .dispatchFailure .insideSync := by simpa [oneMessage] using mem
  exact .dispatchFailure _

/-- A message that is exactly as large as it may be is taken on at both ends. -/
theorem loop_never_fails_at_limit :
    let m := Message.dispatchFailure .insideSync
    Channel.create narrowChannel.config = .ok narrowChannel ∧
      m.size = narrowChannel.config.maxMessageSize.toNat ∧
      (∀ size limit,
        ((run narrowChannel oneMessage).channel.send .a m).result ≠ .error (.tooLarge size limit)) ∧
      (StreamBuffer.next
        { bytes := m.encode ++ ByteArray.empty
          maxMessageSize := narrowChannel.config.maxMessageSize }).1 = .ok (some m.bare) ∧
      (∀ channel round e, (run narrowChannel oneMessage).channel.poll? .b = some (channel, round) →
        round.status ≠ .failed e) := by
  have made : Channel.create narrowChannel.config = .ok narrowChannel := rfl
  have exact' : (Message.dispatchFailure .insideSync).size =
      narrowChannel.config.maxMessageSize.toNat := rfl
  have there : ((run narrowChannel oneMessage).channel.endpoint .b).receiver.inlet?.isSome := rfl
  obtain ⟨-, polls, -⟩ := loop_never_fails made (fun _ _ => built_of_mem_oneMessage) .b
  obtain ⟨-, -, -, sizes⟩ := loop_never_fails made (fun _ _ => built_of_mem_oneMessage) .a
  obtain ⟨sent, cut, -⟩ := sizes (.dispatchFailure .insideSync) ByteArray.empty (.dispatchFailure _)
  refine ⟨made, exact', sent.2 (Nat.le_of_eq exact'), cut.2 (Nat.le_of_eq exact'), ?_⟩
  intro channel round e polled failed
  rw [(polls channel round e polled failed).2] at there
  contradiction

end Traffic

end Interprocess
