import Interprocess.Proofs.Channel.Traffic
import Interprocess.Proofs.Custody.Operations

/-!
# What channels do with attachments

Attachments travel in parcels, beside the bytes. A message that is sent turns into a parcel, and the
loop of the other end turns parcels into messages. For each of the things that can be done to a
channel there is one statement here that nothing is lost or doubled by it: what the channel and the
message held is held by the channel and the received messages, or was let go of. This needs nothing
of the bytes: it holds as well where a stream is broken, where a message announces other handles
than it has, and where a loop ends in the middle.
-/

set_option autoImplicit false

namespace Interprocess

/-! ## Receivers -/

namespace Receiver

/-- The parcels under way to a receiver; none if the inlet is gone. -/
def parcels (r : Receiver) : List Parcel := (r.inlet?.map Inlet.parcels).getD []

/-- The attachments under way to a receiver. -/
def items (r : Receiver) : List Attachment := r.parcels.flatMap Parcel.items

/-- A receiver that is let go of closes what is under way to it. -/
theorem settles_close (r : Receiver) : r.close.Settles r.items := by
  cases r with
  | ready inlet held => exact inlet.settles_close
  | listening inlet buffer => exact inlet.settles_close
  | closed held => exact Released.settles_nothing

/-- Giving a loop up keeps what is under way or closes it with the inlet. -/
theorem abort_accounts (r : Receiver) : Accounts r.items r.abort.1.items r.abort.2 := by
  cases r with
  | ready inlet held => exact Accounts.moved (List.Perm.refl _)
  | listening inlet buffer => exact Accounts.closed inlet.settles_close
  | closed held => exact Accounts.moved (List.Perm.refl _)

/-- Starting a loop keeps what is under way or closes it with the loop that was there. -/
theorem start_accounts (r : Receiver) : Accounts r.items r.start.1.items r.start.2 := by
  have same : r.start.1.items = r.abort.1.items := by
    rw [items, items, parcels, parcels, inlet?_start]
  rw [same, start_snd]
  exact r.abort_accounts

/-- Asking a loop to end leaves what is under way as it is. -/
theorem items_cancel (r : Receiver) :
    (r.mapInlet fun i => { i with cancelled := true }).items = r.items := by
  cases r <;> rfl

/-- A parcel that is queued for an end whose inlet is still there is under way to it. -/
theorem items_enqueue {c : Channel} {r : Receiver} (m : Message) (p : Parcel)
    (there : ¬ r.inlet?.isNone) : (r.mapInlet (c.enqueue m p)).items = r.items ++ p.items := by
  cases r with
  | ready inlet held => simp [items, parcels, mapInlet, inlet?, Channel.enqueue]
  | listening inlet buffer => simp [items, parcels, mapInlet, inlet?, Channel.enqueue]
  | closed held => exact absurd rfl there

end Receiver

/-! ## Joining messages with parcels -/

/-- A message that was joined with a parcel holds what travelled in it. -/
theorem items_of_attach {p : Parcel} {m n : Message} (joined : p.attach m = .ok n) :
    n.items = p.items := by
  unfold Parcel.attach at joined
  by_cases mismatch : p.handles.length ≠ m.header.handleCount.toNat
  · simp only [if_pos mismatch] at joined
    contradiction
  simp only [if_neg mismatch, EStateM.run_bind, Message.run_attachHandles] at joined
  by_cases present : !m.attachments.handles.isEmpty
  · simp only [if_pos present] at joined
    contradiction
  by_cases surplus : p.handles.length > descriptorLimit
  · simp only [if_neg present, if_pos surplus] at joined
    contradiction
  simp only [if_neg present, if_neg surplus, Message.run_attachPorts] at joined
  by_cases there : !(m.withHandles p.handles).attachments.ports.isEmpty
  · simp only [if_pos there] at joined
    contradiction
  simp only [if_neg there] at joined
  obtain rfl := Except.ok.inj joined
  simp [Message.items, Attachments.items, Message.withPorts, Message.withHandles, Parcel.items]

/-- Parcel by parcel, the messages that are cut off hold what travelled with them, and the other
parcels stay under way. -/
theorem perm_deliverFor (senderPresent : Bool) (fuel : Nat) (buffer : StreamBuffer)
    (parcels : List Parcel) :
    List.Perm (parcels.flatMap Parcel.items)
      ((deliverFor senderPresent fuel buffer parcels).1.flatMap Message.items ++
        (deliverFor senderPresent fuel buffer parcels).2.2.1.flatMap Parcel.items) := by
  induction fuel generalizing buffer parcels with
  | zero => exact List.Perm.refl _
  | succ fuel ih =>
    rw [deliverFor]
    split
    · exact List.Perm.refl _
    · exact List.Perm.refl _
    split
    · split
      · exact List.Perm.refl _
      · exact List.Perm.refl _
    next parcel others =>
      split
      · exact List.Perm.refl _
      next m joined =>
        rw [List.flatMap_cons, List.flatMap_cons, List.append_assoc, items_of_attach joined]
        exact (ih _ others).append_left parcel.items

/-- What one chunk completes holds what the parcels lose. -/
theorem perm_deliver (senderPresent : Bool) (received : List Message) (buffer : StreamBuffer)
    (parcels : List Parcel) :
    List.Perm (received.flatMap Message.items ++ parcels.flatMap Parcel.items)
      ((received ++ (deliver senderPresent buffer parcels).1).flatMap Message.items ++
        (deliver senderPresent buffer parcels).2.2.1.flatMap Parcel.items) := by
  rw [List.flatMap_append, List.append_assoc]
  apply List.Perm.append_left
  exact perm_deliverFor senderPresent (buffer.size + 1) buffer parcels

/-- Chunk by chunk, messages take over what the parcels lose. -/
theorem perm_receive (senderPresent : Bool) (received : List Message) (chunks : List ByteArray)
    (buffer : StreamBuffer) (parcels : List Parcel) :
    List.Perm (received.flatMap Message.items ++ parcels.flatMap Parcel.items)
      ((receive senderPresent received chunks buffer parcels).messages.flatMap Message.items ++
        (receive senderPresent received chunks buffer parcels).parcels.flatMap Parcel.items) := by
  induction chunks generalizing received buffer parcels with
  | nil =>
    have joined := perm_deliver senderPresent received buffer parcels
    unfold receive
    generalize deliver senderPresent buffer parcels = outcome at joined ⊢
    obtain ⟨messages, rest, left, pause⟩ := outcome
    cases pause <;> exact joined
  | cons chunk chunks ih =>
    have joined := perm_deliver senderPresent received buffer parcels
    unfold receive
    generalize deliver senderPresent buffer parcels = outcome at joined ⊢
    obtain ⟨messages, rest, left, pause⟩ := outcome
    cases pause with
    | needsBytes => exact joined.trans (ih _ _ _)
    | needsParcel | failed => exact joined

/-- A loop hands over what it joined with messages, and keeps the rest or lets go of it. -/
theorem Inlet.run_accounts (inlet : Inlet) (buffer : StreamBuffer) (senderPresent : Bool) :
    Accounts (inlet.parcels.flatMap Parcel.items)
      ((inlet.run buffer senderPresent).receiver.items ++
        (inlet.run buffer senderPresent).received.flatMap Message.items)
      (inlet.run buffer senderPresent).released := by
  have joined := perm_receive senderPresent [] inlet.chunks buffer inlet.parcels
  rw [List.flatMap_nil, List.nil_append] at joined
  unfold run
  generalize receive senderPresent [] inlet.chunks buffer inlet.parcels = d at joined ⊢
  obtain ⟨messages, rest, chunks, parcels, pause⟩ := d
  -- what is left stays in the inlet, which is kept or closed
  have kept : Accounts (inlet.parcels.flatMap Parcel.items)
      (parcels.flatMap Parcel.items ++ messages.flatMap Message.items) ∅ :=
    Accounts.moved (joined.trans List.perm_append_comm)
  have ended : Accounts (inlet.parcels.flatMap Parcel.items)
      ([] ++ messages.flatMap Message.items) (Inlet.close { inlet with chunks, parcels }) :=
    ⟨parcels.flatMap Parcel.items, joined, Inlet.settles_close { inlet with chunks, parcels }⟩
  cases pause with
  | failed e => exact ended
  | needsParcel => exact kept
  | needsBytes =>
    by_cases ends : !senderPresent || inlet.cancelled
    · simp only [if_pos ends]
      exact ended
    · simp only [if_neg ends]
      exact kept

/-- What was under way to a receiver is handed over, stays under way or is closed when its loop is
run. -/
theorem Receiver.run_accounts {config : ChannelConfig} {r : Receiver} {senderPresent : Bool}
    {round : Round} (runs : r.run? config senderPresent = some round) :
    Accounts r.items (round.receiver.items ++ round.received.flatMap Message.items)
      round.released := by
  rcases Receiver.run?_cases runs with ⟨rfl, rfl⟩ | ⟨inlet, there, rfl⟩
  · exact Accounts.moved (List.Perm.refl _)
  · have held : r.items = inlet.parcels.flatMap Parcel.items := by
      rw [items, parcels, there]
      rfl
    rw [held]
    exact inlet.run_accounts _ senderPresent

/-- A further call of the loop takes the inlet over and runs, or it touches nothing. -/
theorem Receiver.further_accounts (r : Receiver) (config : ChannelConfig) (senderPresent : Bool) :
    let round := r.further config senderPresent
    Accounts r.items (round.receiver.items ++ round.received.flatMap Message.items)
      round.released := by
  cases r with
  | ready inlet held => exact inlet.run_accounts (.empty config.maxMessageSize) senderPresent
  | listening | closed => exact Accounts.moved (List.Perm.of_eq (List.append_nil _).symm)

/-! ## Channels -/

namespace Channel

/-- The parcels under way on a channel, to either end. -/
def parcels (c : Channel) : List Parcel := c.first.receiver.parcels ++ c.second.receiver.parcels

/-- The attachments under way on a channel. -/
def items (c : Channel) : List Attachment := c.parcels.flatMap Parcel.items

/-- What is under way on a channel is under way to one of its ends. -/
theorem perm_items (c : Channel) (side : Side) :
    List.Perm c.items
      ((c.endpoint side).receiver.items ++ (c.endpoint side.other).receiver.items) := by
  rw [items, parcels, List.flatMap_append]
  cases side with
  | a => exact List.Perm.refl _
  | b => exact List.perm_append_comm

/-- What is accounted for at one end is accounted for on the channel. -/
theorem accounts_setEndpoint {c : Channel} {side : Side} {e : Endpoint}
    {brought handed : List Attachment} {released : Released}
    (accounts : Accounts ((c.endpoint side).receiver.items ++ brought)
      (e.receiver.items ++ handed) released) :
    Accounts (c.items ++ brought) ((c.setEndpoint side e).items ++ handed) released := by
  have before := c.perm_items side
  have after := (c.setEndpoint side e).perm_items side
  rw [endpoint_setEndpoint, if_pos rfl, endpoint_setEndpoint, if_neg (Side.other_ne side)] at after
  refine accounts.within (c.endpoint side.other).receiver.items ?_ ?_
  · intro a
    have := before.count_eq a
    simp only [List.count_append] at this ⊢
    omega
  · intro a
    have := after.count_eq a
    simp only [List.count_append] at this ⊢
    omega

/-- A message that is sent lies in a parcel, and one that is refused was closed. -/
theorem send_accounts (c : Channel) (side : Side) (m : Message) :
    Accounts (c.items ++ m.items) (c.send side m).channel.items (c.send side m).released := by
  by_cases refuses : c.TurnsAway side m
  · obtain ⟨e, refused⟩ := send_turnedAway refuses
    rw [refused]
    exact ⟨m.items, List.Perm.refl _, m.settles_close⟩
  · obtain ⟨-, -, there, accepted⟩ := send_accepted refuses
    have present : ¬ (c.endpoint side.other).receiver.inlet?.isNone := by
      rw [← Option.not_isSome, there]
      exact Bool.false_ne_true
    rw [accepted]
    have queued : Accounts ((c.endpoint side.other).receiver.items ++ m.items)
        (((c.endpoint side.other).receiver.mapInlet (c.enqueue m m.parcel)).items ++ []) ∅ := by
      rw [Receiver.items_enqueue _ _ present, List.append_nil]
      exact Accounts.moved (List.Perm.refl _)
    have sent : Accounts (c.items ++ m.items)
        ((c.setEndpoint side.other
          { c.endpoint side.other with
            receiver := (c.endpoint side.other).receiver.mapInlet (c.enqueue m m.parcel) }).items ++
          []) ∅ := accounts_setEndpoint queued
    rw [List.append_nil] at sent
    exact sent

/-- What the receiver of one end hands over is handed over by the channel. -/
theorem accounts_round {c : Channel} {side : Side} {round : Round}
    (accounts : Accounts (c.endpoint side).receiver.items
      (round.receiver.items ++ round.received.flatMap Message.items) round.released) :
    Accounts c.items
      ((c.setEndpoint side { c.endpoint side with receiver := round.receiver }).items ++
        round.received.flatMap Message.items) round.released := by
  rw [← List.append_nil (Receiver.items _)] at accounts
  rw [← List.append_nil c.items]
  exact accounts_setEndpoint accounts

/-- A loop that runs turns parcels into messages. -/
theorem poll_accounts {c channel : Channel} {side : Side} {round : Round}
    (polled : c.poll? side = some (channel, round)) :
    Accounts c.items (channel.items ++ round.received.flatMap Message.items) round.released := by
  obtain ⟨runs, rfl⟩ := poll?_eq_some polled
  exact accounts_round (Receiver.run_accounts runs)

/-- A further call of the loop at one end is accounted for on the channel. -/
theorem further_accounts (c : Channel) (side : Side) :
    Accounts c.items ((c.further side).1.items ++ (c.further side).2.received.flatMap Message.items)
      (c.further side).2.released :=
  accounts_round ((c.endpoint side).receiver.further_accounts c.config _)

/-- What is done to the receiver of one end is accounted for if the receiver accounts for it. -/
theorem accounts_receiver {c : Channel} {side : Side} {e : Endpoint} {released : Released}
    (accounts : Accounts (c.endpoint side).receiver.items e.receiver.items released) :
    Accounts c.items (c.setEndpoint side e).items released := by
  have more := @accounts_setEndpoint c side e [] [] released (by simpa using accounts)
  simpa using more

/-- Starting a loop at one end is accounted for on the channel. -/
theorem start_accounts (c : Channel) (side : Side) :
    Accounts c.items (c.start side).1.items (c.start side).2 :=
  accounts_receiver (c.endpoint side).receiver.start_accounts

/-- Asking a loop to end moves and closes nothing on the channel. -/
theorem cancel_accounts (c : Channel) (side : Side) : Accounts c.items (c.cancel side).items ∅ := by
  apply accounts_receiver
  have same := (c.endpoint side).receiver.items_cancel
  exact Accounts.moved (List.Perm.of_eq same.symm)

/-- Giving up the loop at one end is accounted for on the channel. -/
theorem abort_accounts (c : Channel) (side : Side) :
    Accounts c.items (c.abort side).1.items (c.abort side).2 :=
  accounts_receiver (c.endpoint side).receiver.abort_accounts

/-- Dropping an end is accounted for on the channel. -/
theorem drop_accounts (c : Channel) (side : Side) :
    Accounts c.items (c.drop side).1.items (c.drop side).2 :=
  accounts_receiver (Accounts.closed (c.endpoint side).receiver.settles_close)

/-- Nothing is under way on a new channel. -/
theorem items_create {config : ChannelConfig} {c : Channel} (made : create config = .ok c) :
    c.items = [] := by
  obtain ⟨rfl, -⟩ := create_eq_ok made
  rfl

end Channel

end Interprocess
