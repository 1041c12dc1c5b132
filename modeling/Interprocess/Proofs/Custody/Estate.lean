import Interprocess.Proofs.Custody.Channels
import Mathlib.Data.List.Perm.Subperm

/-!
# All that attachments can lie in

An `Estate` is all that attachments can lie in: messages, side lists that were moved out of
messages, channels and the caller's hands, together with the records of what was closed and of the
ports that were given up. An `Act` is anything that can be done in it, and it always has an effect
that is fixed by the operations on messages, side lists and channels; what is not there cannot be
acted on. The main statement of this module is `Estate.step_passes`: no act loses or doubles an
attachment.
-/

set_option autoImplicit false

namespace Interprocess

/-- All that attachments can lie in, and what became of the others. -/
structure Estate where
  messages : List Message := []
  /-- The side lists that were moved out of messages whole. -/
  sideLists : List Attachments := []
  channels : List Channel := []
  /-- What the caller has moved out, or has not given away yet. -/
  hands : List Attachment := []
  /-- What was closed, in the order of closing. -/
  closed : Released := ∅
  /-- The ports that were given up without closing. -/
  givenUp : List PortName := []

/-- How a message can be come by. None of these ways brings attachments along. -/
inductive Origin
  | addressed (routing : Int32) (type : MessageType) (flags : Flags)
  | constructing (routing : Int32) (type : MessageType) (flags : Flags)
  | dispatchFailure (level : Level)
  /-- The reply to one of the messages that are there. -/
  | reply (call : Nat) (type : MessageType)
  | decoded (bytes : ByteArray)

/-- The message of some origin, unless there is no such call or the bytes are refused. -/
def Origin.message? (messages : List Message) : Origin → Option Message
  | addressed routing type flags => some (.addressed routing type flags)
  | constructing routing type flags => some (.constructing routing type flags)
  | dispatchFailure level => some (.dispatchFailure level)
  | reply call type => messages[call]?.map fun m => m.reply type
  | decoded bytes => (Message.decode bytes).toOption

/-- No message holds attachments when it is come by. -/
theorem Origin.items_eq_nil {messages : List Message} {m : Message} (origin : Origin)
    (made : origin.message? messages = some m) : m.items = [] := by
  cases origin with
  | addressed | constructing | dispatchFailure =>
    obtain rfl := Option.some.inj made
    rfl
  | reply call type =>
    obtain ⟨n, -, rfl⟩ := Option.map_eq_some_iff.1 made
    rfl
  | decoded bytes =>
    simp only [message?] at made
    cases accepted : Message.decode bytes with
    | error e =>
      rw [accepted] at made
      contradiction
    | ok n =>
      rw [accepted] at made
      obtain rfl := Option.some.inj made
      obtain ⟨header, footerStart, -, -, -, -, rfl⟩ := Message.decode_eq_ok_iff.1 accepted
      rfl

/-- What can be done. Messages, side lists and channels are known by their places. -/
inductive Act
  | newHandle (h : Handle)
  | newPort (name : PortName)
  | make (origin : Origin)
  /-- An operation on a message, which may take attachments out of the caller's hands. -/
  | operate (place : Nat) (op : Message.Operation)
  | dropMessage (place : Nat)
  | takeHandles (place : Nat)
  | takePorts (place : Nat)
  | dropSideList (place : Nat)
  /-- The caller closes what it has in its hands. -/
  | letGo (a : Attachment)
  | giveUp (name : PortName)
  | connect (config : ChannelConfig)
  | send (channel : Nat) (side : Side) (place : Nat)
  | poll (channel : Nat) (side : Side)
  /-- The receive loop is called and run beside the one that is there. -/
  | further (channel : Nat) (side : Side)
  | start (channel : Nat) (side : Side)
  | cancel (channel : Nat) (side : Side)
  | abort (channel : Nat) (side : Side)
  | dropEnd (channel : Nat) (side : Side)

/-- The attachments that enter an estate with an act. -/
def Act.brings : Act → List Attachment
  | newHandle h => [.handle h]
  | newPort name => [.port { name }]
  | _ => []

namespace Estate

/-- Operates on a message and settles what the operation took over if it was refused. -/
def operate (w : Estate) (place : Nat) (m : Message) (op : Message.Operation) : Estate :=
  { w with
    messages := w.messages.set place (op.run m).2
    sideLists := w.sideLists ++ op.detached m
    hands := w.hands.diff op.taken ++ op.handed m
    closed := w.closed ++ op.released m }

/-- Works on a channel by an operation that may let go of something. -/
def onChannel (w : Estate) (place : Nat) (f : Channel → Channel × Released) : Estate :=
  match w.channels[place]? with
  | some c => { w with channels := w.channels.set place (f c).1, closed := w.closed ++ (f c).2 }
  | none => w

/-- Sends a message; it is gone afterwards, whether or not it could be sent. -/
def send (w : Estate) (channel : Nat) (side : Side) (place : Nat) : Estate :=
  match w.channels[channel]?, w.messages[place]? with
  | some c, some m =>
    { w with
      messages := w.messages.eraseIdx place
      channels := w.channels.set channel (c.send side m).channel
      closed := w.closed ++ (c.send side m).released }
  | _, _ => w

/-- Runs a receive loop on a channel, if there is one to run. -/
def receive (w : Estate) (channel : Nat) (f : Channel → Option (Channel × Round)) : Estate :=
  match w.channels[channel]?.bind f with
  | some (c, round) =>
    { w with
      messages := w.messages ++ round.received
      channels := w.channels.set channel c
      closed := w.closed ++ round.released }
  | none => w

/-- What an act makes of an estate. -/
def step (w : Estate) : Act → Estate
  | .newHandle h => { w with hands := w.hands ++ [.handle h] }
  | .newPort name => { w with hands := w.hands ++ [.port { name }] }
  | .make origin => { w with messages := w.messages ++ (origin.message? w.messages).toList }
  | .operate place op =>
    match w.messages[place]? with
    | some m => if op.taken.Subperm w.hands then w.operate place m op else w
    | none => w
  | .dropMessage place =>
    match w.messages[place]? with
    | some m => { w with messages := w.messages.eraseIdx place, closed := w.closed ++ m.close }
    | none => w
  | .takeHandles place =>
    match w.sideLists[place]? with
    | some a =>
      { w with
        sideLists := w.sideLists.set place a.takeHandles.2
        hands := w.hands ++ a.takeHandles.1.map .handle }
    | none => w
  | .takePorts place =>
    match w.sideLists[place]? with
    | some a =>
      { w with
        sideLists := w.sideLists.set place a.takePorts.2
        hands := w.hands ++ a.takePorts.1.map .port }
    | none => w
  | .dropSideList place =>
    match w.sideLists[place]? with
    | some a => { w with sideLists := w.sideLists.eraseIdx place, closed := w.closed ++ a.close }
    | none => w
  | .letGo a =>
    if a ∈ w.hands then { w with hands := w.hands.erase a, closed := w.closed ++ a.close } else w
  | .giveUp name =>
    if .port { name } ∈ w.hands then
      { w with
        hands := w.hands.erase (.port { name })
        closed := w.closed ++ ({ name } : Port).release.close
        givenUp := w.givenUp ++ [name] }
    else w
  | .connect config =>
    { w with channels := w.channels ++ (Channel.create config).toOption.toList }
  | .send channel side place => w.send channel side place
  | .poll channel side => w.receive channel fun c => c.poll? side
  | .further channel side => w.receive channel fun c => some (c.further side)
  | .start channel side => w.onChannel channel fun c => c.start side
  | .cancel channel side => w.onChannel channel fun c => (c.cancel side, ∅)
  | .abort channel side => w.onChannel channel fun c => c.abort side
  | .dropEnd channel side => w.onChannel channel fun c => c.drop side

/-! ## What is kept -/

/-- The attachments that are still there. -/
def kept (w : Estate) : List Attachment :=
  w.messages.flatMap Message.items ++ w.sideLists.flatMap Attachments.items ++
    w.channels.flatMap Channel.items ++ w.hands

end Estate

section

variable {α : Type} {l : List α} {i : Nat} {x : α}

/-- A list holds what one of its members and the others hold, wherever this member stands. -/
theorem count_flatMap_of_perm (items : α → List Attachment) {others : List α}
    (same : List.Perm l (x :: others)) (a : Attachment) :
    (l.flatMap items).count a = (items x).count a + (others.flatMap items).count a := by
  rw [← List.count_append]
  exact (same.flatMap_right items).count_eq a

/-- What a list holds is what one of its members holds and what the others hold. -/
theorem count_flatMap_getElem? (items : α → List Attachment) (here : l[i]? = some x)
    (a : Attachment) :
    (l.flatMap items).count a = (items x).count a + ((l.eraseIdx i).flatMap items).count a := by
  obtain ⟨within, rfl⟩ := List.getElem?_eq_some_iff.1 here
  exact count_flatMap_of_perm items (List.getElem_cons_eraseIdx_perm within).symm a

/-- A member that is replaced holds something else, and the others hold what they held. -/
theorem count_flatMap_set (items : α → List Attachment) (here : l[i]? = some x) (y : α)
    (a : Attachment) :
    ((l.set i y).flatMap items).count a =
      (items y).count a + ((l.eraseIdx i).flatMap items).count a := by
  obtain ⟨within, -⟩ := List.getElem?_eq_some_iff.1 here
  exact count_flatMap_of_perm items (List.set_perm_cons_eraseIdx within y) a

end

namespace Estate

/-- One estate passes into another with some attachments brought: the records only grow, and what
was there or was brought is kept, was closed or was given up. -/
def Passes (w : Estate) (brought : List Attachment) (v : Estate) : Prop :=
  ∃ released given, v.closed = w.closed ++ released ∧ v.givenUp = w.givenUp ++ given ∧
    Accounts (w.kept ++ brought) (v.kept ++ given.map fun name => .port { name }) released

section

variable {w v : Estate} {brought : List Attachment}

/-- As long as nothing is given up, only what is kept and what is closed have to be accounted
for. -/
theorem passes_of_accounts {released : Released} (closed : v.closed = w.closed ++ released)
    (givenUp : v.givenUp = w.givenUp) (accounts : Accounts (w.kept ++ brought) v.kept released) :
    w.Passes brought v := by
  refine ⟨released, [], closed, ?_, ?_⟩
  · rw [givenUp, List.append_nil]
  · rw [List.map_nil, List.append_nil]
    exact accounts

/-- Where nothing is closed, attachments are only moved. -/
theorem passes_of_perm (closed : v.closed = w.closed) (givenUp : v.givenUp = w.givenUp)
    (moved : List.Perm (w.kept ++ brought) v.kept) : w.Passes brought v := by
  refine passes_of_accounts ?_ givenUp (Accounts.moved moved)
  rw [closed, Released.append_empty]

/-- What is missing afterwards was closed. -/
theorem passes_of_closed {released : Released} {gone : List Attachment}
    (closed : v.closed = w.closed ++ released) (givenUp : v.givenUp = w.givenUp)
    (settles : released.Settles gone)
    (held : ∀ a, w.kept.count a = gone.count a + v.kept.count a) : w.Passes [] v := by
  refine passes_of_accounts closed givenUp ?_
  apply (Accounts.closed settles).within v.kept
  · intro a
    rw [List.append_nil]
    exact held a
  · intro a
    rw [List.count_nil, Nat.zero_add]

/-- An estate that does not change passes into itself. -/
theorem passes_refl (w : Estate) : w.Passes [] w := by
  refine passes_of_perm rfl rfl ?_
  rw [List.append_nil]

end

variable {w : Estate}

/-- What enters an estate comes into the caller's hands. -/
theorem passes_newHands (w : Estate) (a : Attachment) :
    w.Passes [a] { w with hands := w.hands ++ [a] } := by
  refine passes_of_perm rfl rfl ?_
  simp [kept]

/-- Making a message brings no attachment along. -/
theorem passes_make (w : Estate) (origin : Origin) :
    w.Passes [] { w with messages := w.messages ++ (origin.message? w.messages).toList } := by
  refine passes_of_perm rfl rfl ?_
  have nothing : (origin.message? w.messages).toList.flatMap Message.items = [] := by
    rw [List.flatMap_eq_nil_iff]
    intro m mem
    exact origin.items_eq_nil (Option.mem_toList.1 mem)
  simp [kept, nothing]

/-- An operation on a message moves attachments or closes those that it refuses. -/
theorem passes_operate {place : Nat} {m : Message} {op : Message.Operation}
    (here : w.messages[place]? = some m) (owned : op.taken.Subperm w.hands) :
    w.Passes [] (w.operate place m op) := by
  refine passes_of_accounts rfl rfl ?_
  apply (op.accounts m).within
    (kept { w with messages := w.messages.eraseIdx place, hands := w.hands.diff op.taken })
  · intro a
    have messages := count_flatMap_getElem? Message.items here a
    have hands := List.subperm_append_diff_self_of_count_le (List.subperm_ext_iff.1 owned)
    have hands := hands.count_eq a
    simp only [kept, List.count_append, List.count_nil] at hands ⊢
    omega
  · intro a
    have messages := count_flatMap_set Message.items here (op.run m).2 a
    simp only [kept, operate, List.flatMap_append, List.count_append]
    omega

/-- A message that is dropped closes what is left in it. -/
theorem passes_dropMessage {place : Nat} {m : Message} (here : w.messages[place]? = some m) :
    w.Passes []
      { w with messages := w.messages.eraseIdx place, closed := w.closed ++ m.close } := by
  refine passes_of_closed rfl rfl m.settles_close ?_
  intro a
  have messages := count_flatMap_getElem? Message.items here a
  simp only [kept, List.count_append]
  omega

/-- A side list that is dropped closes what is left in it. -/
theorem passes_dropSideList {place : Nat} {s : Attachments} (here : w.sideLists[place]? = some s) :
    w.Passes []
      { w with sideLists := w.sideLists.eraseIdx place, closed := w.closed ++ s.close } := by
  refine passes_of_closed rfl rfl s.settles_close ?_
  intro a
  have sideLists := count_flatMap_getElem? Attachments.items here a
  simp only [kept, List.count_append]
  omega

/-- What is moved out of a side list comes into the caller's hands. -/
theorem passes_unpack {place : Nat} {s left : Attachments} {out : List Attachment}
    (here : w.sideLists[place]? = some s) (moved : List.Perm s.items (left.items ++ out)) :
    w.Passes [] { w with sideLists := w.sideLists.set place left, hands := w.hands ++ out } := by
  refine passes_of_perm rfl rfl ?_
  rw [List.perm_iff_count]
  intro a
  have before := count_flatMap_getElem? Attachments.items here a
  have after := count_flatMap_set Attachments.items here left a
  have moved := moved.count_eq a
  simp only [kept, List.count_append, List.count_nil] at moved ⊢
  omega

/-- What the caller lets go of is closed. -/
theorem passes_letGo {a : Attachment} (owned : a ∈ w.hands) :
    w.Passes [] { w with hands := w.hands.erase a, closed := w.closed ++ a.close } := by
  refine passes_of_closed rfl rfl a.settles_close ?_
  intro x
  have hands := (List.perm_cons_erase owned).count_eq x
  simp only [kept, List.count_append, List.count_nil, List.count_cons] at hands ⊢
  omega

/-- A port that is given up is noted as such and is not closed. -/
theorem passes_giveUp {name : PortName} (owned : .port { name } ∈ w.hands) :
    w.Passes []
      { w with
        hands := w.hands.erase (.port { name })
        closed := w.closed ++ ({ name } : Port).release.close
        givenUp := w.givenUp ++ [name] } := by
  refine ⟨∅, [name], rfl, rfl, Accounts.moved ?_⟩
  rw [List.perm_iff_count]
  intro a
  have hands := (List.perm_cons_erase owned).count_eq a
  simp only [kept, List.map_cons, List.map_nil, List.count_append, List.count_nil,
    List.count_cons] at hands ⊢
  omega

/-- A new channel has nothing under way. -/
theorem passes_connect (w : Estate) (config : ChannelConfig) :
    w.Passes []
      { w with channels := w.channels ++ (Channel.create config).toOption.toList } := by
  refine passes_of_perm rfl rfl ?_
  have nothing : (Channel.create config).toOption.toList.flatMap Channel.items = [] := by
    cases made : Channel.create config with
    | error e => rfl
    | ok c => simp [Except.toOption, Channel.items_create made]
  simp [kept, nothing]

/-- Work on a channel is accounted for in the estate if the channel accounts for it. -/
theorem passes_onChannel (w : Estate) (place : Nat) {f : Channel → Channel × Released}
    (accounts : ∀ c : Channel, Accounts c.items (f c).1.items (f c).2) :
    w.Passes [] (w.onChannel place f) := by
  rw [onChannel]
  split
  next c here =>
    refine passes_of_accounts rfl rfl ?_
    apply (accounts c).within (kept { w with channels := w.channels.eraseIdx place })
    · intro a
      have channels := count_flatMap_getElem? Channel.items here a
      simp only [kept, List.count_append, List.count_nil]
      omega
    · intro a
      have channels := count_flatMap_set Channel.items here (f c).1 a
      simp only [kept, List.count_append]
      omega
  · exact w.passes_refl

/-- Sending moves the attachments of a message into a parcel or closes them. -/
theorem passes_send (w : Estate) (channel : Nat) (side : Side) (place : Nat) :
    w.Passes [] (w.send channel side place) := by
  rw [send]
  split
  next c m there here =>
    refine passes_of_accounts rfl rfl ?_
    apply (c.send_accounts side m).within
      (kept
        { w with
          messages := w.messages.eraseIdx place
          channels := w.channels.eraseIdx channel })
    · intro a
      have messages := count_flatMap_getElem? Message.items here a
      have channels := count_flatMap_getElem? Channel.items there a
      simp only [kept, List.count_append, List.count_nil]
      omega
    · intro a
      have channels := count_flatMap_set Channel.items there (c.send side m).channel a
      simp only [kept, List.count_append]
      omega
  · exact w.passes_refl

/-- A loop moves attachments from parcels into the messages that it hands over. -/
theorem passes_receive (w : Estate) (channel : Nat) {f : Channel → Option (Channel × Round)}
    (accounts : ∀ c after round, f c = some (after, round) →
      Accounts c.items (after.items ++ round.received.flatMap Message.items) round.released) :
    w.Passes [] (w.receive channel f) := by
  rw [receive]
  split
  next c round polled =>
    obtain ⟨before, there, polled⟩ := Option.bind_eq_some_iff.1 polled
    refine passes_of_accounts rfl rfl ?_
    apply (accounts before c round polled).within
      (kept { w with channels := w.channels.eraseIdx channel })
    · intro a
      have channels := count_flatMap_getElem? Channel.items there a
      simp only [kept, List.count_append, List.count_nil]
      omega
    · intro a
      have channels := count_flatMap_set Channel.items there c a
      simp only [kept, List.flatMap_append, List.count_append]
      omega
  · exact w.passes_refl

/-- No act loses or doubles an attachment. -/
theorem step_passes (w : Estate) (act : Act) : w.Passes act.brings (w.step act) := by
  cases act with
  | newHandle h => exact w.passes_newHands (.handle h)
  | newPort name => exact w.passes_newHands (.port { name })
  | make origin => exact w.passes_make origin
  | operate place op =>
    rw [step]
    split
    next m here =>
      split
      next owned => exact passes_operate here owned
      · exact w.passes_refl
    · exact w.passes_refl
  | dropMessage place =>
    rw [step]
    split
    next m here => exact passes_dropMessage here
    · exact w.passes_refl
  | takeHandles place =>
    rw [step]
    split
    next s here => exact passes_unpack here (Row.handles.perm_takeAll s)
    · exact w.passes_refl
  | takePorts place =>
    rw [step]
    split
    next s here => exact passes_unpack here (Row.ports.perm_takeAll s)
    · exact w.passes_refl
  | dropSideList place =>
    rw [step]
    split
    next s here => exact passes_dropSideList here
    · exact w.passes_refl
  | letGo a =>
    rw [step]
    split
    next owned => exact passes_letGo owned
    · exact w.passes_refl
  | giveUp name =>
    rw [step]
    split
    next owned => exact passes_giveUp owned
    · exact w.passes_refl
  | connect config => exact w.passes_connect config
  | send channel side place => exact w.passes_send channel side place
  | poll channel side => exact w.passes_receive channel fun _ _ _ => Channel.poll_accounts
  | further channel side =>
    refine w.passes_receive channel fun c after round answer => ?_
    obtain ⟨rfl, rfl⟩ := Prod.mk.inj (Option.some.inj answer)
    exact c.further_accounts side
  | start channel side => exact w.passes_onChannel channel fun c => c.start_accounts side
  | cancel channel side => exact w.passes_onChannel channel fun c => c.cancel_accounts side
  | abort channel side => exact w.passes_onChannel channel fun c => c.abort_accounts side
  | dropEnd channel side => exact w.passes_onChannel channel fun c => c.drop_accounts side

end Estate

end Interprocess
