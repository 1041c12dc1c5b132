import Interprocess.Proofs.Message.Steps

/-!
# Messages that callers can come by

A caller makes a message, receives one as bytes, or answers one, and then changes it by the
operations that are offered. `Operation` lists these, and `Built` says that a message came about in
this way, by any number of operations, some of which may have been refused. Only a size that its
field cannot hold ends the use of a message: that is the caller's fault. The main statement is
`Built.sound`: the header of such a message announces exactly the sizes that its parts have, and
never more file handles than a message may have.
-/

set_option autoImplicit false

namespace Interprocess

/-- What a step leaves behind, whether it was refused or not. -/
def leaving {ε σ α : Type} : EStateM.Result ε σ α → σ
  | .ok _ s | .error _ s => s

/-- What each of two steps leaves behind, they leave behind one after the other. -/
theorem leaving_bind {ε σ α β : Type} {R : σ → σ → Prop} (trans : ∀ {a b c}, R a b → R b c → R a c)
    {step : EStateM ε σ α} {next : α → EStateM ε σ β} (first : ∀ s, R s (leaving (step.run s)))
    (second : ∀ a s, R s (leaving ((next a).run s))) (s : σ) :
    R s (leaving ((step >>= next).run s)) := by
  have one := first s
  rw [EStateM.run_bind]
  cases result : step.run s with
  | ok a t =>
    rw [result] at one
    exact trans one (second a t)
  | error e t =>
    rw [result] at one
    exact one

/-- Why a step was refused, if it was. -/
def refusal {ε σ α : Type} : EStateM.Result ε σ α → Option ε
  | .ok _ _ => none
  | .error e _ => some e

namespace Message

/-- What a caller can do with a message. -/
inductive Operation
  | write (f : Field)
  | writeFooter (bs : ByteArray)
  | readFooter (buffer : ByteArray) (truncate : Bool)
  /-- Reads a field that begins at some place of the payload. -/
  | read (kind : Field.Kind) (place : Nat)
  | takeHandle
  | takePort
  | attachHandles (hs : List Handle)
  | attachPorts (ps : List Port)
  | takeAttachments
  | setRelay (relay : Bool)
  | setRouting (routing : Int32)
  | setTransaction (transaction : Int32)
  | setSeqno (seqno : Int32)

/-- The message that an operation leaves behind, and why the message refused it, if it did. A read
that fails takes nothing from a message, so it is not counted as refused. -/
def Operation.run (m : Message) : Operation → Option MessageError × Message
  | write f => (refusal (f.write.run m), leaving (f.write.run m))
  | writeFooter bs =>
    (refusal ((Message.writeFooter bs).run m), leaving ((Message.writeFooter bs).run m))
  | readFooter buffer truncate =>
    (refusal ((Message.readFooter buffer truncate).run m),
      leaving ((Message.readFooter buffer truncate).run m))
  | read kind place => (none, (leaving (kind.read.run { message := m, place })).message)
  | takeHandle => (none, m.takeHandle.2)
  | takePort => (none, m.takePort.2)
  | attachHandles hs =>
    (refusal ((Message.attachHandles hs).run m), leaving ((Message.attachHandles hs).run m))
  | attachPorts ps =>
    (refusal ((Message.attachPorts ps).run m), leaving ((Message.attachPorts ps).run m))
  | takeAttachments => (none, m.takeAttachments.2)
  | setRelay relay => (none, m.setRelay relay)
  | setRouting routing => (none, m.setRouting routing)
  | setTransaction transaction => (none, m.setTransaction transaction)
  | setSeqno seqno => (none, m.setSeqno seqno)

/-- A message that was made in one of the ways that are offered, and then changed by operations. -/
inductive Built : Message → Prop
  | addressed (routing : Int32) (type : MessageType) (flags : Flags) :
      Built (addressed routing type flags)
  | constructing (routing : Int32) (type : MessageType) (flags : Flags) :
      Built (constructing routing type flags)
  | dispatchFailure (level : Level) : Built (dispatchFailure level)
  | reply {call : Message} (type : MessageType) : Built call → Built (call.reply type)
  | decoded {bs : ByteArray} {m : Message} : decode bs = .ok m → Built m
  | step {m : Message} (op : Operation) :
      Built m → (op.run m).1 ≠ some .sizeOverflow → Built (op.run m).2

/-- A message after operations, whether these were refused or not. -/
def after (m : Message) (ops : List Operation) : Message := ops.foldl (fun m op => (op.run m).2) m

/-- Operations one behind the other may be done in two goes. -/
theorem after_append (m : Message) (ops more : List Operation) :
    m.after (ops ++ more) = (m.after ops).after more :=
  List.foldl_append

/-- What every operation keeps holds of a message after all of them. -/
theorem after_of_run {P : Message → Prop}
    (run : ∀ (n : Message) (op : Operation), P n → P (op.run n).2) {m : Message} (start : P m)
    (ops : List Operation) : P (m.after ops) := by
  induction ops generalizing m with
  | nil => exact start
  | cons op ops ih => exact ih (run m op start)

/-- None of some operations, done one after the other, meets a size that is too large. -/
def NoOverflow : Message → List Operation → Prop
  | _, [] => True
  | m, op :: ops => (op.run m).1 ≠ some .sizeOverflow ∧ NoOverflow (op.run m).2 ops

instance decidableNoOverflow : (m : Message) → (ops : List Operation) → Decidable (m.NoOverflow ops)
  | _, [] => .isTrue trivial
  | m, op :: ops =>
    have := decidableNoOverflow (op.run m).2 ops
    inferInstanceAs (Decidable ((op.run m).1 ≠ some .sizeOverflow ∧ NoOverflow (op.run m).2 ops))

/-- Callers can come by a message after any operations that meet no size that is too large. -/
theorem Built.after {m : Message} (built : m.Built) {ops : List Operation}
    (fits : m.NoOverflow ops) : (m.after ops).Built := by
  induction ops generalizing m with
  | nil => exact built
  | cons op ops ih => exact ih (built.step op fits.1) fits.2

/-- The header announces the sizes that the parts have, and not too many file handles. -/
structure Sound (m : Message) : Prop where
  payloadSize : m.header.payloadSize.toNat = m.contentSize
  footerSize : m.header.footerSize.toNat = m.footer.size
  handleCount : m.header.handleCount.toNat ≤ descriptorLimit

/-- Bringing the sizes up to date makes a message sound whose content is not too large. -/
theorem sound_withSizes {m : Message} (room : m.contentSize < wordLimit)
    (handles : m.header.handleCount.toNat ≤ descriptorLimit) : m.withSizes.Sound where
  payloadSize := UInt32.toNat_ofNat_of_lt' room
  footerSize := UInt32.toNat_ofNat_of_lt' (Nat.lt_of_le_of_lt m.size_footer_le room)
  handleCount := handles

/-- Only the sizes and the count of handles matter: any other change leaves a message sound. -/
theorem Sound.congr {m n : Message} (sound : m.Sound)
    (payloadSize : n.header.payloadSize = m.header.payloadSize)
    (footerSize : n.header.footerSize = m.header.footerSize)
    (handleCount : n.header.handleCount = m.header.handleCount)
    (payload : n.payload = m.payload) (footer : n.footer = m.footer) : n.Sound where
  payloadSize := by
    rw [payloadSize, sound.payloadSize, contentSize, contentSize, payload, footer]
  footerSize := by rw [footerSize, footer, sound.footerSize]
  handleCount := handleCount ▸ sound.handleCount

/-- A number of attachments fits into its field if it keeps the limit. -/
theorem toNat_ofNat_of_le_descriptorLimit {n : Nat} (few : n ≤ descriptorLimit) :
    (UInt32.ofNat n).toNat = n :=
  UInt32.toNat_ofNat_of_lt' (Nat.lt_of_le_of_lt few descriptorLimit_lt_wordLimit)

/-! ## Steps that keep messages sound -/

/-- What a step may come to: a sound message, unless a size was too large. -/
def Settled {α : Type} (r : EStateM.Result MessageError Message α) : Prop :=
  refusal r ≠ some .sizeOverflow → (leaving r).Sound

/-- A step that leaves a sound message sound, unless a size becomes too large. -/
def Keeps {α : Type} (step : MessageM α) : Prop :=
  ∀ m : Message, m.Sound → Settled (step.run m)

/-- Steps that leave sound messages sound do so one after the other. -/
theorem keeps_bind {α β : Type} {step : MessageM α} {next : α → MessageM β}
    (first : Keeps step) (second : ∀ a, Keeps (next a)) : Keeps (step >>= next) := by
  intro m sound
  have settled := first m sound
  rw [EStateM.run_bind]
  cases result : step.run m with
  | ok a m' =>
    rw [result] at settled
    exact second a m' (settled (by simp [refusal]))
  | error e m' =>
    rw [result] at settled
    exact settled

/-- Fitting a number into a word changes no message. -/
theorem keeps_liftNarrow (n : Nat) : Keeps (liftExcept (narrow n)) := by
  intro m sound
  rw [run_liftNarrow]
  by_cases small : n < wordLimit
  · rw [if_pos small]
    exact fun _ => sound
  · rw [if_neg small]
    exact fun _ => sound

/-- Writing bytes leaves a sound message sound. -/
theorem keeps_writeAligned (bs : ByteArray) : Keeps (writeAligned bs) := by
  intro m sound
  rw [run_writeAligned]
  by_cases room : (m.extended bs).contentSize < wordLimit
  · rw [if_pos room]
    exact fun _ => sound_withSizes room sound.handleCount
  · rw [if_neg room]
    exact fun fits => absurd rfl fits

/-- Writing a word leaves a sound message sound. -/
theorem keeps_writeU32 (x : UInt32) : Keeps (writeU32 x) :=
  keeps_writeAligned _

/-- Writing bytes with their length leaves a sound message sound. -/
theorem keeps_writeData (bs : ByteArray) : Keeps (writeData bs) :=
  keeps_bind (keeps_liftNarrow _) fun x =>
    keeps_bind (keeps_writeU32 x) fun _ => keeps_writeAligned bs

/-- Writing a handle leaves a sound message sound, as it is counted in the header. -/
theorem keeps_writeHandle (h : Handle) : Keeps (writeHandle h) := by
  intro m sound
  rw [run_writeHandle]
  by_cases full : m.handleSlots ≥ descriptorLimit
  · simp only [if_pos full]
    exact fun _ => sound
  simp only [if_neg full]
  split
  · next room =>
    have count : (UInt32.ofNat (m.handleSlots + 1)).toNat ≤ descriptorLimit := by
      rw [toNat_ofNat_of_le_descriptorLimit (Nat.lt_of_not_ge full)]
      exact Nat.lt_of_not_ge full
    have written := sound_withSizes room sound.handleCount
    exact fun _ => ⟨written.payloadSize, written.footerSize, count⟩
  · exact fun fits => absurd rfl fits

/-- Writing a port leaves a sound message sound. -/
theorem keeps_writePort (p : Port) : Keeps (writePort p) := by
  intro m sound
  rw [run_writePort]
  by_cases below : m.portSlots < wordLimit
  · simp only [if_pos below]
    split
    · next room =>
      have written := sound_withSizes room sound.handleCount
      exact fun _ => ⟨written.payloadSize, written.footerSize, written.handleCount⟩
    · exact fun fits => absurd rfl fits
  · simp only [if_neg below]
    exact fun _ => sound

/-- Writing a field leaves a sound message sound. -/
theorem keeps_write (f : Field) : Keeps f.write := by
  cases f with
  | u32 x => exact keeps_writeU32 x
  | i32 x => exact keeps_writeU32 x.toUInt32
  | u64 x => exact keeps_writeAligned _
  | i64 x => exact keeps_writeAligned _
  | bool b => exact keeps_writeU32 _
  | bytes bs => exact keeps_writeAligned bs
  | data bs => exact keeps_writeData bs
  | text s => exact keeps_writeData _
  | handle h => exact keeps_writeHandle h
  | port p => exact keeps_writePort p

/-- Writing a footer leaves a sound message sound. -/
theorem keeps_writeFooter (bs : ByteArray) : Keeps (writeFooter bs) := by
  intro m sound
  rw [run_writeFooter]
  split
  · exact fun _ => sound
  · split
    · next room => exact fun _ => sound_withSizes room sound.handleCount
    · exact fun fits => absurd rfl fits

/-- Reading a footer leaves a sound message sound, whether or not it is removed. -/
theorem keeps_readFooter (buffer : ByteArray) (truncate : Bool) :
    Keeps (readFooter buffer truncate) := by
  intro m sound
  rw [run_readFooter]
  split
  · exact fun _ => sound
  split
  · exact fun _ => sound
  split
  · split
    · next room =>
      rw [← contentSize_withoutFooter] at room
      exact fun _ => sound_withSizes room sound.handleCount
    · exact fun fits => absurd rfl fits
  · exact fun _ => sound

/-- Handles that are attached together are counted in the header. -/
theorem keeps_attachHandles (hs : List Handle) : Keeps (attachHandles hs) := by
  intro m sound
  rw [run_attachHandles]
  split
  · exact fun _ => sound
  split
  · exact fun _ => sound
  · next few =>
    have count : (UInt32.ofNat hs.length).toNat ≤ descriptorLimit := by
      rw [toNat_ofNat_of_le_descriptorLimit (Nat.le_of_not_gt few)]
      exact Nat.le_of_not_gt few
    exact fun _ => ⟨sound.payloadSize, sound.footerSize, count⟩

/-- Ports are not counted in the header, so attaching them leaves a message sound. -/
theorem keeps_attachPorts (ps : List Port) : Keeps (attachPorts ps) := by
  intro m sound
  rw [run_attachPorts]
  split
  · exact fun _ => sound
  · exact fun _ => ⟨sound.payloadSize, sound.footerSize, sound.handleCount⟩

/-! ## Reading takes nothing but attachments -/

/-- Two messages that differ at most in their attachments. -/
structure SameContent (m n : Message) : Prop where
  header : n.header = m.header
  payload : n.payload = m.payload
  footer : n.footer = m.footer

/-- Attachments do not matter to whether a message is sound. -/
theorem SameContent.sound {m n : Message} (same : SameContent m n) (sound : m.Sound) : n.Sound :=
  sound.congr (by rw [same.header]) (by rw [same.header]) (by rw [same.header]) same.payload
    same.footer

/-- A read that leaves the message as it is. -/
def Untouched {α : Type} (step : ReadM α) : Prop :=
  ∀ r : Reader, (leaving (step.run r)).message = r.message

/-- A read that reads nothing leaves the message as it is. -/
theorem untouched_pure {α : Type} (a : α) : Untouched (pure a) := fun _ => rfl

/-- A read that fails at once leaves the message as it is. -/
theorem untouched_throw {α : Type} (e : ReadError) : Untouched (throw e : ReadM α) := fun _ => rfl

/-- Reads that leave the message as it is do so one after the other. -/
theorem untouched_bind {α β : Type} {step : ReadM α} {next : α → ReadM β}
    (first : Untouched step) (second : ∀ a, Untouched (next a)) : Untouched (step >>= next) :=
  leaving_bind (R := fun r s : Reader => s.message = r.message)
    (fun one other => Eq.trans other one) first second

/-- Reading bytes leaves the message as it is. -/
theorem untouched_readBytes (length : Nat) : Untouched (Reader.readBytes length) := by
  intro r
  rw [Reader.run_readBytes]
  split <;> rfl

/-- Reading a word leaves the message as it is. -/
theorem untouched_readU32 : Untouched Reader.readU32 :=
  untouched_bind (untouched_readBytes 4) fun _ => untouched_pure _

/-- Reading a 64-bit number leaves the message as it is. -/
theorem untouched_readU64 : Untouched Reader.readU64 :=
  untouched_bind (untouched_readBytes 8) fun _ => untouched_pure _

/-- Reading a truth value leaves the message as it is. -/
theorem untouched_readBool : Untouched Reader.readBool := by
  refine untouched_bind untouched_readU32 fun word => ?_
  split
  · exact untouched_pure false
  split
  · exact untouched_pure true
  · exact untouched_throw _

/-- Reading bytes behind their length leaves the message as it is. -/
theorem untouched_readData : Untouched Reader.readData :=
  untouched_bind untouched_readU32 fun length => untouched_readBytes length.toNat

/-- Reading a text leaves the message as it is. -/
theorem untouched_readText : Untouched Reader.readText := by
  refine untouched_bind untouched_readData fun bs => ?_
  split
  · exact untouched_pure _
  · exact untouched_throw _

/-- What a read makes of a message: it stays as it is, or one of its slots is emptied. -/
inductive Emptied (m : Message) : Message → Prop
  | nothing : Emptied m m
  | slot {α : Type} (row : Row α) (index : Nat) :
      Emptied m (row.replace m ((row.slots m).takeAt index).2)

/-- Reading an attachment empties its slot, unless there is nothing in it. -/
theorem emptied_consume {α : Type} (row : Row α) (r : Reader) :
    Emptied r.message (leaving (row.consume.run r)).message := by
  rw [Row.run_consume]
  split
  · exact .nothing
  split
  · exact .slot row r.word.toNat
  · exact .nothing

/-- Giving a result another form does not change what a read makes of the message. -/
theorem emptied_map {α β : Type} {step : ReadM α} {g : α → β} {r : Reader}
    (emptied : Emptied r.message (leaving (step.run r)).message) :
    Emptied r.message (leaving ((do return g (← step) : ReadM β).run r)).message := by
  rw [EStateM.run_bind]
  cases result : step.run r with
  | ok a r' =>
    rw [result] at emptied
    exact emptied
  | error e r' =>
    rw [result] at emptied
    exact emptied

/-- Reading a field empties one slot at most. -/
theorem emptied_read (kind : Field.Kind) (r : Reader) :
    Emptied r.message (leaving (kind.read.run r)).message := by
  have whole {α : Type} {step : ReadM α} (same : Untouched step) :
      Emptied r.message (leaving (step.run r)).message := by
    rw [same r]
    exact .nothing
  cases kind with
  | u32 => exact emptied_map (whole untouched_readU32)
  | i32 => exact emptied_map (emptied_map (whole untouched_readU32))
  | u64 => exact emptied_map (whole untouched_readU64)
  | i64 => exact emptied_map (emptied_map (whole untouched_readU64))
  | bool => exact emptied_map (whole untouched_readBool)
  | bytes length => exact emptied_map (whole (untouched_readBytes length))
  | data => exact emptied_map (whole untouched_readData)
  | text => exact emptied_map (whole untouched_readText)
  | handle => exact emptied_map (emptied_consume .handles r)
  | port => exact emptied_map (emptied_consume .ports r)

/-- Emptying a slot changes nothing but the attachments. -/
theorem Emptied.sameContent {m n : Message} (emptied : Emptied m n) : SameContent m n := by
  cases emptied with
  | nothing | slot => exact ⟨rfl, rfl, rfl⟩

/-- A read that changes at most the attachments of the message. -/
def ReadsOnly {α : Type} (step : ReadM α) : Prop :=
  ∀ r : Reader, SameContent r.message (leaving (step.run r)).message

/-- Reading a field changes nothing but the attachments. -/
theorem readsOnly_read (kind : Field.Kind) : ReadsOnly kind.read := by
  intro r
  exact (emptied_read kind r).sameContent

/-! ## Every message that callers can come by -/

/-- An operation that meets no size that is too large leaves a sound message sound. -/
theorem Sound.run {m : Message} (sound : m.Sound) (op : Operation)
    (fits : (op.run m).1 ≠ some .sizeOverflow) : (op.run m).2.Sound := by
  cases op with
  | write f => exact keeps_write f m sound fits
  | writeFooter bs => exact keeps_writeFooter bs m sound fits
  | readFooter buffer truncate => exact keeps_readFooter buffer truncate m sound fits
  | read kind place => exact (readsOnly_read kind { message := m, place }).sound sound
  | attachHandles hs => exact keeps_attachHandles hs m sound fits
  | attachPorts ps => exact keeps_attachPorts ps m sound fits
  | takeHandle | takePort | takeAttachments | setRelay | setRouting | setTransaction | setSeqno =>
    exact sound.congr rfl rfl rfl rfl rfl

/-- A new message is sound if its header announces nothing. -/
theorem sound_of_empty (h : Header) (payloadSize : h.payloadSize = 0)
    (footerSize : h.footerSize = 0) (handleCount : h.handleCount = 0) : Sound { header := h } where
  payloadSize := by
    rw [payloadSize]
    exact show (0 : UInt32).toNat = ByteArray.empty.size + align ByteArray.empty.size by decide
  footerSize := by
    rw [footerSize]
    exact show (0 : UInt32).toNat = ByteArray.empty.size by decide
  handleCount := by
    rw [handleCount]
    exact Nat.zero_le _

/-- Bytes that are accepted announce the sizes of the parts that they are cut into. -/
theorem sound_of_decode {bs : ByteArray} {m : Message} (accepted : decode bs = .ok m) :
    m.Sound := by
  obtain ⟨header, footerStart, -, size, roomy, few, rfl⟩ := decode_eq_ok_iff.1 accepted
  obtain ⟨payload, footer⟩ := size_parts size roomy
  refine ⟨?_, footer.symm, few⟩
  rw [contentSize]
  simp only [payload, footer]
  exact roomy.symm

/-- The header of a message that callers can come by announces what the message holds. -/
theorem Built.sound {m : Message} (built : m.Built) : m.Sound := by
  -- the ways to make a message are the base cases, the operations are the step
  induction built with
  | addressed | constructing | dispatchFailure | reply => exact sound_of_empty _ rfl rfl rfl
  | decoded accepted => exact sound_of_decode accepted
  | step op _ fits ih => exact ih.run op fits

end Message

end Interprocess
