import Interprocess.Proofs.Channel.Passage
import Mathlib.Data.List.Induction

/-!
# Two logs

The payload and the footer of a message grow independently of each other. The payload is the row of
the fields that were written, whatever is done to the footer. The footer is the row of the portions
that were written since it was last removed, whatever is done to the payload. Both share the sizes
in the header, and these follow from the two logs alone: a message is determined by what it was when
it was new and by its logs (`Message.Logged.unique`), and each edit adds to one of them
(`Message.Logged.step`). The main statement is `Message.logs_apart`.
-/

set_option autoImplicit false

namespace Interprocess

/-! ## Edits and logs -/

/-- What is done to the payload and to the footer of a message. -/
inductive Edit
  | write (f : Field)
  | writeFooter (bs : ByteArray)
  | readFooter (buffer : ByteArray) (truncate : Bool)

namespace Edit

/-- The operation on the message. -/
def operation : Edit → Message.Operation
  | write f => .write f
  | writeFooter bs => .writeFooter bs
  | readFooter buffer truncate => .readFooter buffer truncate

/-- Whether an edit is one of the payload. -/
def onPayload : Edit → Bool
  | write _ => true
  | writeFooter _ | readFooter _ _ => false

/-- Whether an edit is one of the footer. -/
def onFooter (e : Edit) : Bool := !e.onPayload

/-- Whether a footer can be copied over the beginning of a buffer. A buffer that is not empty
expects a footer. -/
def Readable (footer buffer : ByteArray) : Prop :=
  footer.size ≤ buffer.size ∧ ¬ (footer = ByteArray.empty ∧ buffer ≠ ByteArray.empty)

instance (footer buffer : ByteArray) : Decidable (Readable footer buffer) :=
  inferInstanceAs (Decidable (_ ∧ _))

/-- The fields that were written. A file handle that would be one too many is not written. -/
def addField (fs : List Field) : Edit → List Field
  | write f =>
    if ((fs ++ [f]).flatMap Field.handles).length ≤ descriptorLimit then fs ++ [f] else fs
  | writeFooter _ | readFooter _ _ => fs

/-- The portions of the footer that were written since it was last removed. -/
def addPortion (portions : List ByteArray) : Edit → List ByteArray
  | write _ => portions
  | writeFooter bs => portions ++ [bs]
  | readFooter buffer truncate =>
    if truncate ∧ Readable (concat portions) buffer then [] else portions

/-- What becomes of the payload, counted in fields. -/
def fieldLog (es : List Edit) : List Field := es.foldl addField []

/-- What becomes of the footer, counted in portions. -/
def footerLog (es : List Edit) : List ByteArray := es.foldl addPortion []

/-- The bytes that two logs take behind a header. -/
def logSize (fs : List Field) (portions : List ByteArray) : Nat :=
  (fs.map Field.width).sum + align (concat portions).size

/-- There is room for everything that is written at any time. -/
def Fit (es : List Edit) : Prop :=
  ∀ before, before <+: es → logSize (fieldLog before) (footerLog before) < wordLimit

/-- Whether there is always room can be told from the finitely many beginnings. -/
theorem fit_iff (es : List Edit) :
    Fit es ↔ ∀ k ≤ es.length, logSize (fieldLog (es.take k)) (footerLog (es.take k)) < wordLimit := by
  constructor
  · intro fit k _
    exact fit _ (List.take_prefix k es)
  · intro room before front
    rw [List.prefix_iff_eq_take.1 front]
    exact room before.length front.length_le

instance (es : List Edit) : Decidable (Fit es) := decidable_of_iff _ (fit_iff es).symm

/-- One more edit is entered into the log of fields last. -/
theorem fieldLog_concat (es : List Edit) (e : Edit) :
    fieldLog (es ++ [e]) = addField (fieldLog es) e :=
  List.foldl_append

/-- One more edit is entered into the log of the footer last. -/
theorem footerLog_concat (es : List Edit) (e : Edit) :
    footerLog (es ++ [e]) = addPortion (footerLog es) e :=
  List.foldl_append

/-- What fits as a whole fits at every time before. -/
theorem Fit.earlier {es before : List Edit} (fit : Fit es) (front : before <+: es) : Fit before :=
  fun _ sooner => fit _ (sooner.trans front)

/-- Only what is done to the payload matters to its log. -/
theorem fieldLog_onPayload (es : List Edit) : fieldLog (es.filter onPayload) = fieldLog es := by
  have step : (fun fs e => if onPayload e then addField fs e else fs) = addField := by
    funext fs e
    cases e <;> rfl
  rw [fieldLog, List.foldl_filter, step, fieldLog]

/-- Only what is done to the footer matters to its log. -/
theorem footerLog_onFooter (es : List Edit) : footerLog (es.filter onFooter) = footerLog es := by
  have step : (fun ps e => if onFooter e then addPortion ps e else ps) = addPortion := by
    funext ps e
    cases e <;> rfl
  rw [footerLog, List.foldl_filter, step, footerLog]

/-- What is done to the payload leaves the footer empty. -/
theorem footerLog_onPayload (es : List Edit) : footerLog (es.filter onPayload) = [] := by
  have none : (es.filter onPayload).filter onFooter = [] := by
    rw [List.filter_filter, List.filter_eq_nil_iff]
    intro e _
    simp [onFooter]
  rw [← footerLog_onFooter, none, footerLog, List.foldl_nil]

/-- The payload alone takes no more room. -/
theorem Fit.onPayload {es : List Edit} (fit : Fit es) : Fit (es.filter onPayload) := by
  intro before front
  obtain ⟨whole, sooner, rfl⟩ := List.prefix_filter_iff.1 front
  have room := fit whole sooner
  have none : align (concat []).size = 0 := by decide
  rw [logSize] at room
  rw [logSize, fieldLog_onPayload, footerLog_onPayload, none]
  omega

end Edit

namespace Message

/-- A message after some edits, some of which may have been refused. -/
def edited (m : Message) (es : List Edit) : Message :=
  es.foldl (fun m e => (e.operation.run m).2) m

/-- One more edit is done to what the others leave. -/
theorem edited_concat (m : Message) (es : List Edit) (e : Edit) :
    m.edited (es ++ [e]) = (e.operation.run (m.edited es)).2 :=
  List.foldl_append

end Message

/-! ## What edits leave in a header -/

/-- A header without what it says about the content. -/
def Header.cleared (h : Header) : Header :=
  { h with payloadSize := 0, footerSize := 0, handleCount := 0 }

/-- One more field adds its handle, if it has one. -/
theorem Field.length_handles_concat (fs : List Field) (f : Field) :
    ((fs ++ [f]).flatMap Field.handles).length =
      (fs.flatMap Field.handles).length + f.handles.length := by
  simp

/-- What is cleared is all that a header says about the content. -/
theorem Header.eq_of_cleared {h k : Header} (same : h.cleared = k.cleared)
    (payloadSize : h.payloadSize = k.payloadSize) (footerSize : h.footerSize = k.footerSize)
    (handleCount : h.handleCount = k.handleCount) : h = k := by
  cases h
  cases k
  simp_all [cleared]

namespace Message

/-- A step that changes nothing in the header but what is said there about the content. -/
def KeepsAddress {α : Type} (step : MessageM α) : Prop :=
  ∀ m : Message, (leaving (step.run m)).header.cleared = m.header.cleared

/-- Steps that change only what is said about the content do so one after the other. -/
theorem keepsAddress_bind {α β : Type} {step : MessageM α} {next : α → MessageM β}
    (first : KeepsAddress step) (second : ∀ a, KeepsAddress (next a)) :
    KeepsAddress (step >>= next) :=
  leaving_bind (R := fun m n : Message => n.header.cleared = m.header.cleared)
    (fun one other => other.trans one) first second

/-- Fitting a number into a word changes no header. -/
theorem keepsAddress_liftNarrow (n : Nat) : KeepsAddress (liftExcept (narrow n)) := by
  intro m
  rw [run_liftNarrow]
  split <;> rfl

/-- Writing bytes changes only what is said about the content. -/
theorem keepsAddress_writeAligned (bs : ByteArray) : KeepsAddress (writeAligned bs) := by
  intro m
  rw [run_writeAligned]
  split <;> rfl

/-- Writing bytes with their length changes only what is said about the content. -/
theorem keepsAddress_writeData (bs : ByteArray) : KeepsAddress (writeData bs) :=
  keepsAddress_bind (keepsAddress_liftNarrow _) fun _ =>
    keepsAddress_bind (keepsAddress_writeAligned _) fun _ => keepsAddress_writeAligned bs

/-- Writing a field changes only what is said about the content. -/
theorem keepsAddress_write (f : Field) : KeepsAddress f.write := by
  cases f with
  | u32 | i32 | u64 | i64 | bool | bytes => exact keepsAddress_writeAligned _
  | data | text => exact keepsAddress_writeData _
  | handle h =>
    intro m
    show (leaving ((writeHandle h).run m)).header.cleared = _
    rw [run_writeHandle]
    dsimp only
    split
    · rfl
    · split <;> rfl
  | port p =>
    intro m
    show (leaving ((writePort p).run m)).header.cleared = _
    rw [run_writePort]
    dsimp only
    split
    · split <;> rfl
    · rfl

/-- Writing a footer changes only what is said about the content. -/
theorem keepsAddress_writeFooter (bs : ByteArray) : KeepsAddress (writeFooter bs) := by
  intro m
  rw [run_writeFooter]
  split
  · rfl
  · split <;> rfl

/-! ## Reading a footer -/

/-- Reads a footer if it can be copied, and else changes nothing. -/
theorem readFooter_of_readable {m : Message} {buffer : ByteArray} (truncate : Bool)
    (room : m.payload.size < wordLimit) (readable : Edit.Readable m.footer buffer) :
    (readFooter buffer truncate).run m =
      .ok (m.footer ++ buffer.extract m.footer.size buffer.size)
        (if truncate then m.withoutFooter.withSizes else m) := by
  obtain ⟨enough, present⟩ := readable
  have present : ¬ (m.footer.isEmpty && !buffer.isEmpty) = true := by
    simpa [ByteArray.isEmpty, ByteArray.size_eq_zero_iff] using present
  rw [run_readFooter, if_neg present, if_neg (Nat.not_lt.2 enough), if_pos room]
  split <;> rfl

/-- A footer that cannot be copied is refused, for another reason than a size that is too large, and
stays as it is. -/
theorem readFooter_of_not_readable {m : Message} {buffer : ByteArray} (truncate : Bool)
    (unreadable : ¬ Edit.Readable m.footer buffer) :
    ∃ e, e ≠ .sizeOverflow ∧ (readFooter buffer truncate).run m = .error e m := by
  rw [run_readFooter]
  by_cases missing : m.footer.isEmpty && !buffer.isEmpty
  · exact ⟨.noFooter, by simp, if_pos missing⟩
  · have present : ¬ (m.footer = ByteArray.empty ∧ buffer ≠ ByteArray.empty) := by
      simpa [ByteArray.isEmpty, ByteArray.size_eq_zero_iff] using missing
    have small : buffer.size < m.footer.size :=
      Nat.lt_of_not_le fun enough => unreadable ⟨enough, present⟩
    exact ⟨.bufferTooSmall buffer.size m.footer.size, by simp, by rw [if_neg missing, if_pos small]⟩

/-- An operation on a message that has a buffer beside it. -/
def beside {α : Type} (step : MessageM α) : EStateM MessageError (Message × ByteArray) α :=
  fun (m, buffer) =>
    match step m with
    | .ok a n => .ok a (n, buffer)
    | .error e n => .error e (n, buffer)

/-- An operation on the message leaves the buffer beside it as it is. -/
theorem run_beside {α : Type} (step : MessageM α) (m : Message) (buffer : ByteArray) :
    (beside step).run (m, buffer) =
      match step.run m with
      | .ok a n => .ok a (n, buffer)
      | .error e n => .error e (n, buffer) := rfl

/-- Reads a footer step by step into a buffer that is there already. -/
def readFooterInto (truncate : Bool) : EStateM MessageError (Message × ByteArray) Unit := do
  let (m, buffer) ← get
  if m.footer.isEmpty && !buffer.isEmpty then
    throw .noFooter
  if buffer.size < m.footer.size then
    throw (.bufferTooSmall buffer.size m.footer.size)
  set (m, m.footer.copySlice 0 buffer 0 m.footer.size)
  if truncate then
    beside do
      modify withoutFooter
      refreshSizes

/-- The buffer is filled with what is read, or it stays as it is. -/
theorem run_readFooterInto {m : Message} (buffer : ByteArray) (truncate : Bool)
    (room : m.payload.size < wordLimit) :
    (readFooterInto truncate).run (m, buffer) =
      match (readFooter buffer truncate).run m with
      | .ok copied n => .ok () (n, copied)
      | .error e n => .error e (n, buffer) := by
  have copied : m.footer.copySlice 0 buffer 0 m.footer.size =
      m.footer ++ buffer.extract m.footer.size buffer.size := by
    rw [ByteArray.copySlice_eq_append, ByteArray.extract_same, ByteArray.empty_append, Nat.zero_add,
      ByteArray.extract_zero_size, ByteArray.size_data, ByteArray.size_data, Nat.sub_zero,
      Nat.min_self, Nat.zero_add]
  rw [run_readFooter, if_pos room]
  unfold readFooterInto
  rw [EStateM.run_bind, EStateM.run_get]
  by_cases missing : m.footer.isEmpty && !buffer.isEmpty
  · simp only [if_pos missing]
    rfl
  by_cases small : buffer.size < m.footer.size
  · simp only [if_neg missing, if_pos small]
    rfl
  by_cases drop : truncate
  · have refreshed := run_refreshSizes m.withoutFooter
    rw [contentSize_withoutFooter, if_pos room] at refreshed
    have removed (filled : ByteArray) :
        EStateM.run (beside (modify withoutFooter >>= fun _ => refreshSizes)) (m, filled) =
          .ok () (m.withoutFooter.withSizes, filled) := by
      rw [run_beside, EStateM.run_bind, EStateM.run_modify]
      simp only [refreshed]
    simp only [if_neg missing, if_neg small, if_pos drop, copied, EStateM.run_bind, EStateM.run_set,
      removed]
  · simp only [if_neg missing, if_neg small, if_neg drop, copied]
    rfl

/-! ## What a message is after edits -/

/-- A new message after some fields and a footer were written to it. -/
structure Logged (new : Message) (fs : List Field) (footer : ByteArray) (m : Message) : Prop where
  holds : m.Holds fs footer
  sound : m.Sound
  address : m.header.cleared = new.header.cleared

/-- The size and the footer's size are those of the logs. -/
theorem Logged.contentSize {new m : Message} {fs : List Field} {footer : ByteArray}
    (logged : Logged new fs footer m) :
    m.contentSize = (fs.map Field.width).sum + align footer.size := by
  rw [Message.contentSize, logged.holds.payload, logged.holds.footer, Field.size_images]

/-- The logs determine the message. -/
theorem Logged.unique {new m n : Message} {fs : List Field} {footer : ByteArray}
    (left : Logged new fs footer m) (right : Logged new fs footer n) : m = n := by
  have payload : m.payload = n.payload := left.holds.payload.trans right.holds.payload.symm
  have footer : m.footer = n.footer := left.holds.footer.trans right.holds.footer.symm
  have handles : m.attachments.handles = n.attachments.handles :=
    Slots.toList_inj (left.holds.handles.trans right.holds.handles.symm)
  have ports : m.attachments.ports = n.attachments.ports :=
    Slots.toList_inj (left.holds.ports.trans right.holds.ports.symm)
  have content : m.header.payloadSize = n.header.payloadSize := by
    rw [← UInt32.toNat_inj, left.sound.payloadSize, right.sound.payloadSize, left.contentSize,
      right.contentSize]
  have footerSize : m.header.footerSize = n.header.footerSize := by
    rw [← UInt32.toNat_inj, left.sound.footerSize, right.sound.footerSize, footer]
  have handleCount : m.header.handleCount = n.header.handleCount := by
    rw [← UInt32.toNat_inj, left.holds.handleCount, right.holds.handleCount]
  have header : m.header = n.header :=
    Header.eq_of_cleared (left.address.trans right.address.symm) content footerSize handleCount
  obtain ⟨_, _, _, _, _⟩ := m
  simp_all

/-- A new message has empty logs. -/
theorem New.logged {new : Message} (made : new.New) : Logged new [] ByteArray.empty new :=
  ⟨made.holds, made.built.sound, rfl⟩

/-- The payload takes as many bytes as the fields of the log. -/
theorem Logged.size_payload {new m : Message} {fs : List Field} {footer : ByteArray}
    (logged : Logged new fs footer m) : m.payload.size = (fs.map Field.width).sum := by
  rw [logged.holds.payload, Field.size_images]

/-- A field is written and entered if there is room for it, and a slot if it is a handle. -/
theorem Logged.write {new m : Message} {fs : List Field} {footer : ByteArray} {f : Field}
    (logged : Logged new fs footer m)
    (room : ((fs ++ [f]).map Field.width).sum + align footer.size < wordLimit)
    (few : ((fs ++ [f]).flatMap Field.handles).length ≤ descriptorLimit) :
    ∃ n, f.write.run m = .ok () n ∧ Logged new (fs ++ [f]) footer n := by
  have fits : m.contentSize + f.width < wordLimit := by
    rw [logged.contentSize]
    simp only [List.map_append, List.sum_append, List.map_cons, List.map_nil, List.sum_cons,
      List.sum_nil] at room
    omega
  have slots : m.handleSlots + f.handles.length ≤ descriptorLimit := by
    rwa [logged.holds.handleSlots, ← Field.length_handles_concat]
  obtain ⟨n, written, holds⟩ := logged.holds.write fits slots
  have sound := keeps_write f m logged.sound
  have address := keepsAddress_write f m
  rw [written] at sound address
  exact ⟨n, written, holds, sound (by simp [refusal]), address.trans logged.address⟩

/-- A field that would be one handle too many is refused, and nothing is written. -/
theorem Logged.refuses {new m : Message} {fs : List Field} {footer : ByteArray} {f : Field}
    (logged : Logged new fs footer m)
    (many : ¬ ((fs ++ [f]).flatMap Field.handles).length ≤ descriptorLimit) :
    f.write.run m = .error .handleLimit m := by
  have few : (fs.flatMap Field.handles).length ≤ descriptorLimit := by
    rw [← logged.holds.handleCount]
    exact logged.sound.handleCount
  cases f with
  | handle h =>
    have full : m.handleSlots ≥ descriptorLimit := by
      rw [logged.holds.handleSlots]
      rw [Field.length_handles_concat] at many
      exact Nat.le_of_lt_succ (Nat.lt_of_not_le many)
    show (writeHandle h).run m = _
    rw [run_writeHandle]
    exact if_pos full
  | u32 | i32 | u64 | i64 | bool | bytes | data | text | port =>
    refine absurd few ?_
    simpa [Field.handles] using many

/-- A portion of the footer is written and entered if there is room for it. -/
theorem Logged.writeFooter {new m : Message} {fs : List Field} {footer bs : ByteArray}
    (logged : Logged new fs footer m)
    (room : (fs.map Field.width).sum + align (footer ++ bs).size < wordLimit) :
    ∃ n, (Message.writeFooter bs).run m = .ok () n ∧ Logged new fs (footer ++ bs) n := by
  have fits : m.payload.size + align (m.footer.size + bs.size) < wordLimit := by
    rw [logged.size_payload, logged.holds.footer, ← ByteArray.size_append]
    exact room
  obtain ⟨n, written, holds⟩ := logged.holds.writeFooter fits
  have sound := keeps_writeFooter bs m logged.sound
  have address := keepsAddress_writeFooter bs m
  rw [written] at sound address
  exact ⟨n, written, holds, sound (by simp [refusal]), address.trans logged.address⟩

/-- A footer that is removed leaves the fields. -/
theorem Logged.removed {new m : Message} {fs : List Field} {footer : ByteArray}
    (logged : Logged new fs footer m) (room : m.payload.size < wordLimit) :
    Logged new fs ByteArray.empty m.withoutFooter.withSizes where
  holds := ⟨logged.holds.payload, rfl, logged.holds.handles, logged.holds.ports,
    logged.holds.handleCount⟩
  sound := sound_withSizes (by rwa [contentSize_withoutFooter]) logged.sound.handleCount
  address := logged.address

/-- An edit adds to the logs, and meets no size that is too large if there is room for what it
adds. -/
theorem Logged.step {new m : Message} {fs : List Field} {portions : List ByteArray}
    (logged : Logged new fs (concat portions) m) (e : Edit)
    (room : Edit.logSize (e.addField fs) (e.addPortion portions) < wordLimit) :
    (e.operation.run m).1 ≠ some .sizeOverflow ∧
      Logged new (e.addField fs) (concat (e.addPortion portions)) (e.operation.run m).2 := by
  cases e with
  | write f =>
    show refusal (f.write.run m) ≠ _ ∧ Logged _ _ _ (leaving (f.write.run m))
    by_cases few : ((fs ++ [f]).flatMap Field.handles).length ≤ descriptorLimit
    · simp only [Edit.addField, Edit.addPortion, if_pos few] at room ⊢
      obtain ⟨n, written, after⟩ := logged.write room few
      rw [written]
      exact ⟨by simp [refusal], after⟩
    · simp only [Edit.addField, Edit.addPortion, if_neg few]
      rw [logged.refuses few]
      exact ⟨by simp [refusal], logged⟩
  | writeFooter bs =>
    show refusal ((Message.writeFooter bs).run m) ≠ _ ∧
      Logged _ _ _ (leaving ((Message.writeFooter bs).run m))
    have longer : concat (portions ++ [bs]) = concat portions ++ bs := by simp
    simp only [Edit.addField, Edit.addPortion, Edit.logSize, longer] at room ⊢
    obtain ⟨n, written, after⟩ := logged.writeFooter room
    rw [written]
    exact ⟨by simp [refusal], after⟩
  | readFooter buffer truncate =>
    show refusal ((Message.readFooter buffer truncate).run m) ≠ _ ∧
      Logged _ _ _ (leaving ((Message.readFooter buffer truncate).run m))
    have payload : m.payload.size < wordLimit := by
      rw [logged.size_payload]
      exact Nat.lt_of_le_of_lt (Nat.le_add_right _ _) room
    by_cases readable : Edit.Readable (concat portions) buffer
    · rw [readFooter_of_readable truncate payload (logged.holds.footer ▸ readable)]
      refine ⟨by simp [refusal], ?_⟩
      cases truncate with
      | false => simpa [Edit.addField, Edit.addPortion, leaving] using logged
      | true => simpa [Edit.addField, Edit.addPortion, readable, leaving] using logged.removed payload
    · obtain ⟨e, small, refused⟩ :=
        readFooter_of_not_readable truncate (logged.holds.footer ▸ readable)
      rw [refused]
      refine ⟨by simpa [refusal] using small, ?_⟩
      simpa [Edit.addField, Edit.addPortion, readable, leaving] using logged

/-- A new message after edits is determined by their logs. -/
theorem New.logged_edited {new : Message} (made : new.New) (es : List Edit) (fit : Edit.Fit es) :
    Logged new (Edit.fieldLog es) (concat (Edit.footerLog es)) (new.edited es) := by
  -- the invariant is about all edits so far, so the last one is the step
  induction es using List.reverseRecOn with
  | nil => exact made.logged
  | append_singleton es e ih =>
    have room := fit _ (List.prefix_refl _)
    rw [Edit.fieldLog_concat, Edit.footerLog_concat] at room ⊢
    rw [edited_concat]
    exact ((ih (fit.earlier (List.prefix_append es [e]))).step e room).2

/-- Payload and footer are logs that grow apart. As long as there is room for what is written, no
edit meets a size that is too large, the payload is the row of the fields that were written, and the
footer is the row of the portions that were written since it was last removed. So a message is the
same, and so are its bytes, in whatever order fields and footers were written among each other.

A footer is read exactly if the buffer is long enough, and empty if there is no footer. It is then
copied over the beginning of the buffer, and the rest of the buffer stays. The message stays too, or
its footer is removed, and then it is what it would be if no footer had been written. If a footer is
not read, the message and the buffer stay as they are. -/
theorem logs_apart {new : Message} (made : new.New) {es : List Edit} (fit : Edit.Fit es) :
    let m := new.edited es
    let bare := new.edited (es.filter Edit.onPayload)
    (∀ before e, before ++ [e] <+: es →
        (e.operation.run (new.edited before)).1 ≠ some .sizeOverflow) ∧
      m.payload = Field.images 0 0 (Edit.fieldLog es) ∧
      m.footer = concat (Edit.footerLog es) ∧
      (∀ fs, fs.filter Edit.onPayload = es.filter Edit.onPayload →
        fs.filter Edit.onFooter = es.filter Edit.onFooter → Edit.Fit fs →
          new.edited fs = m ∧ (new.edited fs).encode = m.encode) ∧
      (∀ buffer truncate,
        (Edit.Readable m.footer buffer →
          let copied := m.footer ++ buffer.extract m.footer.size buffer.size
          let after := if truncate then bare else m
          (readFooter buffer truncate).run m = .ok copied after ∧
            (readFooterInto truncate).run (m, buffer) = .ok () (after, copied)) ∧
        (¬ Edit.Readable m.footer buffer → ∃ e,
          (readFooter buffer truncate).run m = .error e m ∧
            (readFooterInto truncate).run (m, buffer) = .error e (m, buffer))) ∧
      bare.payload = m.payload ∧ bare.footer = ByteArray.empty ∧ bare.header.footerSize = 0 ∧
      bare.size = headerSize + m.payload.size := by
  intro m bare
  have logged : Logged new (Edit.fieldLog es) (concat (Edit.footerLog es)) m :=
    made.logged_edited es fit
  have without : Logged new (Edit.fieldLog es) ByteArray.empty bare := by
    have := made.logged_edited _ fit.onPayload
    rwa [Edit.fieldLog_onPayload, Edit.footerLog_onPayload] at this
  have payload : m.payload.size < wordLimit := by
    rw [logged.size_payload]
    exact Nat.lt_of_le_of_lt (Nat.le_add_right _ _) (fit es (List.prefix_refl es))
  -- a footer that was removed and one that was never written leave the same logs
  have removed : m.withoutFooter.withSizes = bare := (logged.removed payload).unique without
  refine ⟨fun before e front => ?_, logged.holds.payload, logged.holds.footer,
    fun fs same others room => ?_, fun buffer truncate => ⟨fun readable => ?_, fun unreadable => ?_⟩,
    without.holds.payload.trans logged.holds.payload.symm, without.holds.footer, ?_, ?_⟩
  · have room := fit _ front
    rw [Edit.fieldLog_concat, Edit.footerLog_concat] at room
    have sooner := (fit.earlier front).earlier (List.prefix_append before [e])
    exact ((made.logged_edited before sooner).step e room).1
  · have other := made.logged_edited fs room
    rw [← Edit.fieldLog_onPayload, ← Edit.footerLog_onFooter, same, others, Edit.fieldLog_onPayload,
      Edit.footerLog_onFooter] at other
    have eq := other.unique logged
    exact ⟨eq, congrArg encode eq⟩
  · have read := readFooter_of_readable truncate payload readable
    rw [removed] at read
    refine ⟨read, ?_⟩
    rw [run_readFooterInto buffer truncate payload, read]
  · obtain ⟨e, -, refused⟩ := readFooter_of_not_readable truncate unreadable
    refine ⟨e, refused, ?_⟩
    rw [run_readFooterInto buffer truncate payload, refused]
  · rw [← UInt32.toNat_inj, without.sound.footerSize, without.holds.footer]
    rfl
  · have none : align ByteArray.empty.size = 0 := by decide
    rw [Message.size, without.contentSize, none, ← logged.size_payload, Nat.add_zero]

/-- A footer is removed between two fields, and another one is written. -/
def footnoted : List Edit :=
  [.write (.u32 7), .writeFooter ⟨#[1, 2]⟩, .readFooter ⟨#[0, 0, 9]⟩ true, .writeFooter ⟨#[3]⟩,
    .write (.bytes ⟨#[4, 5]⟩), .writeFooter ⟨#[6]⟩]

/-- The same edits, but the fields are written last. -/
def footnotedFirst : List Edit :=
  [.writeFooter ⟨#[1, 2]⟩, .readFooter ⟨#[0, 0, 9]⟩ true, .writeFooter ⟨#[3]⟩, .writeFooter ⟨#[6]⟩,
    .write (.u32 7), .write (.bytes ⟨#[4, 5]⟩)]

/-- The bytes are the same, and what is left of the footer is read into the beginning of a
buffer. -/
theorem logs_apart_footnoted :
    let new := addressed 1 2 {}
    let m := new.edited footnoted
    new.New ∧ Edit.Fit footnoted ∧ (new.edited footnotedFirst).encode = m.encode ∧
      m.payload = ⟨#[7, 0, 0, 0, 4, 5, 0, 0]⟩ ∧ m.footer = ⟨#[3, 6]⟩ ∧
      (readFooterInto true).run (m, ⟨#[8, 8, 8]⟩) =
        .ok () (new.edited [.write (.u32 7), .write (.bytes ⟨#[4, 5]⟩)], ⟨#[3, 6, 8]⟩) := by
  intro new m
  have made : new.New := .addressed 1 2 {}
  have fit : Edit.Fit footnoted := by decide
  obtain ⟨-, fields, portions, same, read, -⟩ := logs_apart made fit
  have footer : m.footer = ⟨#[3, 6]⟩ := by
    rw [portions]
    decide
  have payload : m.payload = ⟨#[7, 0, 0, 0, 4, 5, 0, 0]⟩ := by
    rw [fields]
    decide
  have readable : Edit.Readable m.footer ⟨#[8, 8, 8]⟩ := by
    rw [footer]
    decide
  have copied := ((read ⟨#[8, 8, 8]⟩ true).1 readable).2
  refine ⟨made, fit, (same footnotedFirst rfl rfl (by decide)).2, payload, footer, ?_⟩
  rw [copied, footer]
  rfl

end Message

end Interprocess
