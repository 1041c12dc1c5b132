import Interprocess.Proofs.Message.RoundTrip
import Mathlib.Algebra.GroupWithZero.Nat

/-!
# Fields in a payload

Each field takes a row of bytes in a payload, filled with zeros up to whole words; an attachment
takes the number of its slot. `images` is what a list of fields takes, counted from given slot
numbers on. Writing fields appends their images and fills the next slots (`Message.Holds.writeAll`),
with footers written in between. Reading them in the same order gives them back and empties these
slots (`Reader.Before.readAll`). The two halves meet only in the images and in the slots.
-/

set_option autoImplicit false

namespace Interprocess

/-! ## Rows of whole words -/

/-- A row of bytes, filled with zeros up to a whole word. -/
def filled (bs : ByteArray) : ByteArray := bs ++ zeros (padding bs.size)

/-- A row that is filled up has the size of whole words. -/
@[simp] theorem size_filled (bs : ByteArray) : (filled bs).size = align bs.size := by
  rw [filled, ByteArray.size_append, size_zeros, add_padding]

/-- The bytes of a 32-bit word. -/
def wordRow (x : UInt32) : ByteArray := (Word.bytes x).toByteArray

/-- The bytes of a 64-bit number. -/
def longRow (x : UInt64) : ByteArray := (Word.toBytes 8 x.toNat).toByteArray

/-- A word takes four bytes. -/
@[simp] theorem size_wordRow (x : UInt32) : (wordRow x).size = 4 := by
  simp [wordRow]

/-- A 64-bit number takes eight bytes. -/
@[simp] theorem size_longRow (x : UInt64) : (longRow x).size = 8 := by
  simp [longRow]

/-- Rounding up to whole words keeps the order of sizes. -/
theorem align_le {n k : Nat} (le : n ≤ k) : align n ≤ align k := by
  rw [align_eq, align_eq]
  omega

namespace Field

/-- The bytes that a field takes in a payload, its filling included. -/
def width : Field → Nat
  | u32 _ | i32 _ | bool _ | handle _ | port _ => 4
  | u64 _ | i64 _ => 8
  | bytes bs => align bs.size
  | data bs => 4 + align bs.size
  | text s => 4 + align (Utf8.encode s).size

/-- What a field takes in a payload whose next slots have these numbers. -/
def image (handles ports : Nat) : Field → ByteArray
  | u32 x => filled (wordRow x)
  | i32 x => filled (wordRow x.toUInt32)
  | u64 x => filled (longRow x)
  | i64 x => filled (longRow x.toUInt64)
  | bool b => filled (wordRow (if b then 1 else 0))
  | bytes bs => filled bs
  | data bs => filled (wordRow (UInt32.ofNat bs.size)) ++ filled bs
  | text s => filled (wordRow (UInt32.ofNat (Utf8.encode s).size)) ++ filled (Utf8.encode s)
  | handle _ => filled (wordRow (UInt32.ofNat handles))
  | port _ => filled (wordRow (UInt32.ofNat ports))

/-- The file handle that a field attaches. -/
def handles : Field → List Handle
  | handle h => [h]
  | _ => []

/-- The port that a field attaches. -/
def ports : Field → List Port
  | port p => [p]
  | _ => []

/-- A field takes as many bytes as its width says. -/
theorem size_image (h p : Nat) (f : Field) : (f.image h p).size = f.width := by
  cases f <;> simp [image, width] <;> rfl

/-- What fields take in a payload, one behind the other. -/
def images (h p : Nat) : List Field → ByteArray
  | [] => ByteArray.empty
  | f :: fs => f.image h p ++ images (h + f.handles.length) (p + f.ports.length) fs

/-- The images of two rows of fields lie one behind the other, and the slots of the second one are
counted on from the first. -/
theorem images_append (h p : Nat) (fs gs : List Field) :
    images h p (fs ++ gs) = images h p fs ++
      images (h + (fs.flatMap handles).length) (p + (fs.flatMap ports).length) gs := by
  induction fs generalizing h p with
  | nil => simp [images]
  | cons f fs ih => simp [images, ih, ByteArray.append_assoc, Nat.add_assoc]

/-- Fields take as many bytes as their widths say together. -/
theorem size_images (h p : Nat) (fs : List Field) :
    (images h p fs).size = (fs.map width).sum := by
  induction fs generalizing h p with
  | nil => rfl
  | cons f fs ih => simp [images, ih, size_image]

/-- Every attachment takes a word of the payload. -/
theorem attachments_le_width (fs : List Field) :
    4 * ((fs.flatMap handles).length + (fs.flatMap ports).length) ≤ (fs.map width).sum := by
  induction fs with
  | nil => simp
  | cons f fs ih =>
    have one : 4 * (f.handles.length + f.ports.length) ≤ f.width := by
      cases f <;> simp [handles, ports, width]
    simp only [List.flatMap_cons, List.length_append, List.map_cons, List.sum_cons]
    omega

end Field

/-- A full row has a slot for each of the things that it holds. -/
theorem Slots.size_of_full {α : Type} {s : Slots α} {as : List α} (full : s.toList = as.map some) :
    s.size = as.length := by
  rw [← length_toList, full, List.length_map]

namespace Message

/-! ## Writing -/

/-- A message whose payload has grown by some bytes. Only the sizes in its header are new
besides. -/
structure Grown (m : Message) (bs : ByteArray) (n : Message) : Prop where
  payload : n.payload = m.payload ++ bs
  footer : n.footer = m.footer
  attachments : n.attachments = m.attachments
  handleCount : n.header.handleCount = m.header.handleCount

/-- A payload that has grown twice has grown by both rows of bytes. -/
theorem Grown.trans {m n o : Message} {bs cs : ByteArray} (first : Grown m bs n)
    (second : Grown n cs o) : Grown m (bs ++ cs) o where
  payload := by rw [second.payload, first.payload, ByteArray.append_assoc]
  footer := second.footer.trans first.footer
  attachments := second.attachments.trans first.attachments
  handleCount := second.handleCount.trans first.handleCount

/-- The content grows by whole words. -/
theorem contentSize_extended (m : Message) (bs : ByteArray) :
    (m.extended bs).contentSize = m.contentSize + align bs.size := by
  have footer : (m.extended bs).footer = m.footer := rfl
  rw [contentSize, contentSize, size_payload_extended, footer]
  omega

/-- A message with more content and sizes brought up to date has grown by these bytes with their
filling. -/
theorem grown_extended (m : Message) (bs : ByteArray) :
    Grown m (filled bs) (m.extended bs).withSizes :=
  ⟨ByteArray.append_assoc, rfl, rfl, rfl⟩

/-- Bytes are written if there is room for them and for what fills them up. -/
theorem grown_writeAligned {m : Message} {bs : ByteArray}
    (room : m.contentSize + align bs.size < wordLimit) :
    ∃ n, (writeAligned bs).run m = .ok () n ∧ Grown m (filled bs) n := by
  refine ⟨(m.extended bs).withSizes, ?_, grown_extended m bs⟩
  rw [run_writeAligned, contentSize_extended, if_pos room]

/-- Bytes are written behind their length if there is room for both. -/
theorem grown_writeData {m : Message} {bs : ByteArray}
    (room : m.contentSize + (4 + align bs.size) < wordLimit) :
    ∃ n, (writeData bs).run m = .ok () n ∧
      Grown m (filled (wordRow (UInt32.ofNat bs.size)) ++ filled bs) n := by
  have countable : bs.size < wordLimit := by
    have := le_align bs.size
    omega
  have four : align (wordRow (UInt32.ofNat bs.size)).size = 4 := by rw [size_wordRow]; rfl
  obtain ⟨n, counted, first⟩ :=
    @grown_writeAligned m (wordRow (UInt32.ofNat bs.size)) (by omega)
  have content : n.contentSize = m.contentSize + 4 := by
    rw [contentSize, contentSize, first.payload, first.footer, ByteArray.size_append, size_filled,
      four]
    omega
  obtain ⟨o, written, second⟩ := @grown_writeAligned n bs (by omega)
  refine ⟨o, ?_, first.trans second⟩
  unfold writeData
  rw [EStateM.run_bind, run_liftNarrow, if_pos countable]
  show ((writeAligned (wordRow (UInt32.ofNat bs.size))) >>= fun _ => writeAligned bs).run m = _
  rw [EStateM.run_bind, counted]
  exact written

/-- A message that holds these fields and this footer, and announces its file handles. -/
structure Holds (m : Message) (fs : List Field) (footer : ByteArray) : Prop where
  payload : m.payload = Field.images 0 0 fs
  footer : m.footer = footer
  handles : m.attachments.handles.toList = (fs.flatMap Field.handles).map some
  ports : m.attachments.ports.toList = (fs.flatMap Field.ports).map some
  handleCount : m.header.handleCount.toNat = (fs.flatMap Field.handles).length

/-- A message has a slot for each handle of its fields. -/
theorem Holds.handleSlots {m : Message} {fs : List Field} {footer : ByteArray}
    (holds : m.Holds fs footer) : m.handleSlots = (fs.flatMap Field.handles).length :=
  Slots.size_of_full holds.handles

/-- A message has a slot for each port of its fields. -/
theorem Holds.portSlots {m : Message} {fs : List Field} {footer : ByteArray}
    (holds : m.Holds fs footer) : m.portSlots = (fs.flatMap Field.ports).length :=
  Slots.size_of_full holds.ports

/-- The payload of a message that holds one more field. -/
theorem Holds.payload_append {m : Message} {fs : List Field} {footer : ByteArray}
    (holds : m.Holds fs footer) (f : Field) :
    m.payload ++ f.image m.handleSlots m.portSlots = Field.images 0 0 (fs ++ [f]) := by
  rw [Field.images_append, holds.payload, holds.handleSlots, holds.portSlots, Nat.zero_add,
    Nat.zero_add]
  simp [Field.images]

/-- A field without attachments is held as soon as its bytes are written. -/
theorem Holds.grown {m n : Message} {fs : List Field} {footer : ByteArray} {f : Field}
    (holds : m.Holds fs footer) (handles : f.handles = []) (ports : f.ports = [])
    (grown : Grown m (f.image m.handleSlots m.portSlots) n) : n.Holds (fs ++ [f]) footer where
  payload := grown.payload.trans (holds.payload_append f)
  footer := grown.footer.trans holds.footer
  handles := by simp [grown.attachments, holds.handles, handles]
  ports := by simp [grown.attachments, holds.ports, ports]
  handleCount := by simp [grown.handleCount, holds.handleCount, handles]

/-- A field without attachments that is written as one row of bytes is held if there is room for
it. -/
theorem Holds.write_row {m : Message} {fs : List Field} {footer : ByteArray} {f : Field}
    (holds : m.Holds fs footer) (bs : ByteArray) (write : f.write = writeAligned bs)
    (image : ∀ h p, f.image h p = filled bs) (handles : f.handles = []) (ports : f.ports = [])
    (room : m.contentSize + f.width < wordLimit) :
    ∃ n, f.write.run m = .ok () n ∧ n.Holds (fs ++ [f]) footer := by
  rw [← Field.size_image 0 0, image, size_filled] at room
  obtain ⟨n, written, grown⟩ := grown_writeAligned room
  rw [← image] at grown
  exact ⟨n, by rw [write, written], holds.grown handles ports grown⟩

/-- A handle is written if there is room for its number and a slot for it. -/
theorem Holds.write_handle {m : Message} {fs : List Field} {footer : ByteArray}
    (holds : m.Holds fs footer) (h : Handle) (room : m.contentSize + 4 < wordLimit)
    (few : m.handleSlots + 1 ≤ descriptorLimit) :
    ∃ n, (writeHandle h).run m = .ok () n ∧ n.Holds (fs ++ [.handle h]) footer := by
  have free : ¬ m.handleSlots ≥ descriptorLimit := Nat.not_le.2 few
  have grown := grown_extended m (wordRow (UInt32.ofNat m.handleSlots))
  have fits : (m.extended (wordRow (UInt32.ofNat m.handleSlots))).contentSize < wordLimit := by
    rw [contentSize_extended, size_wordRow]
    exact room
  refine ⟨(m.extended (wordRow (UInt32.ofNat m.handleSlots))).withSizes.withHandle h, ?_, ?_⟩
  · rw [run_writeHandle]
    simp only [if_neg free]
    exact if_pos fits
  · refine ⟨grown.payload.trans (holds.payload_append (.handle h)), holds.footer, ?_, ?_, ?_⟩
    · show (m.attachments.handles.push h).toList = _
      simp [holds.handles, Field.handles]
    · show m.attachments.ports.toList = _
      simp [holds.ports, Field.ports]
    · show (UInt32.ofNat (m.handleSlots + 1)).toNat = _
      rw [toNat_ofNat_of_le_descriptorLimit few, holds.handleSlots]
      simp [Field.handles]

/-- A port is written if there is room for its number. -/
theorem Holds.write_port {m : Message} {fs : List Field} {footer : ByteArray}
    (holds : m.Holds fs footer) (p : Port) (room : m.contentSize + 4 < wordLimit) :
    ∃ n, (writePort p).run m = .ok () n ∧ n.Holds (fs ++ [.port p]) footer := by
  -- there are never more slots than words in the payload
  have countable : m.portSlots < wordLimit := by
    have slots := Field.attachments_le_width fs
    rw [← holds.portSlots, ← Field.size_images 0 0, ← holds.payload] at slots
    rw [contentSize] at room
    omega
  have grown := grown_extended m (wordRow (UInt32.ofNat m.portSlots))
  have fits : (m.extended (wordRow (UInt32.ofNat m.portSlots))).contentSize < wordLimit := by
    rw [contentSize_extended, size_wordRow]
    exact room
  refine ⟨(m.extended (wordRow (UInt32.ofNat m.portSlots))).withSizes.withPort p, ?_, ?_⟩
  · rw [run_writePort]
    simp only [if_pos countable]
    exact if_pos fits
  · refine ⟨grown.payload.trans (holds.payload_append (.port p)), holds.footer, ?_, ?_, ?_⟩
    · show m.attachments.handles.toList = _
      simp [holds.handles, Field.handles]
    · show (m.attachments.ports.push p).toList = _
      simp [holds.ports, Field.ports]
    · show m.header.handleCount.toNat = _
      simp [holds.handleCount, Field.handles]

/-- A field is written if there is room for it, and a slot if it is a file handle. -/
theorem Holds.write {m : Message} {fs : List Field} {footer : ByteArray} {f : Field}
    (holds : m.Holds fs footer) (room : m.contentSize + f.width < wordLimit)
    (few : m.handleSlots + f.handles.length ≤ descriptorLimit) :
    ∃ n, f.write.run m = .ok () n ∧ n.Holds (fs ++ [f]) footer := by
  cases f with
  | u32 x => exact holds.write_row (wordRow x) rfl (fun _ _ => rfl) rfl rfl room
  | i32 x => exact holds.write_row (wordRow x.toUInt32) rfl (fun _ _ => rfl) rfl rfl room
  | u64 x => exact holds.write_row (longRow x) rfl (fun _ _ => rfl) rfl rfl room
  | i64 x => exact holds.write_row (longRow x.toUInt64) rfl (fun _ _ => rfl) rfl rfl room
  | bool b =>
    exact holds.write_row (wordRow (if b then 1 else 0)) rfl (fun _ _ => rfl) rfl rfl room
  | bytes bs => exact holds.write_row bs rfl (fun _ _ => rfl) rfl rfl room
  | data bs =>
    obtain ⟨n, written, grown⟩ := grown_writeData room
    exact ⟨n, written, holds.grown rfl rfl grown⟩
  | text s =>
    obtain ⟨n, written, grown⟩ := grown_writeData room
    exact ⟨n, written, holds.grown rfl rfl grown⟩
  | handle h => exact holds.write_handle h room few
  | port p => exact holds.write_port p room

/-- More bytes are added to the footer if there is room for them. -/
theorem Holds.writeFooter {m : Message} {fs : List Field} {footer bs : ByteArray}
    (holds : m.Holds fs footer)
    (room : m.payload.size + align (m.footer.size + bs.size) < wordLimit) :
    ∃ n, (writeFooter bs).run m = .ok () n ∧ n.Holds fs (footer ++ bs) := by
  rw [run_writeFooter]
  by_cases nothing : bs.isEmpty
  · obtain rfl : bs = ByteArray.empty := by simpa [ByteArray.isEmpty] using nothing
    refine ⟨m, if_pos nothing, ?_⟩
    rw [ByteArray.append_empty]
    exact holds
  · have fits : (m.withFooter bs).contentSize < wordLimit := by
      show m.payload.size + align (m.footer ++ bs).size < wordLimit
      rw [ByteArray.size_append]
      exact room
    refine ⟨(m.withFooter bs).withSizes, by rw [if_neg nothing, if_pos fits], ?_⟩
    refine ⟨holds.payload, ?_, holds.handles, holds.ports, holds.handleCount⟩
    show m.footer ++ bs = _
    rw [holds.footer]

end Message

/-! ## Fields and footers -/

/-- What is added to a message: a field to its payload, or bytes to its footer. -/
inductive Entry
  | field (f : Field)
  | footer (bs : ByteArray)

namespace Entry

/-- The operation that adds an entry. -/
def operation : Entry → Message.Operation
  | field f => .write f
  | footer bs => .writeFooter bs

/-- Adds an entry to a message. -/
def write : Entry → MessageM Unit
  | field f => f.write
  | footer bs => Message.writeFooter bs

/-- Adds entries one after the other, up to the first that is refused. -/
def writeAll (es : List Entry) : MessageM Unit :=
  es.forM write

/-- The field of an entry, if it is one. -/
def fields : Entry → List Field
  | field f => [f]
  | footer _ => []

/-- The bytes that an entry adds to the footer. -/
def footerBytes : Entry → ByteArray
  | field _ => ByteArray.empty
  | footer bs => bs

/-- The fields among some entries. -/
def allFields (es : List Entry) : List Field := es.flatMap fields

/-- The bytes that some entries add to the footer. -/
def wholeFooter (es : List Entry) : ByteArray := concat (es.map footerBytes)

/-- The field of the first entry comes first. -/
@[simp] theorem allFields_cons (e : Entry) (es : List Entry) :
    allFields (e :: es) = e.fields ++ allFields es := rfl

/-- The footer begins with what the first entry adds to it. -/
@[simp] theorem wholeFooter_cons (e : Entry) (es : List Entry) :
    wholeFooter (e :: es) = e.footerBytes ++ wholeFooter es := rfl

/-- After an entry that was added, the others are added. -/
theorem run_writeAll_cons {e : Entry} {es : List Entry} {m n : Message}
    (written : e.write.run m = .ok () n) : (writeAll (e :: es)).run m = (writeAll es).run n := by
  show (e.write >>= fun _ => writeAll es).run m = _
  rw [EStateM.run_bind, written]

/-- Adding an entry to a message that callers can come by gives another one. -/
theorem built_write {m n : Message} {e : Entry} (built : m.Built)
    (written : e.write.run m = .ok () n) : n.Built := by
  have after : e.operation.run m = (none, n) := by
    cases e with
    | field f =>
      have written : f.write.run m = .ok () n := written
      simp only [operation, Message.Operation.run, written, refusal, leaving]
    | footer bs =>
      have written : (Message.writeFooter bs).run m = .ok () n := written
      simp only [operation, Message.Operation.run, written, refusal, leaving]
  have step := built.step e.operation (by rw [after]; simp)
  rwa [after] at step

end Entry

namespace Message

/-- An entry is added if there is room for what the message then holds, and a slot for each
handle. -/
theorem Holds.add {m : Message} {fs : List Field} {footer : ByteArray} {e : Entry}
    (holds : m.Holds fs footer)
    (room : ((fs ++ e.fields).map Field.width).sum + align (footer ++ e.footerBytes).size <
      wordLimit)
    (few : ((fs ++ e.fields).flatMap Field.handles).length ≤ descriptorLimit) :
    ∃ n, e.write.run m = .ok () n ∧ n.Holds (fs ++ e.fields) (footer ++ e.footerBytes) := by
  have size : m.payload.size = (fs.map Field.width).sum := by
    rw [holds.payload, Field.size_images]
  cases e with
  | field f =>
    simp only [Entry.fields, Entry.footerBytes, List.map_append, List.sum_append, List.map_cons,
      List.map_nil, List.sum_cons, List.sum_nil, List.flatMap_append, List.flatMap_cons,
      List.flatMap_nil, List.append_nil, List.length_append, ByteArray.append_empty] at room few ⊢
    apply holds.write
    · rw [contentSize, size, holds.footer]
      omega
    · rw [holds.handleSlots]
      exact few
  | footer bs =>
    simp only [Entry.fields, Entry.footerBytes, List.append_nil, ByteArray.size_append] at room ⊢
    apply holds.writeFooter
    rw [size, holds.footer]
    exact room

/-- Entries are added in any order if there is room for all of them, and a slot for each file
handle. -/
theorem Holds.writeAll {m : Message} {fs : List Field} {footer : ByteArray} {es : List Entry}
    (holds : m.Holds fs footer) (built : m.Built)
    (room : ((fs ++ Entry.allFields es).map Field.width).sum +
      align (footer ++ Entry.wholeFooter es).size < wordLimit)
    (few : ((fs ++ Entry.allFields es).flatMap Field.handles).length ≤ descriptorLimit) :
    ∃ n, (Entry.writeAll es).run m = .ok () n ∧
      n.Holds (fs ++ Entry.allFields es) (footer ++ Entry.wholeFooter es) ∧ n.Built := by
  -- what is held grows from the front, so the sums over all entries never change
  induction es generalizing m fs footer with
  | nil =>
    refine ⟨m, rfl, ?_, built⟩
    simpa [Entry.allFields, Entry.wholeFooter] using holds
  | cons e es ih =>
    simp only [Entry.allFields_cons, Entry.wholeFooter_cons, ← List.append_assoc,
      ← ByteArray.append_assoc] at room few ⊢
    have sooner : ((fs ++ e.fields).map Field.width).sum + align (footer ++ e.footerBytes).size <
        wordLimit := by
      have le := align_le (Nat.le_add_right (footer ++ e.footerBytes).size
        (Entry.wholeFooter es).size)
      rw [List.map_append, List.sum_append, ByteArray.size_append] at room
      omega
    have fewer : ((fs ++ e.fields).flatMap Field.handles).length ≤ descriptorLimit := by
      rw [List.flatMap_append, List.length_append] at few
      omega
    obtain ⟨n, written, held⟩ := holds.add sooner fewer
    obtain ⟨o, run, all⟩ := ih held (Entry.built_write built written) room few
    exact ⟨o, (Entry.run_writeAll_cons written).trans run, all⟩

end Message

end Interprocess
