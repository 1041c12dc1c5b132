import Interprocess.Proofs.Channel.Passage
import Interprocess.Proofs.Message.Places

/-!
# What was read is written again

Whatever the bytes of a payload are, the fields that were read from it stand there: each one begins
where the one before it ends, and its bytes are those that are written for it, but for the bytes
that fill it up (`Reader.stand_of_read`). Two payloads in which the same fields stand so differ in
these bytes only. As a new payload is filled up with zeros, this says what comes of writing the
fields again, and that is the main statement, `Message.rewritten`.
-/

set_option autoImplicit false

namespace Interprocess

namespace Field

/-! ## Fields at their places -/

/-- What a field takes are its bytes, filled up. -/
theorem image_eq (h p : Nat) (f : Field) : f.image h p = filled (f.row h p) := by
  -- only the number before the bytes keeps the two from being the same by definition
  have counted (n : Nat) (bs : ByteArray) :
      filled (wordRow (UInt32.ofNat n)) ++ filled bs = filled (wordRow (UInt32.ofNat n) ++ bs) := by
    have none : padding 4 = 0 := rfl
    have same : padding (4 + bs.size) = padding bs.size := by
      rw [padding, padding, align_eq, align_eq]
      omega
    rw [filled, filled, filled, ByteArray.size_append, size_wordRow, none, same]
    have nothing : zeros 0 = ByteArray.empty := rfl
    rw [nothing, ByteArray.append_empty, ByteArray.append_assoc]
  cases f with
  | data bs => exact counted bs.size bs
  | text s => exact counted (Utf8.encode s).size (Utf8.encode s)
  | u32 | i32 | u64 | i64 | bool | bytes | handle | port => rfl

/-- What a field takes is what its bytes take with what fills them up. -/
theorem width_eq (h p : Nat) (f : Field) : f.width = align (f.row h p).size := by
  rw [← size_image h p, image_eq, size_filled]

/-- A field without attachments. -/
def Plain (f : Field) : Prop := f.handles = [] ∧ f.ports = []

/-- Behind a field without attachments the slots are counted as before. -/
theorem images_cons_of_plain {f : Field} (plain : f.Plain) (fs : List Field) :
    images 0 0 (f :: fs) = filled (f.row 0 0) ++ images 0 0 fs := by
  rw [images, image_eq, plain.1, plain.2]
  rfl

/-- Fields with the places where they begin, one behind the other. -/
def placed (start : Nat) : List Field → List (Nat × Field)
  | [] => []
  | f :: fs => (start, f) :: placed (start + f.width) fs

/-- Whether the byte at a place only fills up one of some fields. -/
def Fills (start : Nat) (fs : List Field) (i : Nat) : Prop :=
  ∃ here ∈ placed start fs, here.1 + (here.2.row 0 0).size ≤ i ∧ i < here.1 + here.2.width

instance (start : Nat) (fs : List Field) (i : Nat) : Decidable (Fills start fs i) :=
  inferInstanceAs (Decidable (∃ here ∈ placed start fs, _ ∧ _))

/-- Whether some fields stand in a row of bytes, whatever fills them up. -/
def Stand (bs : ByteArray) (start : Nat) (fs : List Field) : Prop :=
  ∀ here ∈ placed start fs,
    bs.extract here.1 (here.1 + (here.2.row 0 0).size) = here.2.row 0 0

/-- A byte fills one of some fields up if it fills up the first one or one of the others. -/
theorem fills_cons {start i : Nat} {f : Field} {fs : List Field} :
    Fills start (f :: fs) i ↔
      (start + (f.row 0 0).size ≤ i ∧ i < start + f.width) ∨ Fills (start + f.width) fs i := by
  simp [Fills, placed]

/-- A byte that fills a field up lies between the first place and the end of all fields. -/
theorem Fills.bounds {start i : Nat} {fs : List Field} (fills : Fills start fs i) :
    start ≤ i ∧ i < start + (fs.map width).sum := by
  induction fs generalizing start with
  | nil => simp [Fills, placed] at fills
  | cons f fs ih =>
    rw [List.map_cons, List.sum_cons]
    rcases fills_cons.1 fills with ⟨above, below⟩ | later
    · omega
    · have := ih later
      omega

/-- What lies at a place of a row of bytes that is filled up. -/
theorem getElem?_filled (bs : ByteArray) (i : Nat) :
    (filled bs).data[i]? =
      if i < bs.size then bs.data[i]? else if i < align bs.size then some 0 else none := by
  rw [filled, ByteArray.data_append]
  by_cases inside : i < bs.size
  · rw [if_pos inside, Array.getElem?_append_left inside]
  · have total := add_padding bs.size
    rw [if_neg inside, Array.getElem?_append_right (Nat.le_of_not_lt inside), zeros,
      List.data_toByteArray, List.getElem?_toArray, List.getElem?_replicate, ByteArray.size_data]
    have same : i - bs.size < padding bs.size ↔ i < align bs.size := by omega
    simp only [same]

/-- What lies in a part of a row of bytes. -/
theorem getElem?_of_extract {bs part : ByteArray} {start i : Nat}
    (row : bs.extract start (start + part.size) = part) (inside : i < part.size) :
    part.data[i]? = bs.data[start + i]? := by
  have size : min (start + part.size) bs.size - start = part.size := by
    rw [← ByteArray.size_extract, row]
  have whole : i < min (start + part.size) bs.data.size - start := by
    rw [ByteArray.size_data]
    omega
  have part_at : part.data[i]? = (bs.extract start (start + part.size)).data[i]? := by rw [row]
  rw [part_at, ByteArray.data_extract, Array.getElem?_extract, if_pos whole]

/-- Where fields stand in a row of bytes, that row and what is written for the fields differ only
where they are filled up. -/
theorem Stand.images_at {bs : ByteArray} {start : Nat} {fs : List Field} (stand : Stand bs start fs)
    (plain : ∀ f ∈ fs, f.Plain) {i : Nat} (inside : i < (fs.map width).sum) :
    (Fills start fs (start + i) → (images 0 0 fs).data[i]? = some 0) ∧
      (¬ Fills start fs (start + i) → (images 0 0 fs).data[i]? = bs.data[start + i]?) := by
  induction fs generalizing start i with
  | nil => simp at inside
  | cons f fs ih =>
    have row : bs.extract start (start + (f.row 0 0).size) = f.row 0 0 :=
      stand (start, f) List.mem_cons_self
    have others : Stand bs (start + f.width) fs := fun here mem =>
      stand here (List.mem_cons_of_mem _ mem)
    rw [images_cons_of_plain (plain f List.mem_cons_self), ByteArray.data_append]
    have size : (filled (f.row 0 0)).data.size = f.width := by
      rw [ByteArray.size_data, size_filled, ← width_eq]
    have within : (f.row 0 0).size ≤ f.width := by
      rw [width_eq 0 0 f]
      exact le_align _
    -- a place lies in the first field, in what fills it up, or in one of the others
    by_cases own : i < f.width
    · have elsewhere : ¬ Fills (start + f.width) fs (start + i) := fun fills => by
        have := fills.bounds
        omega
      rw [Array.getElem?_append_left (by rwa [size]), getElem?_filled, ← width_eq]
      by_cases core : i < (f.row 0 0).size
      · refine ⟨fun fills => ?_, fun _ => ?_⟩
        · rcases fills_cons.1 fills with ⟨above, -⟩ | later
          · omega
          · exact absurd later elsewhere
        · rw [if_pos core, getElem?_of_extract row core]
      · rw [if_neg core, if_pos own]
        exact ⟨fun _ => rfl, fun none => absurd (fills_cons.2 (.inl (by omega))) none⟩
    · have later : Fills start (f :: fs) (start + i) ↔
          Fills (start + f.width) fs (start + f.width + (i - f.width)) := by
        have place : start + f.width + (i - f.width) = start + i := by omega
        rw [fills_cons, place]
        exact or_iff_right (by omega)
      rw [List.map_cons, List.sum_cons] at inside
      have rest := ih others (fun g mem => plain g (List.mem_cons_of_mem _ mem))
        (i := i - f.width) (by omega)
      have place : start + f.width + (i - f.width) = start + i := by omega
      rw [later, Array.getElem?_append_right (by rw [size]; omega), size, ← place]
      exact rest

end Field

namespace Reader

/-! ## Fields that were read -/

/-- A field without attachments is read where its bytes stand, and its width is passed over. -/
theorem plain_read {r s : Reader} {kind : Field.Kind} {f : Field}
    (plain : kind ≠ .handle ∧ kind ≠ .port) (read : kind.read.run r = .ok f s) :
    f.kind = kind ∧ f.Plain ∧ f.width ≤ r.remaining ∧ s = r.advance f.width ∧
      r.message.payload.extract r.place (r.place + (f.row 0 0).size) = f.row 0 0 := by
  have reads := (r.run_read_eq_iff kind _).1 read
  cases reads with
  | whole handles ports _ there row => exact ⟨rfl, ⟨handles, ports⟩, there, rfl, row⟩
  | handle => exact absurd rfl plain.1
  | port => exact absurd rfl plain.2

/-- Reads in a row succeed one by one. -/
theorem run_mapM_cons {kind : Field.Kind} {kinds : List Field.Kind} {fs : List Field} {r s : Reader}
    (read : ((kind :: kinds).mapM Field.Kind.read).run r = .ok fs s) :
    ∃ f gs t, fs = f :: gs ∧ kind.read.run r = .ok f t ∧
      (kinds.mapM Field.Kind.read).run t = .ok gs s := by
  rw [List.mapM_cons, EStateM.run_bind] at read
  cases first : kind.read.run r with
  | error e t =>
    rw [first] at read
    contradiction
  | ok f t =>
    rw [first] at read
    simp only [EStateM.run_bind] at read
    cases others : (kinds.mapM Field.Kind.read).run t with
    | error e u =>
      rw [others] at read
      contradiction
    | ok gs u =>
      rw [others] at read
      obtain ⟨rfl, rfl⟩ := EStateM.Result.ok.inj read
      exact ⟨f, gs, t, rfl, rfl, others⟩

/-- Fields that were read stand where the reader was. -/
theorem stand_of_read {kinds : List Field.Kind} {fs : List Field} {r s : Reader}
    (plain : ∀ kind ∈ kinds, kind ≠ .handle ∧ kind ≠ .port) (inside : r.place ≤ r.message.payload.size)
    (read : (kinds.mapM Field.Kind.read).run r = .ok fs s) :
    fs.map Field.kind = kinds ∧ (∀ f ∈ fs, f.Plain) ∧
      Field.Stand r.message.payload r.place fs ∧
      s.place = r.place + (fs.map Field.width).sum ∧ s.place ≤ r.message.payload.size := by
  induction kinds generalizing fs r with
  | nil =>
    obtain ⟨rfl, rfl⟩ := EStateM.Result.ok.inj read
    exact ⟨rfl, by simp, by simp [Field.Stand, Field.placed], rfl, inside⟩
  | cons kind kinds ih =>
    obtain ⟨f, gs, t, rfl, first, others⟩ := run_mapM_cons read
    obtain ⟨same, own, there, rfl, row⟩ := plain_read (plain kind List.mem_cons_self) first
    have within : r.place + f.width ≤ r.message.payload.size := by
      rw [remaining] at there
      omega
    obtain ⟨kinds, plains, stand, place, stop⟩ :=
      ih (fun kind later => plain kind (List.mem_cons_of_mem _ later)) within others
    refine ⟨by rw [List.map_cons, same, kinds], ?_, ?_, ?_, stop⟩
    · exact List.forall_mem_cons.2 ⟨own, plains⟩
    · exact List.forall_mem_cons.2 ⟨row, stand⟩
    · rw [place, List.map_cons, List.sum_cons, ← Nat.add_assoc]
      rfl

end Reader

namespace Message

/-- Fields without attachments are written to a new message if there is room for them. -/
theorem New.writeAll {new : Message} (made : new.New) {fs : List Field}
    (plain : ∀ f ∈ fs, f.Plain) (room : (fs.map Field.width).sum < wordLimit) :
    ∃ n, (Field.writeAll fs).run new = .ok () n ∧ n.payload = Field.images 0 0 fs := by
  have entries : Field.writeAll fs = Entry.writeAll (fs.map Entry.field) := by
    rw [Entry.writeAll, List.forM_eq_forM, List.forM_map]
    rfl
  have fields : Entry.allFields (fs.map Entry.field) = fs := by
    simp [Entry.allFields, List.flatMap_map, Entry.fields]
  have footer (gs : List Field) : Entry.wholeFooter (gs.map Entry.field) = ByteArray.empty := by
    induction gs with
    | nil => rfl
    | cons g gs ih =>
      rw [List.map_cons, Entry.wholeFooter_cons, ih]
      rfl
  have none : fs.flatMap Field.handles = [] := List.flatMap_eq_nil_iff.2 fun f mem => (plain f mem).1
  have roomy : (([] ++ Entry.allFields (fs.map Entry.field)).map Field.width).sum +
      align (ByteArray.empty ++ Entry.wholeFooter (fs.map Entry.field)).size < wordLimit := by
    have empty : align (ByteArray.empty ++ ByteArray.empty).size = 0 := by decide
    rw [fields, footer, empty]
    exact room
  have few : (([] ++ Entry.allFields (fs.map Entry.field)).flatMap Field.handles).length ≤
      descriptorLimit := by
    rw [fields, List.nil_append, none]
    exact Nat.zero_le _
  obtain ⟨n, written, holds, -⟩ := made.holds.writeAll made.built roomy few
  refine ⟨n, entries ▸ written, ?_⟩
  rw [holds.payload, fields, List.nil_append]

/-- No message that callers can come by has more bytes to be read than a header can announce. -/
theorem Built.place_lt_wordLimit {m : Message} (built : m.Built) {kinds : List Field.Kind}
    {fs : List Field} {r : Reader} (plain : ∀ kind ∈ kinds, kind ≠ .handle ∧ kind ≠ .port)
    (read : (kinds.mapM Field.Kind.read).run m.reader = .ok fs r) : r.place < wordLimit := by
  obtain ⟨-, -, -, -, stop⟩ := Reader.stand_of_read plain (Nat.zero_le _) read
  have content : m.contentSize < wordLimit := by
    rw [← built.sound.payloadSize]
    exact m.header.payloadSize.toNat_lt
  have stop : r.place ≤ m.payload.size := stop
  rw [contentSize] at content
  omega

/-- Fields without attachments that were read from the beginning of any payload are written to a new
message again. Their bytes have to be few enough for a header to announce them, as they always are
in a message that callers can come by (`Built.place_lt_wordLimit`). The new payload is as long as
what was read, and the same but for the bytes that fill up fields, which are zero now. So the two
are the same exactly if these bytes were zero before. All other bytes were those that are written
for the fields: the word of a truth value is zero or one, and a text is its number of bytes and its
encoding. -/
theorem rewritten {m new : Message} (made : new.New) {kinds : List Field.Kind} {fs : List Field}
    {r : Reader} (plain : ∀ kind ∈ kinds, kind ≠ .handle ∧ kind ≠ .port)
    (read : (kinds.mapM Field.Kind.read).run m.reader = .ok fs r) (room : r.place < wordLimit) :
    ∃ n, (Field.writeAll fs).run new = .ok () n ∧ fs.map Field.kind = kinds ∧
      n.payload.size = r.place ∧ r.place ≤ m.payload.size ∧
      (∀ i < r.place,
        (Field.Fills 0 fs i → n.payload.data[i]? = some 0) ∧
        (¬ Field.Fills 0 fs i → n.payload.data[i]? = m.payload.data[i]?)) ∧
      (n.payload = m.payload.extract 0 r.place ↔
        ∀ i, Field.Fills 0 fs i → m.payload.data[i]? = some 0) ∧
      ∀ here ∈ Field.placed 0 fs,
        m.payload.extract here.1 (here.1 + (here.2.row 0 0).size) = here.2.row 0 0 := by
  obtain ⟨same, plains, stand, place, stop⟩ := Reader.stand_of_read plain (Nat.zero_le _) read
  have stop : r.place ≤ m.payload.size := stop
  have place : r.place = (fs.map Field.width).sum := place.trans (Nat.zero_add _)
  obtain ⟨n, written, payload⟩ := made.writeAll plains (place ▸ room)
  have size : n.payload.size = r.place := by rw [payload, Field.size_images, place]
  have each (i : Nat) (inside : i < r.place) :
      (Field.Fills 0 fs i → n.payload.data[i]? = some 0) ∧
        (¬ Field.Fills 0 fs i → n.payload.data[i]? = m.payload.data[i]?) := by
    have at_place := stand.images_at plains (i := i) (place ▸ inside)
    have start : m.reader.place + i = i := Nat.zero_add i
    rw [payload]
    rwa [start] at at_place
  have front (i : Nat) (inside : i < r.place) :
      (m.payload.extract 0 r.place).data[i]? = m.payload.data[i]? := by
    have whole : i < min r.place m.payload.data.size - 0 := by
      rw [ByteArray.size_data, Nat.min_eq_left stop]
      exact inside
    rw [ByteArray.data_extract, Array.getElem?_extract, if_pos whole, Nat.zero_add]
  refine ⟨n, written, same, size, stop, each, ⟨fun whole i fills => ?_, fun zeroed => ?_⟩, stand⟩
  · have inside : i < r.place := by
      have := fills.bounds
      omega
    rw [← front i inside, ← whole]
    exact (each i inside).1 fills
  · apply ByteArray.ext
    apply Array.ext_getElem?
    intro i
    by_cases inside : i < r.place
    · rw [front i inside]
      by_cases fills : Field.Fills 0 fs i
      · rw [zeroed i fills, (each i inside).1 fills]
      · exact (each i inside).2 fills
    · have outside : r.place ≤ i := Nat.le_of_not_lt inside
      rw [Array.getElem?_eq_none (by rw [ByteArray.size_data, size]; exact outside),
        Array.getElem?_eq_none (by rw [ByteArray.size_data, ByteArray.size_extract]; omega)]

/-- A truth value, a text of two bytes and three more bytes. What fills the text up is not zero. -/
def untidy : Message :=
  { addressed 1 2 {} with payload := ⟨#[1, 0, 0, 0, 2, 0, 0, 0, 104, 105, 7, 7, 9, 9, 9, 0, 5]⟩ }

/-- All is written as it was, but for the two bytes behind the text. -/
theorem rewritten_untidy :
    let kinds : List Field.Kind := [.bool, .text, .bytes 3]
    let fs : List Field := [.bool true, .text "hi", .bytes ⟨#[9, 9, 9]⟩]
    (kinds.mapM Field.Kind.read).run untidy.reader = .ok fs (untidy.reader.advance 16) ∧
      ∃ n, (Field.writeAll fs).run (addressed 3 4 {}) = .ok () n ∧
        n.payload.size = 16 ∧ n.payload ≠ untidy.payload.extract 0 16 ∧
        n.payload.data[10]? = some 0 ∧ n.payload.data[8]? = some 104 := by
  intro kinds fs
  have read : (kinds.mapM Field.Kind.read).run untidy.reader = .ok fs (untidy.reader.advance 16) := by
    rfl
  obtain ⟨n, written, -, size, -, each, same, -⟩ :=
    rewritten (.addressed 3 4 {}) (by decide) read (by decide)
  have fills : Field.Fills 0 fs 10 := by decide
  refine ⟨read, n, written, size, fun unchanged => ?_, (each 10 (by decide)).1 fills, ?_⟩
  · have zero := same.1 unchanged 10 fills
    revert zero
    decide
  · exact ((each 8 (by decide)).2 (by decide)).trans rfl

end Message

end Interprocess
