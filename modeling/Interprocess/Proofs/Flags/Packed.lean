import Interprocess.Proofs.Message.Grammar

/-!
# Flags kept as one word

A program may keep flags as the word that they are written as, and read and set them through masks.
`Packed` is this form, and reading a level or a priority off it may find none. Nothing but the word
is there to keep the fields apart, so each operation is compared with the one on `Flags`: a mark
that is put on or taken off changes its own place of the word only (`Packed.toNat_put`), and what is
packed is unpacked again. So a level and a priority are always found, and words are accepted for the
same flags and refused for the same reason.
-/

set_option autoImplicit false

namespace Interprocess.Flags

/-- The single bits of the word. -/
inductive Mark
  | sync
  | reply
  | replyError
  | lazySend
  | compress
  | compressAll
  | constructor
  | relay
deriving DecidableEq, Repr

/-- The number of a bit. -/
def Mark.index : Mark → Nat
  | sync => 5
  | reply => 6
  | replyError => 7
  | lazySend => 8
  | compress => 9
  | compressAll => 10
  | constructor => 11
  | relay => 12

/-- The word in which only the bit of a mark is set. -/
def Mark.mask (k : Mark) : UInt32 := UInt32.ofNat (2 ^ k.index)

/-- Whether flags bear a mark. -/
def bears (f : Flags) : Mark → Bool
  | .sync => f.sync
  | .reply => f.reply
  | .replyError => f.replyError
  | .lazySend => f.lazySend
  | .compress => f.compression = .enabled
  | .compressAll => f.compression = .all
  | .constructor => f.constructor
  | .relay => f.relay

/-- Puts a mark on or takes it off. The two marks of a compression are no marks of their own. -/
def mark (f : Flags) (k : Mark) (on : Bool) : Flags :=
  match k with
  | .sync => { f with sync := on }
  | .reply => { f with reply := on }
  | .replyError => { f with replyError := on }
  | .lazySend => { f with lazySend := on }
  | .constructor => { f with constructor := on }
  | .relay => { f with relay := on }
  | .compress | .compressAll => f

/-- Flags in the form of one word. -/
structure Packed where
  word : UInt32
deriving DecidableEq

/-- The word of flags. -/
def packed (f : Flags) : Packed := ⟨f.bits⟩

namespace Packed

/-- Whether all bits of a mask are set. -/
def contains (p : Packed) (mask : UInt32) : Bool := p.word &&& mask = mask

/-- Sets all bits of a mask. -/
def insert (p : Packed) (mask : UInt32) : Packed := ⟨p.word ||| mask⟩

/-- Clears all bits of a mask. -/
def remove (p : Packed) (mask : UInt32) : Packed := ⟨p.word &&& ~~~mask⟩

/-- Whether the bit of a mark is set. -/
def has (p : Packed) (k : Mark) : Bool := p.contains k.mask

/-- Puts a mark on or takes it off. -/
def put (p : Packed) (k : Mark) (on : Bool) : Packed :=
  if on then p.insert k.mask else p.remove k.mask

/-- The level of a word, if its number is that of a level. -/
def level? (p : Packed) : Option Level := Level.ofNumber? (p.word &&& 0x3).toNat

/-- The priority of a word, if its number is that of a priority. -/
def priority? (p : Packed) : Option Priority :=
  Priority.ofNumber? ((p.word &&& 0x1C) >>> 2).toNat

/-- The compression that the two marks for it say; the first one counts if both are set. -/
def compression (p : Packed) : Compression :=
  if p.has .compress then .enabled else if p.has .compressAll then .all else .none

/-- The word of a level alone. -/
def ofLevel (l : Level) : Packed := ⟨UInt32.ofNat l.number⟩

/-- The word of a level and a priority alone. -/
def ofNumbers (level : Level) (priority : Priority) : Packed :=
  ⟨UInt32.ofNat level.number ||| UInt32.ofNat priority.number <<< 2⟩

/-- Sets the mark of a compression. -/
def compress (p : Packed) : Compression → Packed
  | .none => p
  | .enabled => p.insert Mark.compress.mask
  | .all => p.insert Mark.compressAll.mask

/-- The word of a level, a priority, a compression and four marks. -/
def new (level : Level) (priority : Priority) (compression : Compression)
    (lazySend constructor sync reply : Bool) : Packed :=
  (((((ofNumbers level priority).compress compression).put .lazySend lazySend).put
    .constructor constructor).put .sync sync).put .reply reply

/-- The flags that a word is, checked field by field. -/
def ofWord (word : UInt32) : Except BitsError Packed :=
  let p : Packed := ⟨word⟩
  if word &&& 0x1FFF ≠ word then .error (.unknownBits word)
  else if p.level? = none then .error (.invalidLevel word)
  else if p.priority? = none then .error (.invalidPriority word)
  else if p.contains (Mark.compress.mask ||| Mark.compressAll.mask) then
    .error (.conflictingCompression word)
  else .ok p

/-! ## Single bits -/

/-- All marks lie within the word. -/
theorem two_pow_index_lt (k : Mark) : 2 ^ k.index < 2 ^ 32 := by
  cases k <;> decide

/-- The mask of a mark is the power of two of its index. -/
theorem toNat_mask (k : Mark) : k.mask.toNat = 2 ^ k.index :=
  UInt32.toNat_ofNat_of_lt' (two_pow_index_lt k)

/-- Masking a word with a mark leaves its bit alone. -/
theorem toNat_and_mask (word : UInt32) (k : Mark) :
    (word &&& k.mask).toNat = (marked word (2 ^ k.index)).toNat * 2 ^ k.index := by
  rw [UInt32.toNat_and, toNat_mask, Nat.and_two_pow, marked, Nat.testBit_eq_decide_div_mod_eq]

/-- A mark is set exactly if its bit is. -/
theorem has_eq (p : Packed) (k : Mark) : p.has k = marked p.word (2 ^ k.index) := by
  have positive : 0 < 2 ^ k.index := Nat.two_pow_pos k.index
  rw [has, contains, Bool.eq_iff_iff, decide_eq_true_eq, ← UInt32.toNat_inj, toNat_and_mask,
    toNat_mask]
  cases marked p.word (2 ^ k.index) with
  | false => simp [positive.ne]
  | true => simp

/-- Words without a common bit are added by joining them. -/
theorem toNat_or_of_disjoint {a b : UInt32} (disjoint : a &&& b = 0) :
    (a ||| b).toNat = a.toNat + b.toNat := by
  have bits : a.toBitVec &&& b.toBitVec = 0#32 := congrArg UInt32.toBitVec disjoint
  have sum := BitVec.toNat_add_of_and_eq_zero bits
  rw [BitVec.add_eq_or_of_and_eq_zero _ _ bits] at sum
  exact sum

/-- What stays of a word has no bit in common with the mask that it was cleared by. -/
theorem remove_and_mask (word mask : UInt32) : (word &&& ~~~mask) &&& mask = 0 := by
  rw [UInt32.and_assoc, UInt32.not_and_self, UInt32.and_zero]

/-- Setting bits adds their mask to the word without them. -/
theorem toNat_or_mask (word mask : UInt32) :
    (word ||| mask).toNat = (word &&& ~~~mask).toNat + mask.toNat := by
  have whole : (word &&& ~~~mask) ||| mask = word ||| mask := by
    apply UInt32.eq_of_toBitVec_eq
    ext i
    simp only [UInt32.toBitVec_and, UInt32.toBitVec_or, UInt32.toBitVec_not, BitVec.getElem_and,
      BitVec.getElem_or, BitVec.getElem_not]
    cases word.toBitVec[i] <;> cases mask.toBitVec[i] <;> rfl
  rw [← toNat_or_of_disjoint (remove_and_mask word mask), whole]

/-- What is cleared by a mask and what stays make up the word. -/
theorem toNat_remove_add (word mask : UInt32) :
    (word &&& ~~~mask).toNat + (word &&& mask).toNat = word.toNat := by
  have disjoint : (word &&& ~~~mask) &&& (word &&& mask) = 0 := by
    rw [UInt32.and_comm word mask, ← UInt32.and_assoc, remove_and_mask, UInt32.zero_and]
  have whole : (word &&& ~~~mask) ||| (word &&& mask) = word := by
    apply UInt32.eq_of_toBitVec_eq
    ext i
    simp only [UInt32.toBitVec_and, UInt32.toBitVec_or, UInt32.toBitVec_not, BitVec.getElem_and,
      BitVec.getElem_or, BitVec.getElem_not]
    cases word.toBitVec[i] <;> cases mask.toBitVec[i] <;> rfl
  rw [← toNat_or_of_disjoint disjoint, whole]

/-- A mark that is put on or taken off changes its own place of the word, and nothing else. -/
theorem toNat_put (p : Packed) (k : Mark) (on : Bool) :
    (p.put k on).word.toNat + (p.has k).toNat * 2 ^ k.index =
      p.word.toNat + on.toNat * 2 ^ k.index := by
  have split := toNat_remove_add p.word k.mask
  rw [toNat_and_mask] at split
  rw [has_eq]
  cases on with
  | false =>
    simp only [put, remove, Bool.false_eq_true, if_false, Bool.toNat_false]
    omega
  | true =>
    have joined := toNat_or_mask p.word k.mask
    rw [toNat_mask] at joined
    simp only [put, insert, if_true, Bool.toNat_true]
    omega

/-- A word has the marks that its flags bear. -/
theorem has_packed (f : Flags) (k : Mark) : f.packed.has k = f.bears k := by
  obtain ⟨sync, reply, replyError, lazySend, constructor, relay⟩ := marked_bits f
  obtain ⟨enabled, all⟩ := marked_compression_bits f
  rw [has_eq]
  cases k with
  | sync => exact sync
  | reply => exact reply
  | replyError => exact replyError
  | lazySend => exact lazySend
  | compress => exact enabled
  | compressAll => exact all
  | constructor => exact constructor
  | relay => exact relay

/-- A mark is put on or taken off a word as it is on flags whose number differs at its place
only. -/
theorem put_packed {f g : Flags} (k : Mark) (on : Bool)
    (place : g.number + (f.bears k).toNat * 2 ^ k.index = f.number + on.toNat * 2 ^ k.index) :
    f.packed.put k on = g.packed := by
  have sum := toNat_put f.packed k on
  rw [has_packed] at sum
  have same : (f.packed.put k on).word = g.bits := by
    apply UInt32.toNat_inj.1
    simp only [packed, toNat_bits] at sum ⊢
    omega
  exact congrArg Packed.mk same

/-- Putting a mark on a word is putting it on the flags. -/
theorem put_mark (f : Flags) {k : Mark} (single : k ≠ .compress ∧ k ≠ .compressAll) (on : Bool) :
    f.packed.put k on = (f.mark k on).packed := by
  apply put_packed
  cases k with
  | compress => exact absurd rfl single.1
  | compressAll => exact absurd rfl single.2
  | sync | reply | replyError | lazySend | constructor | relay =>
    simp only [number, bears, Flags.mark, Mark.index]
    omega

/-! ## Reading fields -/

/-- The level of flags is found in their word. -/
theorem level?_packed (f : Flags) : f.packed.level? = some f.level := by
  obtain ⟨level, -⟩ := fields_bits f
  rw [level?, toNat_level, packed, toNat_bits, level]
  exact Level.ofNumber?_eq_some_iff.2 rfl

/-- Masking and shifting a word gives its number of the priority. -/
theorem toNat_priority_mask (word : UInt32) :
    ((word &&& 0x1C) >>> 2).toNat = word.toNat / 4 % 8 := by
  rw [UInt32.shiftRight_and]
  exact toNat_priority word

/-- The priority of flags is found in their word. -/
theorem priority?_packed (f : Flags) : f.packed.priority? = some f.priority := by
  obtain ⟨-, priority, -⟩ := fields_bits f
  rw [priority?, toNat_priority_mask, packed, toNat_bits, priority]
  exact Priority.ofNumber?_eq_some_iff.2 rfl

/-- The compression of flags is found in their word. -/
theorem compression_packed (f : Flags) : f.packed.compression = f.compression := by
  rw [compression, has_packed, has_packed, bears, bears]
  cases f.compression <;> rfl

/-- A word contains a mask exactly if it has all of the mask's bits. -/
theorem contains_iff (p : Packed) (mask : UInt32) :
    p.contains mask ↔ ∀ (i : Nat) (inside : i < 32),
      mask.toBitVec[i] = true → p.word.toBitVec[i] = true := by
  rw [contains, decide_eq_true_eq, ← UInt32.toBitVec_inj, UInt32.toBitVec_and]
  constructor
  · intro all i inside set
    rw [← all, BitVec.getElem_and] at set
    exact (Bool.and_eq_true_iff.1 set).1
  · intro all
    ext i inside
    rw [BitVec.getElem_and]
    cases set : mask.toBitVec[i] with
    | false => exact Bool.and_false _
    | true => rw [all i inside set, Bool.and_self]

/-- A word contains two masks together exactly if it contains each of them. -/
theorem contains_or (p : Packed) (a b : UInt32) :
    p.contains (a ||| b) ↔ p.contains a ∧ p.contains b := by
  simp only [contains_iff, UInt32.toBitVec_or, BitVec.getElem_or, Bool.or_eq_true]
  constructor
  · exact fun all => ⟨fun i inside set => all i inside (Or.inl set),
      fun i inside set => all i inside (Or.inr set)⟩
  · rintro ⟨first, second⟩ i inside (set | set)
    · exact first i inside set
    · exact second i inside set

/-- The word of flags is accepted as flags, and as these. -/
theorem ofWord_packed (f : Flags) : ofWord f.packed.word = .ok f.packed := by
  have known : f.packed.word &&& 0x1FFF = f.packed.word := by
    rw [known_iff, packed, toNat_bits]
    exact f.number_lt
  have single : ¬ f.packed.contains (Mark.compress.mask ||| Mark.compressAll.mask) := by
    rw [contains_or]
    rintro ⟨enabled, all⟩
    rw [← has, has_packed] at enabled all
    simp only [bears, decide_eq_true_eq] at enabled all
    rw [enabled] at all
    contradiction
  rw [ofWord, if_neg (not_not.2 known), if_neg, if_neg, if_neg single]
  · rw [priority?_packed]
    exact Option.some_ne_none _
  · rw [level?_packed]
    exact Option.some_ne_none _

/-- A word is refused for the same reason in both forms. -/
theorem ofWord_of_error {word : UInt32} {e : BitsError} (refused : ofBits word = .error e) :
    ofWord word = .error e := by
  have level : (⟨word⟩ : Packed).level? = Level.ofNumber? (word.toNat % 4) := by
    rw [level?, toNat_level]
  have priority : (⟨word⟩ : Packed).priority? = Priority.ofNumber? (word.toNat / 4 % 8) := by
    rw [priority?, toNat_priority_mask]
  unfold ofBits at refused
  split at refused
  next high =>
    rw [ofWord, if_pos ((known_iff word).not.2 (Nat.not_lt.2 high)), Except.error.inj refused]
  next low =>
  have known : word &&& 0x1FFF = word := (known_iff word).2 (Nat.lt_of_not_le low)
  rw [ofWord, if_neg (not_not.2 known), level, priority]
  split at refused
  next unknown => rw [if_pos unknown, Except.error.inj refused]
  next l found =>
  rw [if_neg (by rw [found]; exact Option.some_ne_none l)]
  split at refused
  next unknown => rw [if_pos unknown, Except.error.inj refused]
  next p found =>
  rw [if_neg (by rw [found]; exact Option.some_ne_none p)]
  split at refused
  next both =>
    obtain ⟨enabled, all⟩ := Bool.and_eq_true_iff.1 both
    rw [if_pos, Except.error.inj refused]
    rw [contains_or]
    exact ⟨(has_eq ⟨word⟩ .compress).trans enabled, (has_eq ⟨word⟩ .compressAll).trans all⟩
  next => contradiction

/-- A word is accepted for the flags that it is written from, and refused for the same reason. -/
theorem ofWord_eq (word : UInt32) : ofWord word = (ofBits word).map packed := by
  cases result : ofBits word with
  | ok f =>
    obtain rfl := bits_of_ofBits result
    exact ofWord_packed f
  | error e => exact ofWord_of_error result

end Packed

end Interprocess.Flags
