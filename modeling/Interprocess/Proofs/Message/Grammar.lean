import Interprocess.Proofs.Message.Scan
import Interprocess.Proofs.Wire.Concat
import Mathlib.Data.Nat.Bitwise

/-!
# The rows of bytes that are messages

Every word of a header is in the hands of the peer. `Flags.Grammar` says by single bits which words
are flags, and `Message.Grammar` says by the words at their places which rows of bytes are messages;
neither mentions how bytes are read. The main statement is `decode_exact`: reading never ends
without an outcome, accepts exactly the rows of the grammar, and what it accepts is written back
byte for byte, but for the padding behind the footer, which becomes zeros.
-/

set_option autoImplicit false

namespace Interprocess

/-! ## Flags -/

namespace Flags

/-- The words that are flags: no bit is set above the thirteen that have a meaning, two of them are
a level from one to three, three are a priority up to four, and two are not both set. -/
structure Grammar (word : UInt32) : Prop where
  known : word &&& 0x1FFF = word
  level : 1 ≤ (word &&& 0x3).toNat ∧ (word &&& 0x3).toNat ≤ 3
  priority : (word >>> 2 &&& 0x7).toNat ≤ 4
  compression : ¬ (word &&& 0x200 ≠ 0 ∧ word &&& 0x400 ≠ 0)

instance (word : UInt32) : Decidable (Grammar word) :=
  decidable_of_iff
    (word &&& 0x1FFF = word ∧ (1 ≤ (word &&& 0x3).toNat ∧ (word &&& 0x3).toNat ≤ 3) ∧
      (word >>> 2 &&& 0x7).toNat ≤ 4 ∧ ¬ (word &&& 0x200 ≠ 0 ∧ word &&& 0x400 ≠ 0))
    ⟨fun ⟨known, level, priority, compression⟩ => ⟨known, level, priority, compression⟩,
      fun grammar => ⟨grammar.known, grammar.level, grammar.priority, grammar.compression⟩⟩

/-- The numbers of levels are one to three. -/
theorem exists_level_iff {n : Nat} : (∃ l, Level.ofNumber? n = some l) ↔ 1 ≤ n ∧ n ≤ 3 := by
  constructor
  · rintro ⟨l, found⟩
    rw [Level.ofNumber?_eq_some_iff.1 found]
    exact level_number_bounds l
  · rintro ⟨positive, small⟩
    match n with
    | 1 | 2 | 3 => exact ⟨_, rfl⟩

/-- The numbers of priorities are zero to four. -/
theorem exists_priority_iff {n : Nat} : (∃ p, Priority.ofNumber? n = some p) ↔ n ≤ 4 := by
  constructor
  · rintro ⟨p, found⟩
    rw [Priority.ofNumber?_eq_some_iff.1 found]
    exact priority_number_le p
  · intro small
    match n with
    | 0 | 1 | 2 | 3 | 4 => exact ⟨_, rfl⟩

/-- Masking the low bits of a word leaves a remainder. -/
theorem toNat_and_mask (word : UInt32) {mask k : Nat} (full : mask = 2 ^ k - 1)
    (small : mask < 2 ^ 32) : (word &&& UInt32.ofNat mask).toNat = word.toNat % 2 ^ k := by
  rw [UInt32.toNat_and, UInt32.toNat_ofNat_of_lt' small, full, Nat.and_two_pow_sub_one_eq_mod]

/-- No bit above the thirteen is set exactly if the word is small. -/
theorem known_iff (word : UInt32) : word &&& 0x1FFF = word ↔ word.toNat < 8192 := by
  have low : (word &&& 0x1FFF).toNat = word.toNat % 8192 :=
    toNat_and_mask word (k := 13) rfl (by decide)
  rw [← UInt32.toNat_inj, low]
  omega

/-- The low two bits of a word are its number of the level. -/
theorem toNat_level (word : UInt32) : (word &&& 0x3).toNat = word.toNat % 4 :=
  toNat_and_mask word (k := 2) rfl (by decide)

/-- The next three bits are its number of the priority. -/
theorem toNat_priority (word : UInt32) : (word >>> 2 &&& 0x7).toNat = word.toNat / 4 % 8 := by
  have low : (word >>> 2 &&& 0x7).toNat = (word >>> 2).toNat % 8 :=
    toNat_and_mask (word >>> 2) (k := 3) rfl (by decide)
  rw [low, UInt32.toNat_shiftRight]
  exact congrArg (· % 8) (Nat.shiftRight_eq_div_pow word.toNat 2)

/-- Whether a bit is set can be told from the word as a number. -/
theorem marked_iff (word : UInt32) (k : Nat) (small : 2 ^ k < 2 ^ 32) :
    marked word (2 ^ k) ↔ word &&& UInt32.ofNat (2 ^ k) ≠ 0 := by
  have bit : (word &&& UInt32.ofNat (2 ^ k)).toNat = (word.toNat.testBit k).toNat * 2 ^ k := by
    rw [UInt32.toNat_and, UInt32.toNat_ofNat_of_lt' small, Nat.and_two_pow]
  rw [marked, Ne, ← UInt32.toNat_inj, bit, ← Nat.testBit_eq_decide_div_mod_eq]
  cases word.toNat.testBit k
  · simp
  · simp

/-- A word is accepted as flags if its bits say so. -/
theorem exists_ofBits_iff {word : UInt32} : (∃ f, ofBits word = .ok f) ↔ Grammar word := by
  have enabled := marked_iff word 9 (by decide)
  have all := marked_iff word 10 (by decide)
  constructor
  · rintro ⟨f, accepted⟩
    -- an accepted word is the one that its flags are written as, digit by digit
    obtain rfl := bits_of_ofBits accepted
    obtain ⟨level, priority, compression⟩ := f.fields_bits
    have single := compressionNumber_le f.compression
    refine ⟨(known_iff _).2 ?_, ?_, ?_, ?_⟩
    · rw [toNat_bits]
      exact f.number_lt
    · rw [toNat_level, toNat_bits, level]
      exact level_number_bounds f.level
    · rw [toNat_priority, toNat_bits, priority]
      exact priority_number_le f.priority
    · rintro ⟨first, second⟩
      have first := enabled.2 first
      have second := all.2 second
      rw [marked, toNat_bits, decide_eq_true_eq] at first second
      omega
  · rintro ⟨known, level, priority, compression⟩
    rw [toNat_level] at level
    rw [toNat_priority] at priority
    obtain ⟨l, level⟩ := exists_level_iff.2 level
    obtain ⟨p, priority⟩ := exists_priority_iff.2 priority
    have known : ¬ word.toNat ≥ 8192 := Nat.not_le.2 ((known_iff word).1 known)
    have single : ¬ (marked word 512 && marked word 1024) = true := by
      intro both
      rw [Bool.and_eq_true] at both
      exact compression ⟨enabled.1 both.1, all.1 both.2⟩
    rw [ofBits, if_neg known, level]
    simp only [priority, if_neg single]
    exact ⟨_, rfl⟩

end Flags

/-! ## Headers -/

namespace Header

/-- Only a whole header is accepted. -/
theorem complete_of_decode {bs : ByteArray} {h : Header} (accepted : decode bs = .ok h) :
    headerSize ≤ bs.size := by
  by_contra short
  rw [decode, if_pos (Nat.lt_of_not_le short)] at accepted
  contradiction

/-- What an accepted header announces stands in the words at its places. -/
theorem words_of_decode {bs : ByteArray} {h : Header} (accepted : decode bs = .ok h) :
    h.payloadSize = wordAt bs 0 ∧ h.flags.bits = wordAt bs 12 ∧ h.handleCount = wordAt bs 16 ∧
      h.footerSize = wordAt bs 28 := by
  rw [decode_eq_ofWords (complete_of_decode accepted)] at accepted
  have words := words_of_ofWords accepted
  simp only [Header.words, List.cons.injEq] at words
  obtain ⟨payloadSize, -, -, bits, handleCount, -, -, footerSize, -⟩ := words
  exact ⟨payloadSize, bits, handleCount, footerSize⟩

/-- A complete header is accepted if its flags are. -/
theorem exists_decode_iff {bs : ByteArray} :
    (∃ h, decode bs = .ok h) ↔ headerSize ≤ bs.size ∧ Flags.Grammar (wordAt bs 12) := by
  constructor
  · rintro ⟨h, accepted⟩
    obtain ⟨-, bits, -⟩ := words_of_decode accepted
    have sound := Flags.ofBits_bits h.flags
    rw [bits] at sound
    exact ⟨complete_of_decode accepted, Flags.exists_ofBits_iff.1 ⟨_, sound⟩⟩
  · rintro ⟨complete, grammar⟩
    obtain ⟨flags, sound⟩ := Flags.exists_ofBits_iff.2 grammar
    rw [decode_eq_ofWords complete]
    simp only [ofWords, sound]
    exact ⟨_, rfl⟩

end Header

/-! ## Messages -/

namespace Message

/-- The rows of bytes that are messages: behind a whole header with sound flags lie as many bytes as
it announces, the padded footer is no larger than that, and the file handles are not too many. -/
structure Grammar (bs : ByteArray) : Prop where
  complete : headerSize ≤ bs.size
  payloadSize : (wordAt bs 0).toNat = bs.size - headerSize
  flags : Flags.Grammar (wordAt bs 12)
  footerSize : align (wordAt bs 28).toNat ≤ (wordAt bs 0).toNat
  handleCount : (wordAt bs 16).toNat ≤ descriptorLimit

instance (bs : ByteArray) : Decidable (Grammar bs) :=
  decidable_of_iff
    (headerSize ≤ bs.size ∧ (wordAt bs 0).toNat = bs.size - headerSize ∧
      Flags.Grammar (wordAt bs 12) ∧ align (wordAt bs 28).toNat ≤ (wordAt bs 0).toNat ∧
      (wordAt bs 16).toNat ≤ descriptorLimit)
    ⟨fun ⟨complete, payloadSize, flags, footerSize, handleCount⟩ =>
      ⟨complete, payloadSize, flags, footerSize, handleCount⟩,
      fun grammar => ⟨grammar.complete, grammar.payloadSize, grammar.flags, grammar.footerSize,
        grammar.handleCount⟩⟩

/-- A row of bytes is accepted if the words of its header say so. -/
theorem exists_decode_iff {bs : ByteArray} : (∃ m, decode bs = .ok m) ↔ Grammar bs := by
  constructor
  · rintro ⟨m, accepted⟩
    obtain ⟨header, footerStart, sound, size, roomy, few, -⟩ := decode_eq_ok_iff.1 accepted
    obtain ⟨complete, flags⟩ := Header.exists_decode_iff.1 ⟨header, sound⟩
    obtain ⟨payloadSize, -, handleCount, footerSize⟩ := Header.words_of_decode sound
    rw [payloadSize] at size roomy
    rw [footerSize] at roomy
    rw [handleCount] at few
    exact ⟨complete, by omega, flags, by omega, few⟩
  · rintro ⟨complete, payload, flags, footer, few⟩
    obtain ⟨header, sound⟩ := Header.exists_decode_iff.2 ⟨complete, flags⟩
    obtain ⟨payloadSize, -, handleCount, footerSize⟩ := Header.words_of_decode sound
    rw [← payloadSize] at payload footer
    rw [← footerSize] at footer
    rw [← handleCount] at few
    exact ⟨_, decode_eq_ok_iff.2
      ⟨header, _, sound, by omega, Nat.sub_add_cancel footer, few, rfl⟩⟩

/-- What is accepted is written back as it was up to the end of the footer. -/
theorem encode_of_decode {bs : ByteArray} {m : Message} (accepted : decode bs = .ok m) :
    m.footer.size = (wordAt bs 28).toNat ∧
      headerSize + m.payload.size + m.footer.size + padding m.footer.size = bs.size ∧
      m.encode = bs.extract 0 (bs.size - padding m.footer.size) ++
        zeros (padding m.footer.size) := by
  obtain ⟨header, footerStart, sound, size, roomy, few, rfl⟩ := decode_eq_ok_iff.1 accepted
  obtain ⟨-, -, -, announced⟩ := Header.words_of_decode sound
  obtain ⟨payloadSize, footerSize⟩ := size_parts size roomy
  have padded := add_padding header.footerSize.toNat
  have whole : headerSize + footerStart + header.footerSize.toNat +
      padding header.footerSize.toNat = bs.size := by omega
  -- header, payload and footer are neighbours, and only the padding is left
  rw [encode]
  simp only [payloadSize, footerSize]
  refine ⟨congrArg UInt32.toNat announced, whole, ?_⟩
  have last : bs.size - padding header.footerSize.toNat =
      headerSize + footerStart + header.footerSize.toNat := by omega
  rw [Header.encode_of_decode sound, last, extract_join bs (Nat.zero_le _) (Nat.le_add_right _ _),
    extract_join bs (Nat.zero_le _) (Nat.le_add_right _ _)]

/-- Reading always has an outcome; it accepts the rows of the grammar and no others; and what it
accepts is written back with as many bytes, the same ones up to the end of the footer and zeros for
the padding. So a row is written back unchanged if its padding is zeros. -/
theorem decode_exact (bs : ByteArray) :
    scan bs = some (decode bs) ∧
    ((∃ m, decode bs = .ok m) ↔ Grammar bs) ∧
    ∀ m, decode bs = .ok m →
      m.footer.size = (wordAt bs 28).toNat ∧
      headerSize + m.payload.size + m.footer.size + padding m.footer.size = bs.size ∧
      padding m.footer.size ≤ 3 ∧
      m.encode.size = bs.size ∧
      m.encode = bs.extract 0 (bs.size - padding m.footer.size) ++
        zeros (padding m.footer.size) ∧
      (m.encode = bs ↔
        bs.extract (bs.size - padding m.footer.size) bs.size = zeros (padding m.footer.size)) := by
  refine ⟨scan_eq bs, exists_decode_iff, fun m accepted => ?_⟩
  obtain ⟨footer, size, rewritten⟩ := encode_of_decode accepted
  have length : m.encode.size = bs.size := by
    rw [size_encode, Message.size, contentSize, ← add_padding]
    omega
  refine ⟨footer, size, Nat.le_of_lt_succ (padding_lt _), length, rewritten, ?_⟩
  rw [rewritten, extract_append_eq_iff (Nat.sub_le _ _)]

/-- The bytes of a message with a footer of one byte and something else than zeros behind it. -/
def unclean : ByteArray :=
  (Word.pack [4, 7, 1, 0x21, 0, 0, 0, 1]).toByteArray ++ ⟨#[9, 1, 2, 3]⟩

/-- What lies behind the footer is accepted and then lost. -/
theorem decode_exact_unclean : ∃ m, decode unclean = .ok m ∧ m.encode ≠ unclean := by
  obtain ⟨-, accepts, rewrites⟩ := decode_exact unclean
  obtain ⟨m, accepted⟩ := accepts.2 (by decide)
  obtain ⟨footer, -, -, -, -, unchanged⟩ := rewrites m accepted
  have single : m.footer.size = 1 := footer.trans (by decide)
  rw [single] at unchanged
  exact ⟨m, accepted, fun same => absurd (unchanged.1 same) (by decide)⟩

end Message

end Interprocess
