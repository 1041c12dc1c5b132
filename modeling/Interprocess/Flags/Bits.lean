import Interprocess.Flags.Basic

/-!
# Flags as one word

On the wire the flags fill the low thirteen bits of a word: two bits of level, three of priority and
one for each other mark. `Flags.bits` writes the word and `Flags.ofBits` reads it, refusing words
that no flags are written as. The main statements are `ofBits_bits`, that reading undoes writing,
and `bits_of_ofBits`, that an accepted word is the one its flags are written as.
-/

set_option autoImplicit false

namespace Interprocess.Flags

/-- Why a word stands for no flags. -/
inductive BitsError
  | unknownBits (word : UInt32)
  | invalidLevel (word : UInt32)
  | invalidPriority (word : UInt32)
  | conflictingCompression (word : UInt32)
deriving DecidableEq, Repr

/-- The text of a refused word. -/
def BitsError.message : BitsError → String
  | .unknownBits w => s!"unknown header flag bits in {Hex.marked4 w.toNat}"
  | .invalidLevel w => s!"invalid nested level in header flags {Hex.marked4 w.toNat}"
  | .invalidPriority w => s!"invalid priority in header flags {Hex.marked4 w.toNat}"
  | .conflictingCompression w =>
    s!"conflicting compression bits in header flags {Hex.marked4 w.toNat}"

/-- The two bits of a compression, as a number from zero to two. -/
def compressionNumber : Compression → Nat
  | .none => 0
  | .enabled => 1
  | .all => 2

/-- The word that flags are written as, as a number: each field times its place value. -/
def number (f : Flags) : Nat :=
  f.level.number + 4 * f.priority.number + 32 * f.sync.toNat + 64 * f.reply.toNat +
    128 * f.replyError.toNat + 256 * f.lazySend.toNat + 512 * compressionNumber f.compression +
    2048 * f.constructor.toNat + 4096 * f.relay.toNat

/-- The word that flags are written as. -/
def bits (f : Flags) : UInt32 :=
  UInt32.ofNat f.number

/-- Whether a word has a mark at the place of a given value. -/
def marked (word : UInt32) (place : Nat) : Bool :=
  word.toNat / place % 2 = 1

/-- The flags that a word stands for. Unknown bits are reported before a level, a level before a
priority, and that before two compressions at once. -/
def ofBits (word : UInt32) : Except BitsError Flags :=
  if word.toNat ≥ 8192 then .error (.unknownBits word)
  else
    match Level.ofNumber? (word.toNat % 4) with
    | none => .error (.invalidLevel word)
    | some level =>
      match Priority.ofNumber? (word.toNat / 4 % 8) with
      | none => .error (.invalidPriority word)
      | some priority =>
        if marked word 512 && marked word 1024 then .error (.conflictingCompression word)
        else
          .ok
            { level, priority
              compression :=
                if marked word 512 then .enabled else if marked word 1024 then .all else .none
              lazySend := marked word 256
              constructor := marked word 2048
              sync := marked word 32
              reply := marked word 64
              replyError := marked word 128
              relay := marked word 4096 }

/-- Levels are numbered from one to three, so they fit into two bits. -/
theorem level_number_bounds (l : Level) : 1 ≤ l.number ∧ l.number ≤ 3 := by
  cases l <;> decide

/-- Priorities are numbered from zero to four, so they fit into three bits. -/
theorem priority_number_le (p : Priority) : p.number ≤ 4 := by
  cases p <;> decide

/-- The ways of compression are numbered from zero to two, so they fit into two bits. -/
theorem compressionNumber_le (c : Compression) : compressionNumber c ≤ 2 := by
  cases c <;> decide

/-- How large the digits of a written word are. -/
theorem digit_bounds (f : Flags) :
    (1 ≤ f.level.number ∧ f.level.number ≤ 3) ∧ f.priority.number ≤ 4 ∧
      compressionNumber f.compression ≤ 2 ∧ f.sync.toNat ≤ 1 ∧ f.reply.toNat ≤ 1 ∧
      f.replyError.toNat ≤ 1 ∧ f.lazySend.toNat ≤ 1 ∧ f.constructor.toNat ≤ 1 ∧
      f.relay.toNat ≤ 1 :=
  ⟨level_number_bounds f.level, priority_number_le f.priority, compressionNumber_le f.compression,
    f.sync.toNat_le, f.reply.toNat_le, f.replyError.toNat_le, f.lazySend.toNat_le,
    f.constructor.toNat_le, f.relay.toNat_le⟩

/-- All flags together fit into thirteen bits. -/
theorem number_lt (f : Flags) : f.number < 8192 := by
  have bounds := f.digit_bounds
  unfold number
  omega

/-- Nothing of the number is lost in a word of 32 bits. -/
@[simp] theorem toNat_bits (f : Flags) : f.bits.toNat = f.number := by
  have := f.number_lt
  rw [bits, UInt32.toNat_ofNat_of_lt']
  exact Nat.lt_of_lt_of_le this (by decide)

/-- A digit of the word that is one says that its mark is on. -/
theorem decide_toNat_eq_one (b : Bool) : decide (b.toNat = 1) = b := by
  cases b <;> rfl

/-- The marks of a written word are the fields it was written from. -/
theorem marked_bits (f : Flags) :
    marked f.bits 32 = f.sync ∧ marked f.bits 64 = f.reply ∧ marked f.bits 128 = f.replyError ∧
      marked f.bits 256 = f.lazySend ∧ marked f.bits 2048 = f.constructor ∧
      marked f.bits 4096 = f.relay := by
  have bounds := f.digit_bounds
  have sync : f.number / 32 % 2 = f.sync.toNat := by unfold number; omega
  have reply : f.number / 64 % 2 = f.reply.toNat := by unfold number; omega
  have replyError : f.number / 128 % 2 = f.replyError.toNat := by unfold number; omega
  have lazySend : f.number / 256 % 2 = f.lazySend.toNat := by unfold number; omega
  have constructor : f.number / 2048 % 2 = f.constructor.toNat := by unfold number; omega
  have relay : f.number / 4096 % 2 = f.relay.toNat := by unfold number; omega
  simp only [marked, toNat_bits, sync, reply, replyError, lazySend, constructor, relay,
    decide_toNat_eq_one, and_self]

/-- The level, the priority and the compression of a written word are those it was written from. -/
theorem fields_bits (f : Flags) :
    f.number % 4 = f.level.number ∧ f.number / 4 % 8 = f.priority.number ∧
      f.number / 512 % 4 = compressionNumber f.compression := by
  have bounds := f.digit_bounds
  refine ⟨?_, ?_, ?_⟩ <;> unfold number <;> omega

/-- The two marks of a written word that say which compression it was written from. -/
theorem marked_compression_bits (f : Flags) :
    marked f.bits 512 = decide (f.compression = .enabled) ∧
      marked f.bits 1024 = decide (f.compression = .all) := by
  obtain ⟨-, -, compression⟩ := fields_bits f
  have low : f.number / 512 % 2 = compressionNumber f.compression % 2 := by omega
  have high : f.number / 1024 % 2 = compressionNumber f.compression / 2 := by omega
  simp only [marked, toNat_bits, low, high]
  cases f.compression <;> exact ⟨rfl, rfl⟩

/-- Reading undoes writing. -/
theorem ofBits_bits (f : Flags) : ofBits f.bits = .ok f := by
  obtain ⟨sync, reply, replyError, lazySend, constructor, relay⟩ := marked_bits f
  obtain ⟨level, priority, -⟩ := fields_bits f
  have level' : Level.ofNumber? (f.number % 4) = some f.level :=
    Level.ofNumber?_eq_some_iff.2 level
  have priority' : Priority.ofNumber? (f.number / 4 % 8) = some f.priority :=
    Priority.ofNumber?_eq_some_iff.2 priority
  obtain ⟨enabled, all⟩ := marked_compression_bits f
  have known : ¬ f.number ≥ 8192 := Nat.not_le.2 f.number_lt
  simp only [ofBits, toNat_bits, known, level', priority', enabled, all, sync, reply, replyError,
    lazySend, constructor, relay, ↓reduceIte]
  cases f with
  | mk l p c z k s r e y => cases c <;> rfl

/-- An accepted word is the one that its flags are written as. -/
theorem bits_of_ofBits {word : UInt32} {f : Flags} (h : ofBits word = .ok f) : f.bits = word := by
  have digit (place : Nat) : (marked word place).toNat = word.toNat / place % 2 := by
    have : word.toNat / place % 2 < 2 := Nat.mod_lt _ (by decide)
    unfold marked
    by_cases one : word.toNat / place % 2 = 1
    · simp [one]
    · have zero : word.toNat / place % 2 = 0 := by omega
      simp [zero]
  unfold ofBits at h
  split at h
  · contradiction
  next known =>
  split at h
  · contradiction
  next level level' =>
  split at h
  · contradiction
  next priority priority' =>
  split at h
  · contradiction
  next single =>
  have level'' := Level.ofNumber?_eq_some_iff.1 level'
  have priority'' := Priority.ofNumber?_eq_some_iff.1 priority'
  have compression : compressionNumber
      (if marked word 512 then .enabled else if marked word 1024 then .all else .none) =
      (marked word 512).toNat + 2 * (marked word 1024).toNat := by
    cases low : marked word 512 <;> cases high : marked word 1024 <;> simp_all [compressionNumber]
  obtain rfl := Except.ok.inj h
  apply UInt32.toNat_inj.1
  rw [toNat_bits]
  simp only [number, compression, digit, ← level'', ← priority'']
  omega

end Interprocess.Flags
