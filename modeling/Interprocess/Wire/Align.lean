/-!
# Alignment

Everything after a message's header lies in multiples of four bytes. `align` rounds a length up,
`padding` is the rest that has to be filled with zeros, and `zeros` are those bytes. `narrow?`
takes a length into a 32-bit size field where it fits. The main statements are `le_align` and
`align_lt`, which bound the padding by three bytes.
-/

set_option autoImplicit false

namespace Interprocess

/-- Every field after the header starts at a multiple of this many bytes. -/
def alignment : Nat := 4

/-- The least multiple of the alignment that is not below `n`. -/
def align (n : Nat) : Nat :=
  (n + (alignment - 1)) / alignment * alignment

/-- The bytes that follow `n` bytes up to the next aligned place. -/
def padding (n : Nat) : Nat :=
  align n - n

/-- Rows of bytes are compared byte by byte. -/
instance (priority := 2000) bytesDecidableEq : DecidableEq ByteArray := fun a b =>
  decidable_of_iff (a.data = b.data) ByteArray.ext_iff.symm

/-- A row of zero bytes. -/
def zeros (n : Nat) : ByteArray :=
  (List.replicate n (0 : UInt8)).toByteArray

/-- Rounding up, with the alignment written out. -/
theorem align_eq (n : Nat) : align n = (n + 3) / 4 * 4 := rfl

/-- Rounding up makes no length smaller. -/
theorem le_align (n : Nat) : n ≤ align n := by
  rw [align_eq]
  omega

/-- Rounding up adds less than one word. -/
theorem align_lt (n : Nat) : align n < n + 4 := by
  rw [align_eq]
  omega

/-- What is rounded up is a number of whole words. -/
@[simp] theorem align_mod (n : Nat) : align n % 4 = 0 := by
  rw [align_eq]
  omega

/-- A length and its padding are the length rounded up. -/
@[simp] theorem add_padding (n : Nat) : n + padding n = align n := by
  have := le_align n
  rw [padding]
  omega

/-- The padding is less than one word. -/
theorem padding_lt (n : Nat) : padding n < 4 := by
  have := align_lt n
  have := le_align n
  rw [padding]
  omega

/-- There are as many zero bytes as were asked for. -/
@[simp] theorem size_zeros (n : Nat) : (zeros n).size = n := by
  rw [zeros, List.size_toByteArray, List.length_replicate]

/-- The least number that is no 32-bit word. -/
def wordLimit : Nat := 4294967296

/-- A length as a 32-bit size, where it is one. -/
def narrow? (n : Nat) : Option UInt32 :=
  if n < wordLimit then some (UInt32.ofNat n) else none

end Interprocess
