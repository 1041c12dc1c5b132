/-!
# Little-endian words

Every number on the wire is a fixed count of bytes, least significant first. `toBytes` writes a
number in a given width and `ofBytes` reads it back; `pack` and `unpack` do the same for a row of
32-bit words. The main statements are `ofBytes_toBytes` and `toBytes_ofBytes`, which make the two
directions inverse at each width, and `unpack_pack` and `pack_unpack` for rows of words.
-/

set_option autoImplicit false

namespace Interprocess.Word

/-- The `w` bytes of `n`, least significant first; what does not fit into them is dropped. -/
def toBytes : Nat → Nat → List UInt8
  | 0, _ => []
  | w + 1, n => UInt8.ofNat n :: toBytes w (n / 256)

/-- The number whose bytes, least significant first, are given. -/
def ofBytes : List UInt8 → Nat
  | [] => 0
  | b :: bs => b.toNat + 256 * ofBytes bs

/-- The least number that does not fit into `w` bytes. -/
def capacity : Nat → Nat
  | 0 => 1
  | w + 1 => 256 * capacity w

/-- A number is written in exactly as many bytes as it was given. -/
@[simp] theorem length_toBytes (w n : Nat) : (toBytes w n).length = w := by
  induction w generalizing n with
  | zero => rfl
  | succ w ih => simp [toBytes, ih]

/-- Bytes make up a number below their capacity. -/
theorem ofBytes_lt (bs : List UInt8) : ofBytes bs < capacity bs.length := by
  induction bs with
  | nil => simp [ofBytes, capacity]
  | cons b bs ih =>
    have hb : b.toNat < 256 := b.toNat_lt
    rw [ofBytes, List.length_cons, capacity]
    omega

/-- Reading what was written gives the number back, less what the width dropped. -/
theorem ofBytes_toBytes (w n : Nat) : ofBytes (toBytes w n) = n % capacity w := by
  induction w generalizing n with
  | zero => simp [toBytes, ofBytes, capacity, Nat.mod_one]
  | succ w ih =>
    have low : (UInt8.ofNat n).toNat = n % 256 := by simp
    rw [toBytes, ofBytes, ih, low, capacity, Nat.mod_mul]

/-- A number that fits is read as it was written. -/
theorem ofBytes_toBytes_of_lt {w n : Nat} (h : n < capacity w) : ofBytes (toBytes w n) = n := by
  rw [ofBytes_toBytes, Nat.mod_eq_of_lt h]

/-- Writing what was read gives the same bytes. -/
theorem toBytes_ofBytes (bs : List UInt8) : toBytes bs.length (ofBytes bs) = bs := by
  induction bs with
  | nil => rfl
  | cons b bs ih =>
    have hb : b.toNat < 256 := b.toNat_lt
    have low : UInt8.ofNat (b.toNat + 256 * ofBytes bs) = b := by
      apply UInt8.toNat_inj.1
      simp
    have high : (b.toNat + 256 * ofBytes bs) / 256 = ofBytes bs := by omega
    rw [List.length_cons, ofBytes, toBytes, low, high, ih]

/-- The four bytes of a 32-bit word. -/
def bytes (x : UInt32) : List UInt8 :=
  toBytes 4 x.toNat

/-- The 32-bit word that up to four bytes stand for. -/
def value (bs : List UInt8) : UInt32 :=
  UInt32.ofNat (ofBytes bs)

/-- A word has four bytes. -/
@[simp] theorem length_bytes (x : UInt32) : (bytes x).length = 4 := by
  simp [bytes]

/-- A word is read as it was written. -/
@[simp] theorem value_bytes (x : UInt32) : value (bytes x) = x := by
  have small : x.toNat < capacity 4 := x.toNat_lt
  rw [value, bytes, ofBytes_toBytes_of_lt small, UInt32.ofNat_toNat]

/-- Four bytes are written as they were read. -/
theorem bytes_value {bs : List UInt8} (h : bs.length = 4) : bytes (value bs) = bs := by
  have small : ofBytes bs < 2 ^ 32 := by
    have := ofBytes_lt bs
    rwa [h] at this
  rw [bytes, value, UInt32.toNat_ofNat_of_lt' small, ← h, toBytes_ofBytes]

/-- The bytes of a row of words. -/
def pack (ws : List UInt32) : List UInt8 :=
  ws.flatMap bytes

/-- The words that a row of bytes holds; up to three bytes left over at the end are dropped. -/
def unpack : List UInt8 → List UInt32
  | a :: b :: c :: d :: rest => value [a, b, c, d] :: unpack rest
  | _ => []

/-- Every word takes four bytes. -/
@[simp] theorem length_pack (ws : List UInt32) : (pack ws).length = 4 * ws.length := by
  induction ws with
  | nil => rfl
  | cons w ws ih =>
    have split : (pack (w :: ws)).length = (bytes w).length + (pack ws).length := by
      simp [pack]
    rw [split, ih, length_bytes, List.length_cons]
    omega

/-- The first four bytes are the first word. -/
theorem unpack_bytes_append (x : UInt32) (rest : List UInt8) :
    unpack (bytes x ++ rest) = x :: unpack rest := by
  have word : value (bytes x) = x := value_bytes x
  simp only [bytes, toBytes] at word ⊢
  simp only [List.cons_append, List.nil_append, unpack, word]

/-- A row of words is read back from its bytes. -/
theorem unpack_pack (ws : List UInt32) : unpack (pack ws) = ws := by
  induction ws with
  | nil => rfl
  | cons w ws ih =>
    have split : pack (w :: ws) = bytes w ++ pack ws := by simp [pack]
    rw [split, unpack_bytes_append, ih]

/-- Bytes that fill whole words are written back from them. -/
theorem pack_unpack {bs : List UInt8} {k : Nat} (h : bs.length = 4 * k) :
    pack (unpack bs) = bs := by
  induction k generalizing bs with
  | zero =>
    have empty : bs = [] := List.eq_nil_of_length_eq_zero (by omega)
    subst empty
    rfl
  | succ k ih =>
    match bs, h with
    | a :: b :: c :: d :: rest, h =>
      have shorter : rest.length = 4 * k := by
        simp only [List.length_cons] at h
        omega
      have word : bytes (value [a, b, c, d]) = [a, b, c, d] := bytes_value rfl
      have split : pack (unpack (a :: b :: c :: d :: rest)) =
          bytes (value [a, b, c, d]) ++ pack (unpack rest) := by
        simp [pack, unpack]
      rw [split, word, ih shorter]
      rfl

end Interprocess.Word
