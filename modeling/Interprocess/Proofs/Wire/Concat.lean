import Interprocess.Wire.Chunk

/-!
# Rows of bytes, one behind the other

A stream carries rows of bytes without marking where one ends. `concat` is the stream of a list of
rows. The main statements are `concat_chunks`, that a row is what its chunks are, one behind the
other, if their length is above zero, and `chunks_of_ne_empty`, that they can be taken off its front
one by one.
-/

set_option autoImplicit false

namespace Interprocess

/-- The bytes of several rows, one behind the other. -/
def concat (rows : List ByteArray) : ByteArray :=
  rows.foldr (· ++ ·) ByteArray.empty

/-- No rows make up no bytes. -/
@[simp] theorem concat_nil : concat [] = ByteArray.empty := rfl

/-- The first row comes first. -/
@[simp] theorem concat_cons (row : ByteArray) (rows : List ByteArray) :
    concat (row :: rows) = row ++ concat rows := rfl

/-- Rows behind each other make up the bytes of the first ones and then of the others. -/
@[simp] theorem concat_append (rows others : List ByteArray) :
    concat (rows ++ others) = concat rows ++ concat others := by
  induction rows with
  | nil => simp
  | cons row rows ih => simp [ih, ByteArray.append_assoc]

/-- Bytes that are not empty are at least one. -/
theorem size_pos_of_ne_empty {bs : ByteArray} (some : bs ≠ ByteArray.empty) : 0 < bs.size :=
  Nat.pos_of_ne_zero fun none => some (ByteArray.size_eq_zero_iff.1 none)

/-- Neighbouring parts of a row make one part of it. -/
theorem extract_join (bs : ByteArray) {i j k : Nat} (left : i ≤ j) (right : j ≤ k) :
    bs.extract i j ++ bs.extract j k = bs.extract i k := by
  rw [ByteArray.extract_append_extract, Nat.min_eq_left left, Nat.max_eq_right right]

/-- The front of a row is made whole again by nothing but what lies behind it. -/
theorem extract_append_eq_iff {bs tail : ByteArray} {place : Nat} (inside : place ≤ bs.size) :
    bs.extract 0 place ++ tail = bs ↔ bs.extract place bs.size = tail := by
  have whole : bs.extract 0 place ++ bs.extract place bs.size = bs := by
    rw [extract_join bs (Nat.zero_le _) inside, ByteArray.extract_zero_size]
  constructor
  · intro same
    exact (ByteArray.append_right_inj _).1 (whole.trans same.symm)
  · rintro rfl
    exact whole

/-- A row is found again between the row before it and the row behind it. -/
theorem extract_between {start : Nat} (before row behind : ByteArray) (size : start = before.size) :
    (before ++ (row ++ behind)).extract start (start + row.size) = row := by
  have front := ByteArray.extract_append_size_add (a := before) (b := row ++ behind) (i := 0)
    (j := row.size)
  rw [Nat.add_zero] at front
  rw [size, front, ByteArray.extract_append_size_left, ByteArray.extract_zero_size]

/-- Of two ways to cut a row in two, the one that cuts later has the other's first part in front. -/
theorem exists_of_append_eq {a b c d : ByteArray} (same : a ++ b = c ++ d)
    (longer : c.size ≤ a.size) :
    ∃ e, a = c ++ e ∧ e ++ b = d := by
  have split : a = a.extract 0 c.size ++ a.extract c.size a.size := by
    rw [extract_join a (Nat.zero_le _) longer, ByteArray.extract_zero_size]
  have size : (a.extract 0 c.size).size = c.size := by
    rw [ByteArray.size_extract]
    omega
  rw [split, ByteArray.append_assoc] at same
  have front := ByteArray.append_inj_left same size
  rw [front] at same split
  exact ⟨_, split, (ByteArray.append_right_inj c).1 same⟩

/-- The first chunks hold the bytes up to the place where the next one begins. -/
theorem concat_extracts (length count : Nat) (bs : ByteArray) :
    concat ((List.range count).map fun i =>
      bs.extract (i * length) (min ((i + 1) * length) bs.size)) =
      bs.extract 0 (min (count * length) bs.size) := by
  induction count with
  | zero => simp
  | succ count ih =>
    have next : (count + 1) * length = count * length + length := Nat.succ_mul count length
    rw [List.range_succ, List.map_append, concat_append, ih]
    simp only [List.map_cons, List.map_nil, concat_cons, concat_nil, ByteArray.append_empty]
    by_cases inside : count * length ≤ bs.size
    · rw [Nat.min_eq_left inside, extract_join bs (Nat.zero_le _) (by omega)]
    · have before : min ((count + 1) * length) bs.size = bs.size := by omega
      have behind : min (count * length) bs.size = bs.size := by omega
      have nothing : bs.extract (count * length) bs.size = ByteArray.empty :=
        ByteArray.extract_eq_empty_iff.2 (by omega)
      rw [before, behind, nothing, ByteArray.append_empty]

/-- The chunks reach over the whole row. -/
theorem le_chunkCount_mul {length : Nat} (positive : 0 < length) (size : Nat) :
    size ≤ chunkCount length size * length := by
  have split := Nat.div_add_mod (size + length - 1) length
  have rest := Nat.mod_lt (size + length - 1) positive
  rw [chunkCount, Nat.mul_comm]
  omega

/-- A row is what its chunks are, one behind the other. -/
theorem concat_chunks {length : Nat} (positive : 0 < length) (bs : ByteArray) :
    concat (chunks length bs) = bs := by
  have whole := le_chunkCount_mul positive bs.size
  rw [chunks, concat_extracts, Nat.min_eq_right whole, ByteArray.extract_zero_size]

/-! ## Taking chunks off the front -/

/-- Nothing is cut into no chunks. -/
@[simp] theorem chunks_empty (length : Nat) : chunks length ByteArray.empty = [] := by
  have none : chunkCount length ByteArray.empty.size = 0 := by
    rw [chunkCount, ByteArray.size_empty, Nat.zero_add]
    rcases Nat.eq_zero_or_pos length with rfl | positive
    · rfl
    · exact Nat.div_eq_of_lt (by omega)
  rw [chunks, none]
  rfl

/-- Cutting one chunk off leaves one chunk less to be cut. -/
theorem chunkCount_succ {length size : Nat} (positive : 0 < length) (some : 0 < size) :
    chunkCount length size = chunkCount length (size - min size length) + 1 := by
  by_cases last : size ≤ length
  · have nothing : chunkCount length 0 = 0 := Nat.div_eq_of_lt (by omega)
    rw [Nat.min_eq_left last, Nat.sub_self, nothing, chunkCount]
    exact Nat.div_eq_of_lt_le (by omega) (by omega)
  · have rest : size + length - 1 = size - length + length - 1 + length := by omega
    rw [Nat.min_eq_right (by omega), chunkCount, rest, Nat.add_div_right _ positive, chunkCount]

/-- The first chunk is taken off the front, and the others are the chunks of what is left. -/
theorem chunks_of_ne_empty {length : Nat} (positive : 0 < length) {bs : ByteArray}
    (some : bs ≠ ByteArray.empty) :
    chunks length bs =
      bs.extract 0 (min bs.size length) ::
        chunks length (bs.extract (min bs.size length) bs.size) := by
  have filled := size_pos_of_ne_empty some
  have size : (bs.extract (min bs.size length) bs.size).size = bs.size - min bs.size length := by
    rw [ByteArray.size_extract, Nat.min_self]
  rw [chunks, chunks, size, chunkCount_succ positive filled, List.range_succ_eq_map,
    List.map_cons, List.map_map]
  refine List.cons_eq_cons.2 ⟨?_, List.map_congr_left fun i inside => ?_⟩
  · rw [Nat.zero_mul, Nat.zero_add, Nat.one_mul, Nat.min_comm]
  rw [List.mem_range] at inside
  -- a short chunk is the last one, so there is a further one only behind a full one
  have full : length ≤ bs.size := by
    refine Nat.le_of_not_lt fun short => ?_
    rw [Nat.min_eq_left (Nat.le_of_lt short), Nat.sub_self, chunkCount,
      Nat.div_eq_of_lt (by omega)] at inside
    exact Nat.not_lt_zero i inside
  have place : (i + 1) * length = length + i * length := by rw [Nat.succ_mul, Nat.add_comm]
  have behind : (i + 1 + 1) * length = length + (i + 1) * length := by
    rw [Nat.succ_mul, Nat.add_comm]
  have stop : min (length + min ((i + 1) * length) (bs.size - length)) bs.size =
      min (length + (i + 1) * length) bs.size := by omega
  rw [Function.comp_apply, Nat.succ_eq_add_one, Nat.min_eq_right full, ByteArray.extract_extract,
    place, behind, ← place, stop]

end Interprocess
