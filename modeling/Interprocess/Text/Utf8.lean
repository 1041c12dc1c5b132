/-!
# Text in UTF-8

Strings travel as UTF-8. `decode` accepts exactly the well-formed byte sequences; for any other one
it says where the first fault lies and how long it is. A fault is the longest row of bytes that
begins some character but cannot be completed, and at least one byte. Surrogates, overlong forms
and values above 10FFFF begin no character, so they fail at the earliest byte that rules them out.
Bytes that end inside a character that was good so far are incomplete rather than invalid.
-/

set_option autoImplicit false

namespace Interprocess.Utf8

/-- What is wrong at the first place where bytes stop being text. -/
inductive Fault
  /-- After `index` good bytes, `length` bytes begin no character. -/
  | invalid (length index : Nat)
  /-- After `index` good bytes, the input ends inside a character. -/
  | incomplete (index : Nat)
deriving DecidableEq, Repr

/-- The text of a fault. -/
def Fault.message : Fault → String
  | .invalid length index => s!"invalid utf-8 sequence of {length} bytes from index {index}"
  | .incomplete index => s!"incomplete utf-8 byte sequence from index {index}"

/-- A range of byte values, both ends included. -/
structure Range where
  /-- The least value. -/
  low : Nat
  /-- The greatest value. -/
  high : Nat

/-- Whether a byte lies in a range. -/
def Range.has (r : Range) (b : UInt8) : Bool :=
  r.low ≤ b.toNat && b.toNat ≤ r.high

/-- The range of a continuation byte. -/
def tail : Range := ⟨0x80, 0xBF⟩

/-- The ranges of the bytes that have to follow a first byte; none if it begins no character. -/
def followers? (b : UInt8) : Option (List Range) :=
  let n := b.toNat
  if n ≤ 0x7F then some []
  else if 0xC2 ≤ n ∧ n ≤ 0xDF then some [tail]
  else if n = 0xE0 then some [⟨0xA0, 0xBF⟩, tail]
  else if n = 0xED then some [⟨0x80, 0x9F⟩, tail]
  else if 0xE1 ≤ n ∧ n ≤ 0xEF then some [tail, tail]
  else if n = 0xF0 then some [⟨0x90, 0xBF⟩, tail, tail]
  else if 0xF1 ≤ n ∧ n ≤ 0xF3 then some [tail, tail, tail]
  else if n = 0xF4 then some [⟨0x80, 0x8F⟩, tail, tail]
  else none

/-- How the bytes at one place compare with the character they begin. -/
inductive Scan
  /-- A whole character of this many bytes. -/
  | whole (length : Nat)
  /-- This many bytes fit, and the next one does not. -/
  | broken (length : Nat)
  /-- All bytes fit, but more are needed. -/
  | short

/-- Compares bytes with the ranges they have to lie in, after `seen` bytes that fit. -/
def follow (seen : Nat) : List Range → List UInt8 → Scan
  | [], _ => .whole seen
  | _ :: _, [] => .short
  | r :: rs, b :: bs => if r.has b then follow (seen + 1) rs bs else .broken seen

/-- Looks at the character that begins at the head of the bytes. -/
def scan : List UInt8 → Scan
  | [] => .short
  | b :: bs =>
    match followers? b with
    | none => .broken 1
    | some ranges => follow 1 ranges bs

/-- Walks over whole characters, at most `fuel` of them, to the first fault. -/
def locateFrom (index : Nat) : Nat → List UInt8 → Fault
  | 0, _ => .incomplete index
  | fuel + 1, bs =>
    match scan bs with
    | .whole length => locateFrom (index + length) fuel (bs.drop length)
    | .broken length => .invalid length index
    | .short => .incomplete index

/-- The first fault of bytes that are not text. Every character takes at least one byte, so as many
steps as there are bytes are enough. -/
def locate (bs : ByteArray) : Fault :=
  locateFrom 0 (bs.size + 1) bs.data.toList

/-- The text that bytes stand for, or the place of their first fault. -/
def decode (bs : ByteArray) : Except Fault String :=
  match String.fromUTF8? bs with
  | some text => .ok text
  | none => .error (locate bs)

/-- The bytes of a text. -/
def encode (s : String) : ByteArray :=
  s.toUTF8

/-- Reading back what was written gives the same text. -/
theorem decode_encode (s : String) : decode (encode s) = .ok s := by
  have valid : String.fromUTF8? (encode s) = some s := by
    simp [String.fromUTF8?, encode, s.isValidUTF8]
    rfl
  rw [decode, valid]

/-- Only the bytes of a text are read as that text. -/
theorem encode_of_decode {bs : ByteArray} {s : String} (h : decode bs = .ok s) :
    encode s = bs := by
  unfold decode String.fromUTF8? at h
  by_cases valid : bs.IsValidUTF8
  · simp only [valid, ↓reduceDIte, Except.ok.injEq] at h
    subst h
    rfl
  · simp [valid] at h

end Interprocess.Utf8
