/-!
# Hexadecimal text

Numbers appear in error texts in base sixteen, and bytes are shown as two lower-case digits each.
`digits` writes a number, `padLeft` brings it to a width, and `ofBytes` and `toBytes?` take bytes
to text and back.
-/

set_option autoImplicit false

namespace Interprocess.Hex

/-- The lower-case digits of a number, without leading zeros. -/
def digits (n : Nat) : List Char :=
  Nat.toDigits 16 n

/-- Brings a row of digits to at least `width` characters with zeros in front. -/
def padLeft (width : Nat) (cs : List Char) : List Char :=
  List.replicate (width - cs.length) '0' ++ cs

/-- A number marked as hexadecimal. -/
def marked (n : Nat) : String :=
  String.ofList ('0' :: 'x' :: digits n)

/-- A number marked as hexadecimal, with at least four digits. -/
def marked4 (n : Nat) : String :=
  String.ofList ('0' :: 'x' :: padLeft 4 (digits n))

/-- A 64-bit number as sixteen upper-case digits. -/
def upper16 (n : UInt64) : String :=
  String.ofList (padLeft 16 ((digits n.toNat).map Char.toUpper))

/-- The digit for a number below sixteen. -/
def digit (n : Nat) : Char :=
  Nat.digitChar n

/-- The two digits of a byte, high half first. -/
def ofByte (b : UInt8) : List Char :=
  [digit (b.toNat / 16), digit (b.toNat % 16)]

/-- Bytes as text, two digits each. -/
def ofBytes (bs : ByteArray) : String :=
  String.ofList (bs.data.toList.flatMap ofByte)

/-- The number that a digit of either case stands for. -/
def value? (c : Char) : Option Nat :=
  if '0' ≤ c ∧ c ≤ '9' then some (c.toNat - '0'.toNat)
  else if 'a' ≤ c ∧ c ≤ 'f' then some (c.toNat - 'a'.toNat + 10)
  else if 'A' ≤ c ∧ c ≤ 'F' then some (c.toNat - 'A'.toNat + 10)
  else none

/-- Adds the bytes that pairs of digits stand for; refuses other characters and odd counts. -/
def pushBytes? (bs : ByteArray) : List Char → Option ByteArray
  | [] => some bs
  | [_] => none
  | a :: b :: rest =>
    match value? a, value? b with
    | some high, some low => pushBytes? (bs.push (UInt8.ofNat (16 * high + low))) rest
    | _, _ => none

/-- The bytes that pairs of digits stand for. -/
def toBytes? (s : String) : Option ByteArray :=
  pushBytes? ByteArray.empty s.toList

end Interprocess.Hex
