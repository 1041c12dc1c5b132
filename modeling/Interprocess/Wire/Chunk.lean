/-!
# Chunks

A row of bytes travels in chunks of bounded length, whatever it contains. `chunks` cuts a row into
pieces of one length, with a shorter one at the end for what is left over.
-/

set_option autoImplicit false

namespace Interprocess

/-- The number of chunks of a given length that a row of bytes takes. -/
def chunkCount (length size : Nat) : Nat := (size + length - 1) / length

/-- A row of bytes in chunks of a given length. -/
def chunks (length : Nat) (bs : ByteArray) : List ByteArray :=
  (List.range (chunkCount length bs.size)).map fun i =>
    bs.extract (i * length) (min ((i + 1) * length) bs.size)

end Interprocess
