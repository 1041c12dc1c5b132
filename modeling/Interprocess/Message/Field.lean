import Interprocess.Message.Read
import Interprocess.Message.Write

/-!
# Fields

A payload is a row of fields. `Field` is one of them with its value and `Field.Kind` what a reader
has to know beforehand: its type, and of raw bytes their number. `Field.write` and `Field.Kind.read`
choose the operation for a field, so that a payload can be handled as a list.
-/

set_option autoImplicit false

namespace Interprocess

/-- One field of a payload. -/
inductive Field
  | u32 (x : UInt32)
  | i32 (x : Int32)
  | u64 (x : UInt64)
  | i64 (x : Int64)
  | bool (b : Bool)
  | bytes (bs : ByteArray)
  | data (bs : ByteArray)
  | text (s : String)
  | handle (h : Handle)
  | port (p : Port)
deriving DecidableEq

/-- What a reader has to know about a field. -/
inductive Field.Kind
  | u32
  | i32
  | u64
  | i64
  | bool
  | bytes (length : Nat)
  | data
  | text
  | handle
  | port
deriving DecidableEq, Repr

namespace Field

/-- The kind of a field. -/
def kind : Field → Kind
  | u32 _ => .u32
  | i32 _ => .i32
  | u64 _ => .u64
  | i64 _ => .i64
  | bool _ => .bool
  | bytes bs => .bytes bs.size
  | data _ => .data
  | text _ => .text
  | handle _ => .handle
  | port _ => .port

/-- Writes a field at the end of a payload. -/
def write : Field → MessageM Unit
  | u32 x => Message.writeU32 x
  | i32 x => Message.writeI32 x
  | u64 x => Message.writeU64 x
  | i64 x => Message.writeI64 x
  | bool b => Message.writeBool b
  | bytes bs => Message.writeBytes bs
  | data bs => Message.writeData bs
  | text s => Message.writeText s
  | handle h => Message.writeHandle h
  | port p => Message.writePort p

/-- Writes fields one after the other, up to the first that is refused. -/
def writeAll (fs : List Field) : MessageM Unit :=
  fs.forM write

/-- Reads a field of a kind. -/
def Kind.read : Kind → ReadM Field
  | u32 => return .u32 (← Reader.readU32)
  | i32 => return .i32 (← Reader.readI32)
  | u64 => return .u64 (← Reader.readU64)
  | i64 => return .i64 (← Reader.readI64)
  | bool => return .bool (← Reader.readBool)
  | bytes length => return .bytes (← Reader.readBytes length)
  | data => return .data (← Reader.readData)
  | text => return .text (← Reader.readText)
  | handle => return .handle (← Reader.readHandle)
  | port => return .port (← Reader.readPort)

end Field

end Interprocess
