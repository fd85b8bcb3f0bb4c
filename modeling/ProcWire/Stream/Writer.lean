import ProcWire.Stream

/-! # Writing primitives

The counterparts of the reading primitives.  Each is one or two offers to the
sink: the word itself, or a length and then its payload.
-/
namespace ProcWire.Writer

/-- A signed 8-bit integer. -/
def byte (v : Int8) : Writer := raw (Bytes.ofNat 1 v.toUInt8.toNat)

/-- A signed 16-bit integer. -/
def short (v : Int16) : Writer := raw (Bytes.ofNat 2 v.toUInt16.toNat)

/-- A signed 32-bit integer. -/
def int (v : Int32) : Writer := raw (Bytes.ofNat 4 v.toUInt32.toNat)

/-- A signed 64-bit integer. -/
def long (v : Int64) : Writer := raw (Bytes.ofNat 8 v.toUInt64.toNat)

/-- The bit pattern of a 64-bit float. -/
def float (bits : UInt64) : Writer := raw (Bytes.ofNat 8 bits.toNat)

/-- A truth value, as the byte 0 or 1. -/
def boolean (v : Bool) : Writer := byte (if v then 1 else 0)

/-- The greatest length that a 32-bit prefix can announce. -/
def maxCount : Nat := 0x7FFFFFFF

/-- A payload behind its 32-bit length. -/
def counted (field : String) (payload : Bytes) : Writer :=
  if payload.length ≤ maxCount then do
    int (Int32.ofNat payload.length)
    raw payload
  else
    Transfer.fail (.invalidValue (.fieldTooLong field payload.length))

/-- A string. -/
def string (text : String) : Writer := counted "string" (Utf8.ofString text)

/-- A byte array. -/
def varbinary (data : Bytes) : Writer := counted "varbinary" data

/-- A point in time, in microseconds since 1970-01-01T00:00:00Z. -/
def timestamp (micros : Int64) : Writer := long micros

end ProcWire.Writer
