import ProcWire.Stream.Writer
import ProcWire.Value

/-! # Marshalling

A value is written as its tag and then the payload of its type.  An array writes
its element count and then its elements, each with a tag of its own.
-/
namespace ProcWire

/-- The tag byte of a type. -/
def WireType.write (type : WireType) : Writer := Writer.byte type.tag

/-- The tag and NULL sentinel of a type, if it has one; nothing is written if not. -/
def WireType.writeNull (type : WireType) : Writer :=
  match type.nullPayload? with
  | some payload => do
    type.write
    Writer.raw payload
  | none => Transfer.fail (.unsupportedNullType type)

namespace Value

mutual

/-- Writes a value. -/
def marshal : Value → Writer
  | bool v => do
    WireType.bool.write
    Writer.boolean v
  | tinyInt v => do
    WireType.bool.write
    Writer.byte v
  | short v => do
    WireType.short.write
    Writer.short v
  | int v => do
    WireType.int.write
    Writer.int v
  | long v => do
    WireType.long.write
    Writer.long v
  | float bits => do
    WireType.float.write
    Writer.float bits
  | string text => do
    WireType.string.write
    Writer.string text
  | varbinary data => do
    WireType.varbinary.write
    Writer.varbinary data
  | timestamp micros => do
    WireType.timestamp.write
    Writer.timestamp micros
  | array items => do
    WireType.array.write
    Writer.short (Int16.ofNat items.length)
    marshalAll items
  | null type => type.type.writeNull

/-- Writes values one after another; the first that fails ends it. -/
def marshalAll : List Value → Writer
  | [] => pure ()
  | v :: rest => do
    marshal v
    marshalAll rest

end

end Value

end ProcWire
