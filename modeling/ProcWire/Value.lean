import ProcWire.Calendar.Instant
import ProcWire.Error

/-! # Parameter values

A parameter of a procedure call is a `Value`: a scalar, a typed null, or an array
of values.  Two things are checked when a value is built, so that nothing can
go wrong when it is written.  A null must be of a type that has a NULL sentinel;
this is part of the type `NullType`.  An array must be short enough to count in
16 bits and its elements must be of one kind; this is what `array?` checks, and
`Constructible` collects the values that can be built that way at every depth.
-/
namespace ProcWire

/-- The payload that stands for NULL under a type's tag: the least integer, a float that no
column holds, or the length `-1`.  Three types have none. -/
def WireType.nullPayload? : WireType → Option Bytes
  | .bool => some (Bytes.ofNat 1 Int8.minValue.toUInt8.toNat)
  | .short => some (Bytes.ofNat 2 Int16.minValue.toUInt16.toNat)
  | .int => some (Bytes.ofNat 4 Int32.minValue.toUInt32.toNat)
  | .long | .timestamp => some (Bytes.ofNat 8 Int64.minValue.toUInt64.toNat)
  | .float => some (Bytes.ofNat 8 0xFFEE42D130773B76)
  | .string | .varbinary => some (Bytes.ofNat 4 (-1 : Int32).toUInt32.toNat)
  | .null | .decimal | .array => none

/-- A type that has a NULL sentinel. -/
structure NullType where
  type : WireType
  nullable : type.nullPayload?.isSome
  deriving DecidableEq

/-- The null type of a wire type, if that has a sentinel. -/
def NullType.ofWireType (type : WireType) : Except WireError NullType :=
  if nullable : type.nullPayload?.isSome then .ok ⟨type, nullable⟩
  else .error (.unsupportedNullType type)

/-- A parameter of a procedure call.  Floats are kept as bit patterns, so that every NaN goes
out as it came in. -/
inductive Value where
  | bool (v : Bool)
  /-- A single-byte integer, written under the tag of truth values. -/
  | tinyInt (v : Int8)
  | short (v : Int16)
  | int (v : Int32)
  | long (v : Int64)
  | float (bits : UInt64)
  | string (text : String)
  | varbinary (data : Bytes)
  /-- Microseconds since 1970-01-01T00:00:00Z. -/
  | timestamp (micros : Int64)
  | array (items : List Value)
  | null (type : NullType)

namespace Value

/-- Whether a value is a typed null. -/
def isNull : Value → Bool
  | null _ => true
  | _ => false

/-- The type whose tag a value is written with. -/
def wireType : Value → WireType
  | bool _ | tinyInt _ => .bool
  | short _ => .short
  | int _ => .int
  | long _ => .long
  | float _ => .float
  | string _ => .string
  | varbinary _ => .varbinary
  | timestamp _ => .timestamp
  | array _ => .array
  | null type => type.type

/-- The kind of a value. -/
def kind : Value → Kind
  | tinyInt _ => .tinyInt
  | null _ => .missing
  | v => .typed v.wireType

/-- The timestamp of an instant. -/
def ofInstant (instant : Instant) : Value := timestamp instant.micros

/-- The null of a wire type, if that has one. -/
def null? (type : WireType) : Except WireError Value := (NullType.ofWireType type).map null

/-- The most elements that an array may have. -/
def maxElements : Nat := 32767

/-- The first element that is not a null; it sets the kind of an array. -/
def firstConcrete (items : List Value) : Option Value := items.find? (!·.isNull)

/-- What the elements of an array must have in common. -/
structure ElementRule where
  /-- The kind of the elements that are not nulls, if there are any. -/
  kind : Option Kind
  /-- The wire type of the nulls. -/
  nullType : Option WireType
  deriving DecidableEq, Repr

/-- What the elements of an array of these items must have in common.  The first element that is
not a null sets the kind and the wire type; where all are nulls, the first sets the wire type. -/
def ElementRule.ofItems (items : List Value) : ElementRule where
  kind := (firstConcrete items).map Value.kind
  nullType := ((firstConcrete items).or items.head?).map wireType

/-- Whether an element belongs into an array: a null by its wire type, any other element by its
kind. -/
def ElementRule.admits (rule : ElementRule) : Value → Bool
  | null type => some type.type = rule.nullType
  | item => rule.kind.all (item.kind = ·)

/-- Builds an array.  Its length is checked first; then the first element that does not belong
is reported. -/
def array? (items : List Value) : Except WireError Value :=
  if items.length > maxElements then
    .error (.invalidValue (.arrayTooLong items.length))
  else
    let rule := ElementRule.ofItems items
    match items.find? (!rule.admits ·) with
    | none => .ok (array items)
    | some item => .error (.invalidValue (.mixedArray item.kind rule.kind))

/-- The values that can be built: every scalar and typed null, and the arrays that `array?`
builds of such values. -/
inductive Constructible : Value → Prop where
  | bool (v : Bool) : Constructible (.bool v)
  | tinyInt (v : Int8) : Constructible (.tinyInt v)
  | short (v : Int16) : Constructible (.short v)
  | int (v : Int32) : Constructible (.int v)
  | long (v : Int64) : Constructible (.long v)
  | float (bits : UInt64) : Constructible (.float bits)
  | string (text : String) : Constructible (.string text)
  | varbinary (data : Bytes) : Constructible (.varbinary data)
  | timestamp (micros : Int64) : Constructible (.timestamp micros)
  | null (type : NullType) : Constructible (.null type)
  | array {items : List Value} {v : Value} (items_constructible : ∀ item ∈ items, Constructible item)
      (built : array? items = .ok v) : Constructible v

/-- What `array?` builds holds the elements unchanged. -/
theorem eq_array_of_array? {items : List Value} {v : Value} (h : array? items = .ok v) :
    v = array items := by
  simp only [array?] at h
  split at h
  · contradiction
  · split at h
    · exact (Except.ok.inj h).symm
    · contradiction

theorem length_le_of_array? {items : List Value} {v : Value} (h : array? items = .ok v) :
    items.length ≤ maxElements := by
  simp only [array?] at h
  split at h
  · contradiction
  · omega

end Value

end ProcWire
