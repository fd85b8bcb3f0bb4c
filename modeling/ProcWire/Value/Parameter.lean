import ProcWire.Calendar.Rfc3339
import ProcWire.Numeral.Binary64
import ProcWire.Text.Hex
import ProcWire.Value

/-! # Parameters as text

On the command line a parameter is written `KIND:VALUE`.  A scalar kind reads its
value by itself.  `null:TYPE` is a typed null, and `array:KIND:V1,V2,…` an array
whose elements are all read by one scalar kind.  Colons behind the ones that
separate belong to the value; a comma always separates elements.
-/
namespace ProcWire.Parameter

/-- The error for a part of a parameter. -/
def fault (text : List Char) (fault : ParameterFault) : WireError :=
  .invalidValue (.badParameter text fault)

/-- What stands before and behind the first occurrence of a character. -/
def cut? (c : Char) (text : List Char) : Option (List Char × List Char) :=
  match text.dropWhile (· ≠ c) with
  | [] => none
  | _ :: rest => some (text.takeWhile (· ≠ c), rest)

/-- The kinds whose value is read as a whole. -/
inductive Scalar where
  | bool
  | tinyInt
  | short
  | int
  | long
  | float
  | string
  | bytes
  | timestamp
  deriving DecidableEq, Repr

namespace Scalar

/-- Every scalar kind. -/
def all : List Scalar := [bool, tinyInt, short, int, long, float, string, bytes, timestamp]

/-- The word for a kind. -/
def name : Scalar → List Char
  | bool => "bool".toList
  | tinyInt => "tinyint".toList
  | short => "short".toList
  | int => "int".toList
  | long => "long".toList
  | float => "float".toList
  | string => "string".toList
  | bytes => "bytes".toList
  | timestamp => "timestamp".toList

/-- The kind that a word names. -/
def ofName? (name : List Char) : Option Scalar := all.find? (·.name = name)

/-- A truth value, spelt out. -/
def bool? (text : List Char) : Option Bool :=
  if text = "true".toList then some true
  else if text = "false".toList then some false
  else none

/-- A timestamp: an integer in microseconds, or a date with a time. -/
def timestamp? (text : List Char) : Option Value :=
  match Numeral.signed? 64 text with
  | some micros => some (.timestamp (Int64.ofInt micros))
  | none => (Rfc3339.instant? text).map Value.ofInstant

/-- What was read, or what is wrong if nothing was. -/
def orFault (fault : ParameterFault) : Option Value → Except ParameterFault Value
  | some v => .ok v
  | none => .error fault

/-- Reads the value of a text under a kind. -/
def read : Scalar → List Char → Except ParameterFault Value
  | bool, text => orFault .notBool ((bool? text).map .bool)
  | tinyInt, text =>
    orFault (.notInteger 8) ((Numeral.signed? 8 text).map fun z => .tinyInt (Int8.ofInt z))
  | short, text =>
    orFault (.notInteger 16) ((Numeral.signed? 16 text).map fun z => .short (Int16.ofInt z))
  | int, text =>
    orFault (.notInteger 32) ((Numeral.signed? 32 text).map fun z => .int (Int32.ofInt z))
  | long, text =>
    orFault (.notInteger 64) ((Numeral.signed? 64 text).map fun z => .long (Int64.ofInt z))
  | float, text => orFault .notFloat ((Binary64.ofText? text).map .float)
  | string, text => .ok (.string (String.ofList text))
  | bytes, text => orFault .notHex ((Hex.decode (Utf8.encode text)).toOption.map .varbinary)
  | timestamp, text => orFault .notTimestamp (timestamp? text)

end Scalar

/-- Reads a scalar, its kind given by name. -/
def scalar (kind text : List Char) : Except WireError Value :=
  match Scalar.ofName? kind with
  | none => .error (fault kind .unknownKind)
  | some scalar => (scalar.read text).mapError (fault text)

/-- The wire type that a word names; two of them have a second name. -/
def wireType (name : List Char) : Except WireError WireType :=
  if name = "tinyint".toList then .ok .bool
  else if name = "bytes".toList then .ok .varbinary
  else
    match WireType.ofName? (String.ofList name) with
    | some type => .ok type
    | none => .error (fault name .unknownType)

/-- Reads the elements of an array, which commas separate; of no text there are none.  The
first element that cannot be read is reported. -/
def elements (kind text : List Char) : Except WireError (List Value) :=
  if text.isEmpty then .ok [] else (text.splitOn ',').mapM (scalar kind)

/-- Reads a parameter. -/
def parse (input : List Char) : Except WireError Value :=
  match cut? ':' input with
  | none => .error (fault input .noKind)
  | some (kind, text) =>
    if kind = "null".toList then do
      let type ← wireType text
      Value.null? type
    else if kind = "array".toList then
      match cut? ':' text with
      | none => .error (fault input .noElementKind)
      | some (kind, text) => do
        let items ← elements kind text
        Value.array? items
    else
      scalar kind text

end ProcWire.Parameter
