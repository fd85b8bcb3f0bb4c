import ProcWire.Kind
import ProcWire.Status
import ProcWire.Text.Quoted
import ProcWire.Text.Utf8
import ProcWire.WireType

/-! # Errors

Everything that can go wrong with a message is a `WireError`.  The error says
what happened; the sentence shown to a user is computed from it by `message`, and
the coarse questions a caller asks (was it the stream, the server, or the
message itself?) are predicates on it.
-/
namespace ProcWire

/-- What a byte stream can do wrong. -/
inductive StreamFault where
  /-- The stream ended before the bytes asked for. -/
  | exhausted
  /-- The sink took only part of the bytes offered. -/
  | full
  deriving DecidableEq, Repr

/-- The wording of a stream fault. -/
def StreamFault.message : StreamFault → String
  | exhausted => "failed to fill whole buffer"
  | full => "failed to write whole buffer"

/-- A received message that breaks the protocol's rules. -/
inductive ProtocolFault where
  /-- A length prefix below zero that is not the NULL marker. -/
  | negativeLength (field : String) (length : Int32)
  | negativeColumnCount (count : Int16)
  | negativeRowCount (count : Int32)
  /-- A table with `types` column types and a different number of column names. -/
  | columnMismatch (types names : Nat)
  | invalidUtf8 (defect : Utf8.Defect)
  deriving DecidableEq, Repr

/-- The wording of a protocol fault. -/
def ProtocolFault.message : ProtocolFault → String
  | negativeLength field length => s!"negative {field} length {length.toInt}"
  | negativeColumnCount count => s!"negative column count {count.toInt}"
  | negativeRowCount count => s!"negative row count {count.toInt}"
  | columnMismatch types names => s!"{types} column types but {names} column names"
  | invalidUtf8 defect => s!"invalid UTF-8 in string: {defect.message}"

/-- What keeps a text from being a parameter. -/
inductive ParameterFault where
  /-- No kind stands in front of the value. -/
  | noKind
  /-- No kind of element stands in front of the elements of an array. -/
  | noElementKind
  | unknownKind
  | unknownType
  | notBool
  /-- No integer, or none that so many bits hold. -/
  | notInteger (width : Nat)
  | notFloat
  | notHex
  | notTimestamp
  deriving DecidableEq, Repr

/-- The wording of a parameter fault. -/
def ParameterFault.message : ParameterFault → String
  | noKind => "expected KIND:VALUE"
  | noElementKind => "expected array:KIND:V1,V2,..."
  | unknownKind => "unknown parameter kind"
  | unknownType => "unknown type"
  | notBool => "not a bool"
  | notInteger 8 => "not an 8-bit integer"
  | notInteger width => s!"not a {width}-bit integer"
  | notFloat => "not a float"
  | notHex => "not hex"
  | notTimestamp => "not RFC 3339 or integer microseconds"

/-- A value, or the text of one, that has no place in a request. -/
inductive ValueFault where
  /-- More elements than a 16-bit count can announce. -/
  | arrayTooLong (length : Nat)
  /-- An element of one kind in an array of another, or in an array of nulls. -/
  | mixedArray (found : Kind) (among : Option Kind)
  /-- More parameters than a 16-bit count can announce. -/
  | tooManyParameters (count : Nat)
  /-- More bytes than a 32-bit length prefix can announce. -/
  | fieldTooLong (field : String) (length : Nat)
  /-- Text that is no parameter: the offending part, and what is wrong with it. -/
  | badParameter (text : List Char) (fault : ParameterFault)
  deriving DecidableEq, Repr

/-- The wording of a value fault. -/
def ValueFault.message : ValueFault → String
  | arrayTooLong length => s!"array of {length} elements exceeds the 16-bit element count"
  | mixedArray found among =>
    s!"array elements must share one type, found {found.name} among " ++
      (among.map Kind.name).getD "nulls"
  | tooManyParameters count => s!"{count} parameters exceed the 16-bit parameter count"
  | fieldTooLong field length =>
    s!"{field} of {length} bytes does not fit a 32-bit length prefix"
  | badParameter text fault => s!"{Quoted.string text}: {fault.message}"

/-- Everything that can go wrong with a message. -/
inductive WireError where
  /-- The byte stream failed. -/
  | io (fault : StreamFault)
  /-- The server refused the login. -/
  | authenticationFailed (code : Int8)
  /-- The server answered a call with a status other than success. -/
  | server (status : Status) (message : String)
  | negativeTableCount (count : Int16)
  /-- A row that ended before its declared length. -/
  | framing (expected actual : Nat)
  | protocol (fault : ProtocolFault)
  /-- A declared length above the limit in force. -/
  | limitExceeded (field : String) (length max : Nat)
  | invalidValue (fault : ValueFault)
  /-- A null of a type that has no null on the wire. -/
  | unsupportedNullType (type : WireType)
  /-- A request longer than the limit in force. -/
  | messageTooLarge
  deriving DecidableEq, Repr

namespace WireError

/-- The sentence shown for an error. -/
def message : WireError → String
  | io fault => s!"IO error: {fault.message}"
  | authenticationFailed code => s!"Authentication failed (result code {code.toInt})"
  | server status text => s!"Server rejected call with status {status.label}: {text}"
  | negativeTableCount count => s!"Bad table count in procedure response: {count.toInt}"
  | framing expected actual => s!"Framing error: expected {expected} bytes, got {actual}"
  | protocol fault => s!"Protocol error: {fault.message}"
  | limitExceeded field length max => s!"Length {length} of {field} exceeds limit {max}"
  | invalidValue fault => s!"Invalid value: {fault.message}"
  | unsupportedNullType type => s!"Unexpected null type {type.label}"
  | messageTooLarge => "Message too large"

/-- The byte stream failed. -/
def isIo : WireError → Bool
  | io _ => true
  | _ => false

/-- The server understood the request and refused it. -/
def isServerRejection : WireError → Bool
  | authenticationFailed _ | server _ _ => true
  | _ => false

/-- The request was refused before a byte of it was written. -/
def isEncodeFailure : WireError → Bool
  | invalidValue _ | unsupportedNullType _ | messageTooLarge => true
  | _ => false

/-- A message could not be built or read within the protocol's rules; encode failures are among
these. -/
def isProtocolViolation : WireError → Bool
  | negativeTableCount _ | framing _ _ | protocol _ | limitExceeded _ _ _ => true
  | error => error.isEncodeFailure

end WireError

end ProcWire
