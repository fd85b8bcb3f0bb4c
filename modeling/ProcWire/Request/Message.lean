import ProcWire.Limits
import ProcWire.Stream.Writer

/-! # Whole messages

A request can be written straight to a sink, part by part, or be encoded as a
whole first.  Encoding as a whole applies the limit on the size of a message, and
a request that cannot be encoded leaves the sink untouched.
-/
namespace ProcWire.Writer

/-- The bytes that a writer produces, provided they are no more than a message may have. -/
def message (writer : Writer) (limits : Limits) : Except WireError Bytes := do
  let bytes ← writer.bytes
  if bytes.length > limits.messageSize then .error .messageTooLarge
  else .ok bytes

/-- Encodes a whole message, and only then offers it to the sink. -/
def whole (writer : Writer) (limits : Limits) : Writer := do
  let bytes ← Transfer.lift (writer.message limits)
  raw bytes

end ProcWire.Writer
