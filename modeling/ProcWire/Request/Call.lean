import ProcWire.Request.Login
import ProcWire.Value.Marshal

/-! # Procedure call requests

A call request names a procedure, carries a handle that the response will echo,
and lists the parameters.  Their number is checked before anything is written.
-/
namespace ProcWire

/-- The request to run a procedure. -/
structure CallRequest where
  procedure : String
  /-- Chosen by the caller and echoed in the response. -/
  handle : Int64
  params : List Value

namespace CallRequest

/-- The most parameters that a call may have. -/
def maxParams : Nat := 32767

/-- Writes a call request part by part.  The first byte is the kind of timeout; this client sets
none. -/
def write (request : CallRequest) : Writer :=
  if request.params.length > maxParams then
    Transfer.fail (.invalidValue (.tooManyParameters request.params.length))
  else do
    Writer.byte 0
    Writer.string request.procedure
    Writer.long request.handle
    Writer.short (Int16.ofNat request.params.length)
    Value.marshalAll request.params

/-- The bytes of a call request, within the limits. -/
def encode (request : CallRequest) (limits : Limits) : Except WireError Bytes :=
  request.write.message limits

/-- Writes a call request as a whole. -/
def send (request : CallRequest) (limits : Limits) : Writer := request.write.whole limits

end CallRequest

end ProcWire
