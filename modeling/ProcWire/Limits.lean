/-! # Size limits

Two bounds guard a client: how large a request it will build, and how large a
string, byte array or row it will accept from the server.
-/
namespace ProcWire

/-- The largest message that a server accepts, and the default of both limits: 50 MiB. -/
def maxMessageSize : Nat := 50 * 1024 * 1024

/-- The bounds in force while encoding and decoding. -/
structure Limits where
  /-- The largest encoded request. -/
  messageSize : Nat := maxMessageSize
  /-- The largest declared length of a received string, byte array or row. -/
  fieldLength : Nat := maxMessageSize
  deriving DecidableEq, Repr, Inhabited

end ProcWire
