import ProcWire.Digest.Sha256
import ProcWire.Request.Message

/-! # Login requests

A login request names the service and the user and carries the SHA-256 digest of
the password.  The password itself is not kept.
-/
namespace ProcWire

/-- The request that opens a connection. -/
structure LoginRequest where
  username : String
  /-- The SHA-256 digest of the password. -/
  digest : Bytes
  length_digest : digest.length = 32

namespace LoginRequest

/-- The service that every login asks for. -/
def service : String := "database"

/-- The login request of a user with a password. -/
def ofPassword (username password : String) : LoginRequest where
  username := username
  digest := Sha256.digest (Utf8.ofString password)
  length_digest := Sha256.length_digest _

/-- Writes a login request part by part.  The digest has a fixed size and no length prefix. -/
def write (request : LoginRequest) : Writer := do
  Writer.string service
  Writer.string request.username
  Writer.raw request.digest

/-- The bytes of a login request, within the limits. -/
def encode (request : LoginRequest) (limits : Limits) : Except WireError Bytes :=
  request.write.message limits

/-- Writes a login request as a whole. -/
def send (request : LoginRequest) (limits : Limits) : Writer := request.write.whole limits

/-- A request as it is shown; the digest is not. -/
def display (request : LoginRequest) : String :=
  "LoginRequest \x7b username: " ++ Quoted.string request.username.toList ++
    ", password_digest: \"<redacted>\" \x7d"

end LoginRequest

end ProcWire
