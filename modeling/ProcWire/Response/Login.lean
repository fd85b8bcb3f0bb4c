import ProcWire.Limits
import ProcWire.Stream.Reader

/-! # Login responses

The server answers a login with a result byte.  Zero accepts, and what follows
advertises the server; anything else refuses, and nothing follows.
-/
namespace ProcWire

/-- What a server says about itself when it accepts a login. -/
structure LoginResponse where
  hostId : Int32
  connectionId : Int64
  /-- The IPv4 address of the leader, first byte most significant. -/
  leaderAddress : Int32
  build : String
  deriving DecidableEq, Repr

namespace LoginResponse

/-- The leader's address in dotted form. -/
def leaderIpv4 (response : LoginResponse) : String :=
  let bytes := Bytes.ofNat 4 response.leaderAddress.toUInt32.toNat
  ".".intercalate (bytes.map fun b => Nat.repr b.toNat)

/-- Reads a login response.  Eight bytes of it, the time at which the cluster started, are
skipped. -/
def read (limits : Limits) : Reader LoginResponse := do
  let result ← Reader.byte
  if result ≠ 0 then
    Transfer.fail (.authenticationFailed result)
  else
    let hostId ← Reader.int
    let connectionId ← Reader.long
    let _clusterStart ← Reader.long
    let leaderAddress ← Reader.int
    let build ← Reader.string limits.fieldLength
    pure ⟨hostId, connectionId, leaderAddress, build⟩

end LoginResponse

end ProcWire
