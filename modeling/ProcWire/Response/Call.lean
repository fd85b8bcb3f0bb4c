import ProcWire.Response.Table

/-! # Procedure call responses

A response echoes the handle of its request and carries two statuses, that of the
server and that of the procedure, each with an optional text.  A byte of flags
says which texts are present.  The result tables come last.
-/
namespace ProcWire

/-- The answer to a procedure call. -/
structure CallResponse where
  handle : Int64
  /-- The byte of flags as received; only two of its bits have a meaning. -/
  fieldsPresent : UInt8
  statusCode : Int8
  statusText : Option String
  appStatusCode : Int8
  appStatusText : Option String
  /-- The time that the call took inside the cluster. -/
  roundTripTime : Int32
  tables : List Table
  deriving DecidableEq, Repr

namespace CallResponse

/-- The flag that announces a text for the status. -/
def statusTextFlag : UInt8 := 0x20

/-- The flag that announces a text for the procedure's own status. -/
def appStatusTextFlag : UInt8 := 0x80

/-- The code of a procedure that never set a status of its own. -/
def unsetAppStatus : Int8 := -128

/-- What the server says became of the call. -/
def status (response : CallResponse) : Status := Status.ofCode response.statusCode

/-- Whether the call succeeded. -/
def isSuccess (response : CallResponse) : Bool := response.status.isSuccess

/-- The status that the procedure set, if it set one. -/
def appStatus? (response : CallResponse) : Option Int8 :=
  if response.appStatusCode = unsetAppStatus then none else some response.appStatusCode

/-- The tables of a successful call; a call that failed is an error with the server's text. -/
def result (response : CallResponse) : Except WireError (List Table) :=
  if response.isSuccess then .ok response.tables
  else .error (.server response.status (response.statusText.getD ""))

/-- Reads a string if its flag is set. -/
def readText (fields flag : UInt8) (limits : Limits) : Reader (Option String) :=
  if fields &&& flag ≠ 0 then do
    let text ← Reader.string limits.fieldLength
    pure (some text)
  else
    pure none

/-- Reads a call response with its tables. -/
def read (limits : Limits) : Reader CallResponse := do
  let handle ← Reader.long
  let fields ← Reader.byte
  let statusCode ← Reader.byte
  let statusText ← readText fields.toUInt8 statusTextFlag limits
  let appStatusCode ← Reader.byte
  let appStatusText ← readText fields.toUInt8 appStatusTextFlag limits
  let roundTripTime ← Reader.int
  let tableCount ← Reader.short
  if tableCount < 0 then
    Transfer.fail (.negativeTableCount tableCount)
  else
    let tables ← Transfer.times tableCount.toNatClampNeg (Table.read limits)
    pure ⟨handle, fields.toUInt8, statusCode, statusText, appStatusCode, appStatusText,
      roundTripTime, tables⟩

end CallResponse

end ProcWire
