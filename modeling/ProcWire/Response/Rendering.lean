import ProcWire.Json
import ProcWire.Response.Call
import ProcWire.Response.Login

/-! # Responses as JSON

A decoded response is shown as a JSON object with one member for each of its
fields.  A status is shown by name, a code without a name as an object; rows are
shown in hexadecimal.
-/
namespace ProcWire

/-- A string that may be missing. -/
def Json.ofText? : Option String → Json
  | none => .null
  | some text => .string text

/-- A status by name, or its code. -/
def Status.toJson (status : Status) : Json :=
  match status.name? with
  | some name => .string name
  | none => .object [("other", .number status.code.toInt)]

/-- A table, column types and column names apart. -/
def Table.toJson (table : Table) : Json :=
  .object [
    ("status_code", .number table.statusCode.toInt),
    ("column_types", .array (table.columnTags.map fun tag => .number tag.toInt)),
    ("column_names", .array (table.columnNames.map .string)),
    ("rows", .array (table.rows.map fun row => .string (Hex.toString row)))]

/-- A login response. -/
def LoginResponse.toJson (response : LoginResponse) : Json :=
  .object [
    ("host_id", .number response.hostId.toInt),
    ("connection_id", .number response.connectionId.toInt),
    ("leader_address", .number response.leaderAddress.toInt),
    ("build_string", .string response.build)]

/-- A call response with its tables. -/
def CallResponse.toJson (response : CallResponse) : Json :=
  .object [
    ("client_handle", .number response.handle.toInt),
    ("fields_present", .number response.fieldsPresent.toNat),
    ("status", response.status.toJson),
    ("status_string", .ofText? response.statusText),
    ("app_status", .number response.appStatusCode.toInt),
    ("app_status_string", .ofText? response.appStatusText),
    ("cluster_round_trip_time", .number response.roundTripTime.toInt),
    ("tables", .array (response.tables.map Table.toJson))]

end ProcWire
