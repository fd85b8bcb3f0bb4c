/-! # Response statuses

A response to a call carries a status byte.  Ten codes have a name; any other
code stands for itself.
-/
namespace ProcWire

/-- What the server says became of a call. -/
inductive Status where
  | success
  | userAbort
  | gracefulFailure
  | unexpectedFailure
  | connectionLost
  | serverUnavailable
  | connectionTimeout
  | responseUnknown
  | txnRestart
  | operationalFailure
  | other (code : Int8)
  deriving DecidableEq, Repr

namespace Status

/-- The status with a given code. -/
def ofCode (code : Int8) : Status :=
  if code = 1 then success
  else if code = -1 then userAbort
  else if code = -2 then gracefulFailure
  else if code = -3 then unexpectedFailure
  else if code = -4 then connectionLost
  else if code = -5 then serverUnavailable
  else if code = -6 then connectionTimeout
  else if code = -7 then responseUnknown
  else if code = -8 then txnRestart
  else if code = -9 then operationalFailure
  else other code

/-- The status byte. -/
def code : Status → Int8
  | success => 1
  | userAbort => -1
  | gracefulFailure => -2
  | unexpectedFailure => -3
  | connectionLost => -4
  | serverUnavailable => -5
  | connectionTimeout => -6
  | responseUnknown => -7
  | txnRestart => -8
  | operationalFailure => -9
  | other code => code

/-- Whether the call succeeded. -/
def isSuccess (status : Status) : Bool := status = success

/-- The name under which a status is reported, or nothing for a code without a name. -/
def name? : Status → Option String
  | success => some "success"
  | userAbort => some "user_abort"
  | gracefulFailure => some "graceful_failure"
  | unexpectedFailure => some "unexpected_failure"
  | connectionLost => some "connection_lost"
  | serverUnavailable => some "server_unavailable"
  | connectionTimeout => some "connection_timeout"
  | responseUnknown => some "response_unknown"
  | txnRestart => some "txn_restart"
  | operationalFailure => some "operational_failure"
  | other _ => none

/-- The status as error messages show it. -/
def label : Status → String
  | success => "Success"
  | userAbort => "UserAbort"
  | gracefulFailure => "GracefulFailure"
  | unexpectedFailure => "UnexpectedFailure"
  | connectionLost => "ConnectionLost"
  | serverUnavailable => "ServerUnavailable"
  | connectionTimeout => "ConnectionTimeout"
  | responseUnknown => "ResponseUnknown"
  | txnRestart => "TxnRestart"
  | operationalFailure => "OperationalFailure"
  | other code => s!"Other({code.toInt})"

/-- No code is lost by naming it. -/
@[simp] theorem code_ofCode (code : Int8) : (ofCode code).code = code := by
  unfold ofCode
  repeat' split
  all_goals subst_vars; rfl

theorem ofCode_injective {a b : Int8} (h : ofCode a = ofCode b) : a = b := by
  simpa using congrArg code h

end Status

end ProcWire
