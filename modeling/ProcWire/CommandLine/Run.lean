import ProcWire.CommandLine.Arguments
import ProcWire.Config
import ProcWire.Request.Call
import ProcWire.Response.Rendering
import ProcWire.Text.Blank
import ProcWire.Value.Parameter

/-! # Running a command line

A run loads the configuration, reads its parameters or its input, and encodes or decodes, in
this order.  The first of these stages that fails ends the run: nothing is printed, and the failure
is reported.  A run that succeeds prints one line, or one JSON text, and reports nothing.  A run
that panics over the environment file ends there.
-/
namespace ProcWire.CommandLine

/-- What a run can see of its surroundings. -/
structure Surroundings where
  environment : Environment := {}
  files : FileView
  stdin : Bytes := []

/-- How a run ends. -/
structure Outcome where
  exitCode : UInt32
  stdout : String := ""
  /-- The report of a failure, of a malformed configuration file only its beginning.  Log lines are
  left out, and so are the texts of a panic, of the usage and of the help. -/
  stderr : String := ""
  deriving DecidableEq, Repr

/-- Why a run fails. -/
inductive Failure where
  | config (error : ConfigError)
  | wire (error : WireError)
  /-- The input cannot be read. -/
  | unreadable (path : String) (fault : FileFault)
  /-- The hexadecimal input is not UTF-8. -/
  | notText (defect : Utf8.Defect)
  /-- The hexadecimal input is not hexadecimal. -/
  | notHex (fault : Hex.Fault)
  deriving DecidableEq, Repr

/-- The wording of a failure. -/
def Failure.message : Failure → String
  | config error => error.message
  | wire error => error.message
  | unreadable path _ => s!"Failed to read {path}"
  | notText _ => "Hex input is not text"
  | notHex _ => "Invalid hex input"

/-- What lies behind a failure, if its message does not say. -/
def Failure.cause? : Failure → Option String
  | config _ => none
  | wire (.io fault) => some fault.message
  | wire _ => none
  | unreadable _ fault => some fault.message
  | notText defect => some defect.message
  | notHex fault => some fault.message

/-- The report of a failure: its message, and its cause if there is one. -/
def Failure.report (failure : Failure) : String :=
  match failure.cause? with
  | none => s!"Error: {failure.message}\n"
  | some cause => s!"Error: {failure.message}\n\nCaused by:\n    {cause}\n"

/-- The bytes that a hexadecimal text spells, white space left out. -/
def bytesOfHex (content : Bytes) : Except Failure Bytes := do
  let text ← (Utf8.decode content).mapError .notText
  (Hex.decode (Utf8.encode (text.filter (!Text.isBlank ·)))).mapError .notHex

/-- The input of a decoding command. -/
def readInput (arguments : DecodeArguments) (surroundings : Surroundings) :
    Except Failure Bytes := do
  let content ←
    if arguments.input = "-" then .ok surroundings.stdin
    else (surroundings.files arguments.input).mapError (.unreadable arguments.input)
  if arguments.hex then bytesOfHex content else .ok content

/-- A result as it is shown. -/
def layOut (arguments : DecodeArguments) (json : Json) : String :=
  if arguments.pretty then json.pretty else json.compact

/-- Decodes an input with a reader.  What follows the response in the input is ignored. -/
def decode {α : Type} (reader : Reader α) (toJson : α → Json) (arguments : DecodeArguments)
    (surroundings : Surroundings) : Except Failure String := do
  let bytes ← readInput arguments surroundings
  let response ← (reader.run bytes).1.mapError .wire
  .ok (layOut arguments (toJson response))

/-- What a command prints, under the limits of the configuration. -/
def print (limits : Limits) (surroundings : Surroundings) : Command → Except Failure String
  | .login user password => do
    let bytes ← ((LoginRequest.ofPassword user password).encode limits).mapError .wire
    .ok (Hex.toString bytes)
  | .call procedure handle params => do
    let params ← (params.mapM fun param => Parameter.parse param.toList).mapError .wire
    let bytes ← ((CallRequest.mk procedure handle params).encode limits).mapError .wire
    .ok (Hex.toString bytes)
  | .decodeLogin arguments =>
    decode (LoginResponse.read limits) LoginResponse.toJson arguments surroundings
  | .decodeCall arguments =>
    decode (CallResponse.read limits) CallResponse.toJson arguments surroundings

/-- What a whole command line prints, unless it panics. -/
def execute (arguments : Arguments) (surroundings : Surroundings) :
    Option (Except Failure String) :=
  let directory := surroundings.files.within arguments.config
  (Config.load? directory surroundings.environment).1.map fun loaded => do
    let config ← loaded.mapError .config
    print config.limits surroundings arguments.command

/-- Runs a command line.  It exits with 0 if all goes well, with 1 if it fails, with 2 if it does
not fit, and with 101 if it panics. -/
def run (argv : List String) (surroundings : Surroundings) : Outcome :=
  match parse argv with
  | .error .help => { exitCode := 0 }
  | .error .usage => { exitCode := 2 }
  | .ok arguments =>
    match execute arguments surroundings with
    | some (.ok line) => { exitCode := 0, stdout := line ++ "\n" }
    | some (.error failure) => { exitCode := 1, stderr := failure.report }
    | none => { exitCode := 101 }

end ProcWire.CommandLine
