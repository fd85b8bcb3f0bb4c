import ProcWire.CommandLine.Run

/-! # The program

The outermost layer.  It looks up what the command line can see of the world (three files at
most, the standard input, and the variables that can matter), hands it to the pure run, and
carries out the outcome.
-/
namespace ProcWire.Program

/-- Whether there is something at a path. -/
def isThere (path : String) : IO Bool := do
  try
    let _ ← IO.FS.realPath path
    pure true
  catch _ => pure false

/-- The contents of a file, or why it cannot be read. -/
def readFile (path : String) : IO (Except FileFault Bytes) := do
  try
    let content ← IO.FS.readBinFile path
    pure (.ok content.toList)
  catch error =>
    let fault ← match error with
      | .noFileOrDirectory .. => pure .missing
      | .permissionDenied .. => if ← isThere path then pure .denied else pure .unsearchable
      | .inappropriateType _ code _ => pure (if code = 20 then .notDirectory else .directory)
      | .invalidArgument _ code _ => pure (if code = 36 then .nameTooLong else .directory)
      | _ => pure .directory
    pure (.error fault)

/-- The standard input, to its end. -/
partial def readAll (stream : IO.FS.Stream) (before : ByteArray) : IO ByteArray := do
  let chunk ← stream.read 65536
  if chunk.isEmpty then pure before else readAll stream (before ++ chunk)

/-- The paths that a command line can read. -/
def paths (arguments : CommandLine.Arguments) : List String :=
  let directory (name : String) : String :=
    if arguments.config.endsWith "/" then arguments.config ++ name
    else arguments.config ++ "/" ++ name
  let input := match arguments.command with
    | .decodeLogin decode | .decodeCall decode => [decode.input]
    | _ => []
  [directory Config.fileName, directory Config.envFileName] ++ input

/-- The names whose values can matter: those of the limits, and every name that the environment
file may assign or refer to. -/
def names (envFile : Bytes) : List String :=
  let referred (line : List Char) : List String :=
    (line.splitOn '$').flatMap fun piece =>
      let plain := String.ofList (piece.takeWhile Text.isAlphanumeric)
      match piece with
      | '\x7b' :: rest => [plain, String.ofList (rest.takeWhile fun c => c ≠ '\x7d' && c ≠ '=')]
      | _ => [plain]
  let assigned (line : List Char) : List String :=
    match EnvFile.statement? (fun _ => []) line with
    | some (.assign name _) => [String.ofList name]
    | _ => []
  Config.messageSizeVariable :: Config.fieldLengthVariable ::
    (EnvFile.logicalLines envFile).flatMap fun line => assigned line ++ referred line

/-- The values of names in the environment of the process. -/
def environment (names : List String) : IO Environment := do
  let mut env : Environment := {}
  for name in names do
    if let some value ← IO.getEnv name then
      env := env.set name value
  pure env

/-- What a command line can see of the world. -/
def surroundings (arguments : CommandLine.Arguments) : IO CommandLine.Surroundings := do
  let mut found : List (String × Except FileFault Bytes) := []
  for path in paths arguments do
    found := (path, ← readFile path) :: found
  let files : FileView := fun path => (found.lookup path).getD (.error .missing)
  let envFile := match files.within arguments.config Config.envFileName with
    | .ok content => content
    | .error _ => []
  let stdin ← match arguments.command with
    | .decodeLogin decode | .decodeCall decode =>
      if decode.input = "-" then readAll (← IO.getStdin) .empty else pure .empty
    | _ => pure .empty
  pure { environment := ← environment (names envFile), files := files, stdin := stdin.toList }

/-- Runs the program on its arguments, and gives its exit code. -/
def run (argv : List String) : IO UInt32 := do
  let view ← match CommandLine.parse argv with
    | .ok arguments => surroundings arguments
    | .error _ => pure { files := fun _ => .error .missing }
  let outcome := CommandLine.run argv view
  (← IO.getStdout).putStr outcome.stdout
  (← IO.getStderr).putStr outcome.stderr
  pure outcome.exitCode

end ProcWire.Program

/-- Encodes requests and decodes responses of the procedure call protocol. -/
def main (argv : List String) : IO UInt32 := ProcWire.Program.run argv
