import ProcWire.Config

/-! # Sessions

A session is a process in a directory.  Files come and go there and variables are set, while the
process loads its configuration from the directory and saves it again.  A load may leave
something in the environment, and a step that fails need not leave everything as it was.

A step may panic: over a name or a value that no variable can have, and a load over its environment
file.  What such a load has added is there for whoever catches the panic.
-/
namespace ProcWire

/-- A process and its directory. -/
structure Session where
  files : Files := {}
  environment : Environment := {}

namespace Session

/-- What can happen in a session. -/
inductive Step where
  | write (path : String) (content : Bytes)
  | remove (path : String)
  | setVariable (name value : String)
  | unsetVariable (name : String)
  | load
  | save (config : Config)

/-- What comes of a step. -/
inductive Answer where
  | done
  /-- A file cannot be written. -/
  | refused (fault : FileFault)
  | loaded (config : Config)
  | failed (error : ConfigError)
  | panicked
  deriving DecidableEq, Repr

/-- Takes a step. -/
def step (session : Session) : Step → Answer × Session
  | .write path content =>
    match session.files.create path content with
    | .ok files => (.done, { session with files := files })
    | .error fault => (.refused fault, session)
  | .remove path => (.done, { session with files := session.files.remove path })
  | .setVariable name value =>
    if Environment.Nameable name ∧ Environment.Settable value then
      (.done, { session with environment := session.environment.set name value })
    else (.panicked, session)
  | .unsetVariable name =>
    if Environment.Nameable name then
      (.done, { session with environment := session.environment.unset name })
    else (.panicked, session)
  | .load =>
    let (result, environment) := Config.load? session.files.view session.environment
    match result with
    | some (.ok config) => (.loaded config, { session with environment := environment })
    | some (.error error) => (.failed error, { session with environment := environment })
    | none => (.panicked, { session with environment := environment })
  | .save config =>
    match config.save session.files with
    | .ok files => (.done, { session with files := files })
    | .error error => (.failed error, session)

/-- The session behind a step. -/
def after (session : Session) (step : Step) : Session := (session.step step).2

/-- The session behind some steps. -/
def run (session : Session) (steps : List Step) : Session := steps.foldl after session

end Session

end ProcWire
