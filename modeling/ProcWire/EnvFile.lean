import ProcWire.EnvFile.Assignment
import ProcWire.EnvFile.Lines
import ProcWire.Environment

/-! # Environment files

An environment file adds variables to an environment: a name that has a value already keeps
it.  The lines are taken in order, and the first malformed one ends the file.  A value may refer
to other names; these are looked up in the environment as it is by then, and only if they are not
there among the assignments of the file itself.

A malformed line is no failure, but there is one: where a name would get a value that no variable
can have, the program panics.  What has been added before stays added.
-/
namespace ProcWire.EnvFile

/-- What a name stands for where a value refers to it: what the environment has for it, or else the
value of the latest assignment in the file, or nothing at all. -/
def referent (env : Environment) (earlier : List (String × String)) (name : List Char) :
    List Char :=
  let name := String.ofList name
  ((env.find? name).getD ((earlier.lookup name).getD "")).toList

/-- What comes of an environment file. -/
structure Applied where
  /-- The environment that is left. -/
  environment : Environment
  /-- Whether the program panicked over a value. -/
  panicked : Bool

/-- Adds the variables that logical lines assign, in order, up to the first malformed line.
`earlier` are the assignments before them, latest first. -/
def applyFrom (env : Environment) (earlier : List (String × String)) :
    List (List Char) → Applied
  | [] => ⟨env, false⟩
  | line :: rest =>
    match statement? (referent env earlier) line with
    | none => ⟨env, false⟩
    | some .nothing => applyFrom env earlier rest
    | some (.assign name value) =>
      let name := String.ofList name
      let value := String.ofList value
      match env.add? name value with
      | none => ⟨env, true⟩
      | some env => applyFrom env ((name, value) :: earlier) rest

/-- Adds the variables of a file to an environment. -/
def apply (env : Environment) (content : Bytes) : Applied :=
  applyFrom env [] (logicalLines content)

end ProcWire.EnvFile
