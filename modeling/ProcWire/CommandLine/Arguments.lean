import ProcWire.Numeral.Integer
import ProcWire.Text.Scanner

/-! # Command-line arguments

A command line is options, then the name of a command, then the command's own options and
operands.  An option is long or short; its value is joined to it or is the next argument, which
must not look like an option itself.  Behind a double hyphen everything is an operand.
Arguments are taken from left to right, and the first that does not fit makes the whole a usage
error.
-/
namespace ProcWire.CommandLine

/-- How an input to decode is given and how the result is shown. -/
structure DecodeArguments where
  /-- A path, or a hyphen for the standard input. -/
  input : String
  /-- Whether the input is hexadecimal text. -/
  hex : Bool
  /-- Whether the result is laid out over several lines. -/
  pretty : Bool
  deriving DecidableEq, Repr

/-- What a command line asks for. -/
inductive Command where
  | login (user password : String)
  | call (procedure : String) (handle : Int64) (params : List String)
  | decodeLogin (arguments : DecodeArguments)
  | decodeCall (arguments : DecodeArguments)
  deriving DecidableEq, Repr

/-- A whole command line. -/
structure Arguments where
  /-- The directory of the configuration. -/
  config : String
  command : Command
  deriving DecidableEq, Repr

/-- Why there are no arguments to go by. -/
inductive Refusal where
  /-- Help is asked for. -/
  | help
  /-- The command line does not fit. -/
  | usage
  deriving DecidableEq, Repr

/-- An option that a command knows. -/
structure Flag where
  long : String
  short : Option Char := none
  takesValue : Bool := true
  repeatable : Bool := false
  /-- Whether the option can have a value. -/
  accepts : String → Bool := fun _ => true

/-- What a command line gives: values by option, the last of them first, and operands in order. -/
structure Given where
  values : List (String × String) := []
  operands : List String := []

/-- The value of an option that can be given once. -/
def Given.value? (given : Given) (long : String) : Option String := given.values.lookup long

/-- Every value of an option, in order. -/
def Given.all (given : Given) (long : String) : List String :=
  ((given.values.filter (·.1 == long)).map Prod.snd).reverse

/-- Whether an option is given. -/
def Given.has (given : Given) (long : String) : Bool := (given.value? long).isSome

/-- Adds a value of an option.  Only a repeatable option may be given twice. -/
def Given.add (given : Given) (flag : Flag) (value : String) : Except Refusal Given :=
  if !flag.repeatable && given.has flag.long || !flag.accepts value then .error .usage
  else .ok { given with values := (flag.long, value) :: given.values }

/-- Whether an argument looks like an option: it begins with a hyphen and has more to it. -/
def looksLikeOption (argument : List Char) : Bool :=
  match argument with
  | '-' :: _ :: _ => true
  | _ => false

/-- What is known of an option before its value: the option, and a value joined to it. -/
structure Opening where
  flag : Flag
  joined : Option (List Char)

/-- Recognises an argument as an option. -/
def opening (flags : List Flag) (argument : List Char) : Except Refusal Opening :=
  match argument with
  | '-' :: '-' :: rest =>
    let name := rest.takeWhile (· ≠ '=')
    let joined := match rest.dropWhile (· ≠ '=') with
      | [] => none
      | _ :: value => some value
    if name = "help".toList ∧ joined = none then .error .help
    else
      match flags.find? (·.long.toList = name) with
      | none => .error .usage
      | some flag => .ok ⟨flag, joined⟩
  | '-' :: c :: rest =>
    if c = 'h' then .error .help
    else
      match flags.find? (·.short = some c) with
      | none => .error .usage
      | some flag =>
        .ok ⟨flag, match rest with
          | [] => none
          | '=' :: value => some value
          | value => some value⟩
  | _ => .error .usage

/-- Goes through arguments.  An argument that is no option is an operand, of which there may be
so many. -/
def gather (flags : List Flag) (maxOperands : Nat) (given : Given) :
    List String → Except Refusal Given
  | [] => .ok given
  | argument :: rest =>
    let chars := argument.toList
    if chars = ['-', '-'] then
      let operands := given.operands ++ rest
      if operands.length ≤ maxOperands then .ok { given with operands := operands }
      else .error .usage
    else if looksLikeOption chars then
      match opening flags chars with
      | .error refusal => .error refusal
      | .ok ⟨flag, joined⟩ =>
        if flag.takesValue then
          match joined with
          | some value =>
            match given.add flag (String.ofList value) with
            | .error refusal => .error refusal
            | .ok given => gather flags maxOperands given rest
          | none =>
            match rest with
            | [] => .error .usage
            | value :: rest =>
              if looksLikeOption value.toList then .error .usage
              else
                match given.add flag value with
                | .error refusal => .error refusal
                | .ok given => gather flags maxOperands given rest
        else if joined.isSome then .error .usage
        else
          match given.add flag "" with
          | .error refusal => .error refusal
          | .ok given => gather flags maxOperands given rest
    else if given.operands.length < maxOperands then
      gather flags maxOperands { given with operands := given.operands ++ [argument] } rest
    else .error .usage

/-- The value of an option that must be given. -/
def Given.required (given : Given) (long : String) : Except Refusal String :=
  match given.value? long with
  | some value => .ok value
  | none => .error .usage

/-- The options of a login. -/
def loginFlags : List Flag :=
  [{ long := "user", short := some 'u' }, { long := "password", short := some 'p' }]

/-- Reads the arguments of a login. -/
def loginCommand (arguments : List String) : Except Refusal Command := do
  let given ← gather loginFlags 0 {} arguments
  let user ← given.required "user"
  let password ← given.required "password"
  .ok (.login user password)

/-- The handle that a text denotes. -/
def handle? (text : String) : Option Int64 := (Numeral.signed? 64 text.toList).map Int64.ofInt

/-- The options of a call. -/
def callFlags : List Flag :=
  [{ long := "procedure" }, { long := "handle", accepts := fun text => (handle? text).isSome },
    { long := "param", repeatable := true }]

/-- The handle of a call: zero unless it is given. -/
def Given.handle (given : Given) : Int64 := ((given.value? "handle").bind handle?).getD 0

/-- Reads the arguments of a call. -/
def callCommand (arguments : List String) : Except Refusal Command := do
  let given ← gather callFlags 0 {} arguments
  let procedure ← given.required "procedure"
  .ok (.call procedure given.handle (given.all "param"))

/-- The options of a decoding command. -/
def decodeFlags : List Flag :=
  [{ long := "hex", takesValue := false }, { long := "pretty", takesValue := false }]

/-- Reads the arguments of a decoding command. -/
def decodeArguments (arguments : List String) : Except Refusal DecodeArguments := do
  let given ← gather decodeFlags 1 {} arguments
  match given.operands with
  | [input] => .ok ⟨input, given.has "hex", given.has "pretty"⟩
  | _ => .error .usage

/-- The names of the commands. -/
def commandNames : List String := ["login", "call", "decode-login", "decode-call", "help"]

/-- What comes of asking for help, which may be about one of the commands. -/
def helpAbout : List String → Refusal
  | [] => .help
  | [name] => if commandNames.contains name then .help else .usage
  | _ => .usage

/-- Reads the arguments behind the name of a command. -/
def command (name : String) (arguments : List String) : Except Refusal Command :=
  if name = "login" then loginCommand arguments
  else if name = "call" then callCommand arguments
  else if name = "decode-login" then (decodeArguments arguments).map .decodeLogin
  else if name = "decode-call" then (decodeArguments arguments).map .decodeCall
  else if name = "help" then .error (helpAbout arguments)
  else .error .usage

/-- The option in front of the command, a directory.  A directory must have a name. -/
def configFlag : Flag := { long := "config", accepts := fun value => !value.isEmpty }

/-- Adds the value that an option in front of the command has from the argument behind it, if there
is such an option. -/
def Given.settle (given : Given) : Option String → Except Refusal Given
  | none => .ok given
  | some value => given.add configFlag value

/-- Reads a command line from an option in front of the command on.  A value that is an argument of
its own is `pending` until another option is met, or the command has been read: so a command
that asks for help is given help in spite of it. -/
def parseFrom (given : Given) (pending : Option String) :
    List String → Except Refusal Arguments
  | [] => .error .usage
  | argument :: rest =>
    let chars := argument.toList
    if looksLikeOption chars then
      match given.settle pending with
      | .error refusal => .error refusal
      | .ok given =>
        match opening [configFlag] chars with
        | .error refusal => .error refusal
        | .ok ⟨flag, some value⟩ =>
          match given.add flag (String.ofList value) with
          | .error refusal => .error refusal
          | .ok given => parseFrom given none rest
        | .ok ⟨_, none⟩ =>
          match rest with
          | [] => .error .usage
          | value :: rest =>
            if looksLikeOption value.toList then .error .usage
            else parseFrom given (some value) rest
    else
      match command argument rest with
      | .error refusal => .error refusal
      | .ok command =>
        (given.settle pending).map fun given => ⟨(given.value? "config").getD ".", command⟩

/-- Reads a command line. -/
def parse (arguments : List String) : Except Refusal Arguments := parseFrom {} none arguments

end ProcWire.CommandLine
