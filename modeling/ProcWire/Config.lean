import ProcWire.EnvFile
import ProcWire.Files
import ProcWire.Limits
import ProcWire.Toml.Document

/-! # Configuration

The limits in force come from three places.  A configuration file may give either of them in its
table `limits`; an environment variable overrides what the file says; and what neither gives
has a default.  Before any of that, an environment file next to the configuration file may add to
the environment, or make the program panic.
-/
namespace ProcWire

/-- The settings of a client. -/
structure Config where
  limits : Limits := {}
  deriving DecidableEq, Repr

/-- Why a configuration cannot be loaded or saved. -/
inductive ConfigError where
  /-- The configuration file cannot be read, or when saving, cannot be replaced. -/
  | unreadable (fault : FileFault)
  /-- The configuration file is not UTF-8. -/
  | notText
  /-- The configuration file is no document, or a limit in it is no number. -/
  | malformed
  /-- A limit is too large for a configuration file. -/
  | unwritable
  deriving DecidableEq, Repr

/-- The wording of a configuration error.  Of a malformed file these are the first words only: where
the error is, and what it is, is left out. -/
def ConfigError.message : ConfigError → String
  | unreadable fault => fault.message
  | notText => "stream did not contain valid UTF-8"
  | malformed => "TOML parse error"
  | unwritable => "out-of-range value"

namespace Config

/-- The name of the configuration file. -/
def fileName : String := "voltwire.toml"

/-- The name of the environment file. -/
def envFileName : String := ".env"

/-- The variable that overrides the size of a message. -/
def messageSizeVariable : String := "VOLTWIRE_MAX_MESSAGE_SIZE"

/-- The variable that overrides the length of a field. -/
def fieldLengthVariable : String := "VOLTWIRE_MAX_FIELD_LEN"

/-- The name of the table of limits in a configuration file. -/
def limitsKey : Toml.Key := "limits".toList

/-- The name of the limit on the size of a message in a configuration file. -/
def messageSizeKey : Toml.Key := "max_message_size".toList

/-- The name of the limit on the length of a field in a configuration file. -/
def fieldLengthKey : Toml.Key := "max_field_len".toList

/-- A limit as a configuration file gives it, or its default. -/
def limit? : Option Toml.Node → Option Nat
  | none => some maxMessageSize
  | some (.integer n) => if n < 0 then none else some n.toNat
  | some _ => none

/-- The limits from what may be given for each of them. -/
def limitsOf? (messageSize fieldLength : Option Toml.Node) : Option Limits := do
  let messageSize ← limit? messageSize
  let fieldLength ← limit? fieldLength
  some ⟨messageSize, fieldLength⟩

/-- The limits as a configuration file gives them: by name in a table, or in order in an array.  Of
several tables the first is taken for a limit, which it is not.  A date has neither limit. -/
def limits? : Option Toml.Node → Option Limits
  | none | some .dateTime => some {}
  | some (.table _ entries) =>
    limitsOf? (Toml.Entries.get? entries messageSizeKey) (Toml.Entries.get? entries fieldLengthKey)
  | some (.array items) => limitsOf? items[0]? items[1]?
  | some _ => none

/-- The configuration that the text of a file gives. -/
def ofText? (text : List Char) : Option Config := do
  let entries ← Toml.parse? text
  let limits ← limits? (Toml.Entries.get? entries limitsKey)
  some ⟨limits⟩

/-- The configuration that the contents of a file give. -/
def ofBytes (content : Bytes) : Except ConfigError Config :=
  match Utf8.decode content with
  | .error _ => .error .notText
  | .ok text =>
    match ofText? text with
    | none => .error .malformed
    | some config => .ok config

/-- The configuration in the file of a directory.  It is the default one if there is no such file, or
if it cannot be told whether there is one. -/
def ofDirectory (directory : FileView) : Except ConfigError Config :=
  match directory fileName with
  | .ok content => ofBytes content
  | .error .missing | .error .unsearchable | .error .notDirectory | .error .nameTooLong => .ok {}
  | .error fault => .error (.unreadable fault)

/-- The limit that a variable gives, if it is set and its value is a number of 64 bits. -/
def override? (env : Environment) (name : String) : Option Nat :=
  (env.get? name).bind fun value => Numeral.unsigned? 64 value.toList

/-- A configuration with the limits that the environment overrides. -/
def overridden (config : Config) (env : Environment) : Config where
  limits := {
    messageSize := (override? env messageSizeVariable).getD config.limits.messageSize
    fieldLength := (override? env fieldLengthVariable).getD config.limits.fieldLength }

/-- What comes of a directory's environment file, if it has one. -/
def applied (directory : FileView) (env : Environment) : EnvFile.Applied :=
  match directory envFileName with
  | .ok content => EnvFile.apply env content
  | .error _ => ⟨env, false⟩

/-- The environment after a directory's environment file. -/
def environment (directory : FileView) (env : Environment) : Environment :=
  (applied directory env).environment

/-- What a load gives if it returns, and the environment that it leaves.  The variables of the
environment file are added whether or not there is a configuration. -/
def load (directory : FileView) (env : Environment) : Except ConfigError Config × Environment :=
  let env := environment directory env
  ((ofDirectory directory).map (·.overridden env), env)

/-- Loads the configuration of a directory.  Nothing is returned if the environment file makes the
program panic, but what it has added by then stays added. -/
def load? (directory : FileView) (env : Environment) :
    Option (Except ConfigError Config) × Environment :=
  let (result, left) := load directory env
  (if (applied directory env).panicked then none else some result, left)

/-- The line that gives a limit in a configuration file. -/
def limitLine (key : Toml.Key) (limit : Nat) : List Char :=
  key ++ (" = ".toList ++ (Nat.toDigits 10 limit ++ ['\n']))

/-- The text of a configuration file. -/
def text (config : Config) : List Char :=
  '[' :: (limitsKey ++ [']', '\n']) ++ limitLine messageSizeKey config.limits.messageSize ++
    limitLine fieldLengthKey config.limits.fieldLength

/-- The largest limit that a configuration file has room for. -/
def maxWritable : Nat := 0x7FFFFFFFFFFFFFFF

/-- Saves a configuration among some files.  If it fails, the files stay as they are. -/
def save (config : Config) (files : Files) : Except ConfigError Files :=
  if config.limits.messageSize ≤ maxWritable ∧ config.limits.fieldLength ≤ maxWritable then
    (files.create fileName (Utf8.encode config.text)).mapError .unreadable
  else
    .error .unwritable

end Config

end ProcWire
