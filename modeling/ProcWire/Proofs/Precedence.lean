import Mathlib.Algebra.Group.Nat.Defs
import ProcWire.Config
import ProcWire.Proofs.Decimals
import ProcWire.Proofs.EnvFiles
import ProcWire.Proofs.Utf8

/-! # Which limits are in force

A limit may come from four places: a variable of the process, the environment file, the
configuration file, and the default.  `Config.load_precedence` says which of them wins.  It is
said for one limit at a time, and in terms of what each place holds: `InEffect` is the
value that a variable has in the process or else by the environment file, and `Gives` what
the configuration file gives for each limit.

The first two places make one value, and only then is it asked whether that value is a number.  So
a value of the process that is none hides a good one in the environment file.

There is one environment file over which none of them wins: it would give a variable, of whatever
name, a value that none can have, and the load panics (`Panics`).
-/
namespace ProcWire

namespace Numeral
variable {width n : Nat} {text : List Char}

/-- A text of digits, at least one and perhaps behind a plus sign, for a number that so many bits
hold. -/
def IsUnsigned (width : Nat) (text : List Char) (n : Nat) : Prop :=
  ∃ digits, (text = digits ∨ text = '+' :: digits) ∧ digits ≠ [] ∧
    (∀ c ∈ digits, isDigit c = true) ∧ value digits = n ∧ n < 2 ^ width

theorem unsigned?_eq_some_iff : unsigned? width text = some n ↔ IsUnsigned width text n := by
  have behindSign (digits : List Char) : ((digits? digits).filter (· < Nat.pow 2 width) = some n) ↔
      digits ≠ [] ∧ (∀ c ∈ digits, isDigit c = true) ∧ value digits = n ∧ n < 2 ^ width := by
    simp only [Option.filter_eq_some_iff, digits?_eq_some_iff, decide_eq_true_eq, and_assoc]
    rfl
  simp only [unsigned?, behindSign, IsUnsigned]
  constructor
  · split
    · intro h
      exact ⟨_, Or.inr rfl, h⟩
    · intro h
      exact ⟨_, Or.inl rfl, h⟩
  · rintro ⟨digits, rfl | rfl, h⟩
    · split
      · exact absurd (h.2.1 '+' List.mem_cons_self) (by decide)
      · exact h
    · exact h

end Numeral

namespace Config
open Numeral

/-! ## The places -/

/-- The limits that can be configured. -/
inductive Setting where
  | messageSize
  | fieldLength
  deriving DecidableEq, Repr

namespace Setting

/-- The variable that overrides a limit. -/
def variableName : Setting → String
  | messageSize => messageSizeVariable
  | fieldLength => fieldLengthVariable

/-- The name of a limit in a configuration file. -/
def key : Setting → Toml.Key
  | messageSize => messageSizeKey
  | fieldLength => fieldLengthKey

/-- The place of a limit where a configuration file gives them in order. -/
def index : Setting → Nat
  | messageSize => 0
  | fieldLength => 1

/-- One of the limits. -/
def of (limits : Limits) : Setting → Nat
  | messageSize => limits.messageSize
  | fieldLength => limits.fieldLength

end Setting

/-- What a file gives for each limit, if anything. -/
abbrev Given := Setting → Option Nat

/-- What a value in a configuration file gives for a limit. -/
inductive GivesLimit : Option Toml.Node → Option Nat → Prop where
  | absent : GivesLimit none none
  | number (n : Nat) : GivesLimit (some (.integer n)) (some n)

/-- What the value of the limits in a configuration file gives.  It is a table, or an array in the
order of the limits; a date stands for an empty table. -/
inductive GivesLimits : Option Toml.Node → Given → Prop where
  | absent : GivesLimits none fun _ => none
  | dateTime : GivesLimits (some .dateTime) fun _ => none
  | table {origin : Toml.Origin} {entries : Toml.Entries} {given : Given}
      (each : ∀ setting : Setting,
        GivesLimit (Toml.Entries.get? entries setting.key) (given setting)) :
      GivesLimits (some (.table origin entries)) given
  | array {items : List Toml.Node} {given : Given}
      (each : ∀ setting : Setting, GivesLimit items[setting.index]? (given setting)) :
      GivesLimits (some (.array items)) given

/-- The text of a valid configuration, and what it gives. -/
def Describes (text : List Char) (given : Given) : Prop :=
  ∃ entries, Toml.parse? text = some entries ∧
    GivesLimits (Toml.Entries.get? entries limitsKey) given

section Places
variable (directory : FileView) (env : Environment)

/-- What the configuration file of a directory gives; without one, nothing is given. -/
inductive Gives : Given → Prop where
  | absent {fault : FileFault} (found : directory fileName = .error fault)
      (nothing_there : fault ∈ [.missing, .unsearchable, .notDirectory, .nameTooLong]) :
      Gives fun _ => none
  | file {text : List Char} {given : Given} (found : directory fileName = .ok (Utf8.encode text))
      (described : Describes text given) : Gives given

/-- Why the configuration file of a directory is refused. -/
inductive Refuses : ConfigError → Prop where
  | unreadable {fault : FileFault} (found : directory fileName = .error fault)
      (something_there : fault ∈ [.denied, .directory]) : Refuses (.unreadable fault)
  | notText {content : Bytes} (found : directory fileName = .ok content)
      (invalid : ∀ text, content ≠ Utf8.encode text) : Refuses .notText
  | malformed {text : List Char} (found : directory fileName = .ok (Utf8.encode text))
      (invalid : ∀ given, ¬ Describes text given) : Refuses .malformed

/-- The environment file makes a load panic: the first assignment of a name that has no value is of
a value that no variable can have. -/
def Panics : Prop :=
  ∃ content name value, directory envFileName = .ok content ∧ env.get? name = none ∧
    EnvFile.Assigns env content name value ∧ ¬ Environment.Settable value

/-- The value that a variable has once the environment file is read: its value in the process, or
else that of its first assignment, if a variable can have it. -/
inductive InEffect (name : String) : String → Prop where
  | process {value : String} (known : env.get? name = some value) : InEffect name value
  | file {content : Bytes} {value : String} (unknown : env.get? name = none)
      (found : directory envFileName = .ok content)
      (assigned : EnvFile.Assigns env content name value)
      (settable : Environment.Settable value) : InEffect name value

/-- The limit in force, where a configuration file may have given one.  A variable overrides it by
a number of 64 bits and by nothing else. -/
inductive InForce (setting : Setting) (given : Option Nat) : Nat → Prop where
  | overridden {value : String} {n : Nat}
      (known : InEffect directory env setting.variableName value)
      (number : IsUnsigned 64 value.toList n) : InForce setting given n
  | kept (no_number : ∀ value n, InEffect directory env setting.variableName value →
      ¬ IsUnsigned 64 value.toList n) : InForce setting given (given.getD maxMessageSize)

end Places

/-! ## The configuration file -/

section File
variable {directory : FileView} {node : Option Toml.Node} {given : Given} {limits : Limits}
  {text : List Char} {config : Config} {error : ConfigError} {n : Nat}

theorem ext_settings {limits' : Limits}
    (h : ∀ setting : Setting, setting.of limits = setting.of limits') : limits = limits' := by
  cases limits
  cases limits'
  exact congr (congrArg Limits.mk (h .messageSize)) (h .fieldLength)

theorem of_default (setting : Setting) : setting.of ({} : Limits) = maxMessageSize := by
  cases setting <;> rfl

/-- Nothing given leaves the defaults. -/
theorem default_iff : ({} : Limits) = limits ↔
    ∀ setting : Setting, setting.of limits = (none : Option Nat).getD maxMessageSize := by
  constructor
  · rintro rfl
    exact of_default
  · intro h
    exact ext_settings fun setting => (of_default setting).trans (h setting).symm

theorem limit?_eq_some_iff :
    limit? node = some n ↔ ∃ given, GivesLimit node given ∧ n = given.getD maxMessageSize := by
  constructor
  · intro h
    match node with
    | none => exact ⟨none, .absent, (Option.some.inj h).symm⟩
    | some (.integer z) =>
      simp only [limit?] at h
      split at h
      · cases h
      · obtain ⟨k, rfl⟩ := Int.eq_ofNat_of_zero_le (Int.not_lt.mp ‹¬ z < 0›)
        exact ⟨some k, .number k, (Option.some.inj h).symm⟩
  · rintro ⟨given, h, rfl⟩
    cases h with
    | absent => rfl
    | number k => simp [limit?]

theorem limitsOf?_eq_some_iff {size length : Option Toml.Node} :
    limitsOf? size length = some limits ↔
      limit? size = some limits.messageSize ∧ limit? length = some limits.fieldLength := by
  cases limits
  simp only [limitsOf?, Option.bind_eq_bind, Option.bind_eq_some_iff, Option.some.injEq,
    Limits.mk.injEq]
  constructor
  · rintro ⟨_, hsize, _, hlength, rfl, rfl⟩
    exact ⟨hsize, hlength⟩
  · rintro ⟨hsize, hlength⟩
    exact ⟨_, hsize, _, hlength, rfl, rfl⟩

/-- Two values that are limits give what each of them gives. -/
theorem limitsOf?_eq_some_iff_given (nodes : Setting → Option Toml.Node) (limits : Limits) :
    limitsOf? (nodes .messageSize) (nodes .fieldLength) = some limits ↔
      ∃ given : Given, (∀ setting, GivesLimit (nodes setting) (given setting)) ∧
        ∀ setting : Setting, setting.of limits = (given setting).getD maxMessageSize := by
  rw [limitsOf?_eq_some_iff, limit?_eq_some_iff, limit?_eq_some_iff]
  constructor
  · rintro ⟨⟨size, hsize, rsize⟩, length, hlength, rlength⟩
    refine ⟨fun | .messageSize => size | .fieldLength => length, fun setting => ?_,
      fun setting => ?_⟩
    · cases setting <;> assumption
    · cases setting <;> assumption
  · rintro ⟨given, gives, read⟩
    exact ⟨⟨_, gives .messageSize, read .messageSize⟩, _, gives .fieldLength, read .fieldLength⟩

theorem limits?_eq_some_iff : limits? node = some limits ↔
    ∃ given, GivesLimits node given ∧
      ∀ setting : Setting, setting.of limits = (given setting).getD maxMessageSize := by
  have inTable (entries : Toml.Entries) := limitsOf?_eq_some_iff_given
    (fun setting => Toml.Entries.get? entries setting.key) limits
  have inArray (items : List Toml.Node) := limitsOf?_eq_some_iff_given
    (fun setting => items[setting.index]?) limits
  constructor
  · intro h
    match node with
    | none => exact ⟨_, .absent, default_iff.mp (Option.some.inj h)⟩
    | some .dateTime => exact ⟨_, .dateTime, default_iff.mp (Option.some.inj h)⟩
    | some (.table origin entries) =>
      obtain ⟨given, each, read⟩ := (inTable entries).mp h
      exact ⟨given, .table each, read⟩
    | some (.array items) =>
      obtain ⟨given, each, read⟩ := (inArray items).mp h
      exact ⟨given, .array each, read⟩
  · rintro ⟨given, h, read⟩
    cases h with
    | absent => exact congrArg some (default_iff.mpr read)
    | dateTime => exact congrArg some (default_iff.mpr read)
    | table each => exact (inTable _).mpr ⟨given, each, read⟩
    | array each => exact (inArray _).mpr ⟨given, each, read⟩

theorem ofText?_eq_some_iff : ofText? text = some config ↔
    ∃ given, Describes text given ∧
      ∀ setting : Setting, setting.of config.limits = (given setting).getD maxMessageSize := by
  cases config
  simp only [ofText?, Option.bind_eq_bind, Option.bind_eq_some_iff, limits?_eq_some_iff,
    Option.some.injEq, Config.mk.injEq, Describes]
  constructor
  · rintro ⟨entries, parsed, _, ⟨given, gives, read⟩, rfl⟩
    exact ⟨given, ⟨entries, parsed, gives⟩, read⟩
  · rintro ⟨given, ⟨entries, parsed, gives⟩, read⟩
    exact ⟨entries, parsed, _, ⟨given, gives, read⟩, rfl⟩

theorem ofText?_eq_none_iff : ofText? text = none ↔ ∀ given, ¬ Describes text given := by
  rw [Option.eq_none_iff_forall_ne_some]
  constructor
  · intro refused given described
    let read (setting : Setting) : Nat := (given setting).getD maxMessageSize
    exact refused ⟨read .messageSize, read .fieldLength⟩ (ofText?_eq_some_iff.mpr
      ⟨given, described, fun setting => by cases setting <;> rfl⟩)
  · intro refused config h
    obtain ⟨given, described, -⟩ := ofText?_eq_some_iff.mp h
    exact refused given described

theorem ofBytes_eq_ok_iff {content : Bytes} : ofBytes content = .ok config ↔
    ∃ text, content = Utf8.encode text ∧ ofText? text = some config := by
  simp only [← Utf8.decode_eq_ok_iff, ofBytes]
  cases Utf8.decode content with
  | error defect => exact iff_of_false nofun nofun
  | ok text =>
    cases h : ofText? text with
    | none => simp [h]
    | some config' => simp [h]

theorem ofBytes_eq_error_iff {content : Bytes} : ofBytes content = .error error ↔
    (∀ text, content ≠ Utf8.encode text) ∧ .notText = error ∨
      ∃ text, content = Utf8.encode text ∧ ofText? text = none ∧ .malformed = error := by
  simp only [ne_eq, ← Utf8.decode_eq_ok_iff, ofBytes]
  cases Utf8.decode content with
  | error defect => simp
  | ok text =>
    cases h : ofText? text with
    | none => simp [h]
    | some config' => simp [h]

/-- What a directory's configuration file gives, and the defaults where it gives nothing. -/
theorem ofDirectory_eq_ok_iff : ofDirectory directory = .ok config ↔
    ∃ given, Gives directory given ∧
      ∀ setting : Setting, setting.of config.limits = (given setting).getD maxMessageSize := by
  constructor
  · intro h
    cases found : directory fileName with
    | ok content =>
      rw [ofDirectory, found] at h
      obtain ⟨text, rfl, read⟩ := ofBytes_eq_ok_iff.mp h
      obtain ⟨given, described, limits⟩ := ofText?_eq_some_iff.mp read
      exact ⟨given, .file found described, limits⟩
    | error fault =>
      rw [ofDirectory, found] at h
      cases fault with
      | missing | unsearchable | notDirectory | nameTooLong =>
        obtain rfl := Except.ok.inj h
        exact ⟨_, .absent found (by simp), of_default⟩
      | denied | directory => cases h
  · rintro ⟨given, h, limits⟩
    cases h with
    | absent found nothing_there =>
      have defaults : ({} : Config) = config := congrArg Config.mk (default_iff.mpr limits)
      rw [ofDirectory, found, ← defaults]
      simp only [List.mem_cons, List.not_mem_nil, or_false] at nothing_there
      rcases nothing_there with rfl | rfl | rfl | rfl <;> rfl
    | file found described =>
      rw [ofDirectory, found]
      exact ofBytes_eq_ok_iff.mpr ⟨_, rfl, ofText?_eq_some_iff.mpr ⟨given, described, limits⟩⟩

theorem ofDirectory_eq_error_iff : ofDirectory directory = .error error ↔
    Refuses directory error := by
  constructor
  · intro h
    cases found : directory fileName with
    | ok content =>
      rw [ofDirectory, found] at h
      rcases ofBytes_eq_error_iff.mp h with ⟨invalid, rfl⟩ | ⟨text, rfl, invalid, rfl⟩
      · exact .notText found invalid
      · exact .malformed found (ofText?_eq_none_iff.mp invalid)
    | error fault =>
      rw [ofDirectory, found] at h
      cases fault with
      | missing | unsearchable | notDirectory | nameTooLong => cases h
      | denied | directory =>
        cases h
        exact .unreadable found (by simp)
  · intro h
    cases h with
    | unreadable found something_there =>
      rw [ofDirectory, found]
      simp only [List.mem_cons, List.not_mem_nil, or_false] at something_there
      rcases something_there with rfl | rfl <;> rfl
    | notText found invalid =>
      rw [ofDirectory, found]
      exact ofBytes_eq_error_iff.mpr (Or.inl ⟨invalid, rfl⟩)
    | malformed found invalid =>
      rw [ofDirectory, found]
      exact ofBytes_eq_error_iff.mpr (Or.inr ⟨_, rfl, ofText?_eq_none_iff.mpr invalid, rfl⟩)

end File

/-! ## The variables -/

section Variables
variable {directory : FileView} {env : Environment} {name value : String} {setting : Setting}
  {given : Option Nat} {n m : Nat}

/-- The environment that overrides a configuration has the values in effect. -/
theorem get?_environment_eq_some_iff :
    (environment directory env).get? name = some value ↔ InEffect directory env name value := by
  constructor
  · intro h
    unfold environment applied at h
    split at h
    · rename_i content found
      rcases EnvFile.get?_apply_eq_some_iff.mp h with known | ⟨unknown, assigned, settable⟩
      · exact .process known
      · exact .file unknown found assigned settable
    · exact .process h
  · intro h
    cases h with
    | process known =>
      unfold environment applied
      split
      · exact EnvFile.get?_apply_eq_some_iff.mpr (Or.inl known)
      · exact known
    | file unknown found assigned settable =>
      rw [environment, applied, found]
      exact EnvFile.get?_apply_eq_some_iff.mpr (Or.inr ⟨unknown, assigned, settable⟩)

theorem InEffect.unique {value' : String} (h : InEffect directory env name value)
    (h' : InEffect directory env name value') : value = value' :=
  Option.some.inj ((get?_environment_eq_some_iff.mpr h).symm.trans
    (get?_environment_eq_some_iff.mpr h'))

theorem override?_eq_some_iff : override? (environment directory env) name = some n ↔
    ∃ value, InEffect directory env name value ∧ IsUnsigned 64 value.toList n := by
  simp only [override?, Option.bind_eq_some_iff, get?_environment_eq_some_iff,
    unsigned?_eq_some_iff]

/-- Overriding a limit gives the one in force. -/
theorem inForce_override : InForce directory env setting given
    ((override? (environment directory env) setting.variableName).getD
      (given.getD maxMessageSize)) := by
  cases h : override? (environment directory env) setting.variableName with
  | some n =>
    obtain ⟨value, known, number⟩ := override?_eq_some_iff.mp h
    exact .overridden known number
  | none =>
    refine .kept fun value n known number => ?_
    rw [override?_eq_some_iff.mpr ⟨value, known, number⟩] at h
    cases h

/-- There is one limit in force. -/
theorem inForce_iff : InForce directory env setting given n ↔
    n = (override? (environment directory env) setting.variableName).getD
      (given.getD maxMessageSize) := by
  constructor
  · intro h
    cases h with
    | overridden known number => rw [override?_eq_some_iff.mpr ⟨_, known, number⟩, Option.getD_some]
    | kept no_number =>
      cases h : override? (environment directory env) setting.variableName with
      | none => rfl
      | some n =>
        obtain ⟨value, known, number⟩ := override?_eq_some_iff.mp h
        exact absurd number (no_number value n known)
  · rintro rfl
    exact inForce_override

/-- Of a directory, only the environment file can override a limit. -/
theorem inForce_congr {directory' : FileView}
    (same : directory envFileName = directory' envFileName) :
    InForce directory env setting given n ↔ InForce directory' env setting given n := by
  have environments : environment directory env = environment directory' env := by
    rw [environment, environment, applied, applied, same]
  rw [inForce_iff, inForce_iff, environments]

/-! ## The panic -/

theorem panicked_applied_iff : (applied directory env).panicked = true ↔ Panics directory env := by
  unfold applied
  split
  · rename_i content found
    simp only [EnvFile.panicked_apply_iff, Panics, found, Except.ok.injEq, exists_and_left,
      exists_eq_left']
  · rename_i fault found
    refine iff_of_false nofun ?_
    rintro ⟨content, name, value, found', -⟩
    cases found.symm.trans found'

theorem panics_congr {directory' : FileView}
    (same : directory envFileName = directory' envFileName) :
    Panics directory env ↔ Panics directory' env := by
  rw [Panics, Panics, same]

end Variables

/-! ## Loading -/

section Loading
variable {directory : FileView} {env : Environment} {given : Given} {config : Config}

theorem of_overridden (config : Config) (env : Environment) (setting : Setting) :
    setting.of (config.overridden env).limits =
      (override? env setting.variableName).getD (setting.of config.limits) := by
  cases setting <;> rfl

theorem load?_eq_none_iff : (load? directory env).1 = none ↔ Panics directory env := by
  rw [← panicked_applied_iff, load?]
  split <;> simp_all

/-- A load that does not panic gives a result. -/
theorem load?_eq_some_iff {result : Except ConfigError Config} :
    (load? directory env).1 = some result ↔
      ¬ Panics directory env ∧ (load directory env).1 = result := by
  rw [← panicked_applied_iff, load?]
  split <;> simp_all

theorem load_eq_ok_iff : (load directory env).1 = .ok config ↔
    ∃ base, ofDirectory directory = .ok base ∧
      base.overridden (environment directory env) = config := by
  simp only [load]
  cases ofDirectory directory <;> simp [Except.map]

theorem load_eq_error_iff {error : ConfigError} :
    (load directory env).1 = .error error ↔ ofDirectory directory = .error error := by
  simp only [load]
  cases ofDirectory directory <;> simp [Except.map]

theorem exists_ofDirectory (gives : Gives directory given) :
    ∃ base, ofDirectory directory = .ok base ∧
      ∀ setting : Setting, setting.of base.limits = (given setting).getD maxMessageSize := by
  let base : Config := ⟨(given .messageSize).getD maxMessageSize,
    (given .fieldLength).getD maxMessageSize⟩
  have inFile : ∀ setting : Setting,
      setting.of base.limits = (given setting).getD maxMessageSize := by
    rintro (_ | _) <;> rfl
  exact ⟨base, ofDirectory_eq_ok_iff.mpr ⟨given, gives, inFile⟩, inFile⟩

theorem load_eq_ok_iff_inForce (gives : Gives directory given) :
    (load directory env).1 = .ok config ↔
      ∀ setting : Setting,
        InForce directory env setting (given setting) (setting.of config.limits) := by
  obtain ⟨base, read, inFile⟩ := exists_ofDirectory gives
  simp only [load_eq_ok_iff, read, Except.ok.injEq, exists_eq_left', inForce_iff, ← inFile,
    ← of_overridden]
  constructor
  · rintro rfl setting
    rfl
  · intro same
    exact congrArg Config.mk (ext_settings fun setting => (same setting).symm)

/-- A directory that gives limits has a configuration, unless the load panics. -/
theorem exists_load? (gives : Gives directory given) (calm : ¬ Panics directory env) :
    ∃ config, (load? directory env).1 = some (.ok config) := by
  obtain ⟨base, read, -⟩ := exists_ofDirectory gives
  exact ⟨_, load?_eq_some_iff.mpr ⟨calm, load_eq_ok_iff.mpr ⟨base, read, rfl⟩⟩⟩

theorem load?_eq_ok_iff_inForce (gives : Gives directory given) :
    (load? directory env).1 = some (.ok config) ↔ ¬ Panics directory env ∧
      ∀ setting : Setting,
        InForce directory env setting (given setting) (setting.of config.limits) := by
  rw [load?_eq_some_iff, load_eq_ok_iff_inForce gives]

/-- **Which limits are in force.**  A load panics over the environment file, or it gives a result.
Then a configuration file that is refused is refused whatever the environment is.  Otherwise each
limit is the number that its variable has, in the process or else by the environment file, or is
what the configuration file gives, or the default.  So a value of the process that is no number
hides the environment file, and a limit depends on nothing that concerns the other: on its own
variable and its own place in the file. -/
theorem load_precedence (directory : FileView) (env : Environment) :
    ((load? directory env).1 = none ↔ Panics directory env) ∧
    (∀ error, (load? directory env).1 = some (.error error) ↔
      ¬ Panics directory env ∧ Refuses directory error) ∧
    (∀ config, (load? directory env).1 = some (.ok config) ↔
      ¬ Panics directory env ∧ ∃ given, Gives directory given ∧
        ∀ setting : Setting,
          InForce directory env setting (given setting) (setting.of config.limits)) ∧
    (∀ given config setting value, Gives directory given →
      (load? directory env).1 = some (.ok config) →
      env.get? setting.variableName = some value → (∀ n, ¬ IsUnsigned 64 value.toList n) →
      setting.of config.limits = (given setting).getD maxMessageSize) ∧
    (∀ directory' env' given given' config config' setting,
      Gives directory given → (load? directory env).1 = some (.ok config) →
      Gives directory' given' → (load? directory' env').1 = some (.ok config') →
      given setting = given' setting →
      (∀ value, InEffect directory env setting.variableName value ↔
        InEffect directory' env' setting.variableName value) →
      setting.of config.limits = setting.of config'.limits) := by
  refine ⟨load?_eq_none_iff, fun error => ?_, fun config => ?_, ?_, ?_⟩
  · rw [load?_eq_some_iff, load_eq_error_iff, ofDirectory_eq_error_iff]
  · constructor
    · intro loaded
      obtain ⟨calm, loaded⟩ := load?_eq_some_iff.mp loaded
      obtain ⟨base, read, -⟩ := load_eq_ok_iff.mp loaded
      obtain ⟨given, gives, -⟩ := ofDirectory_eq_ok_iff.mp read
      exact ⟨calm, given, gives, (load_eq_ok_iff_inForce gives).mp loaded⟩
    · rintro ⟨calm, given, gives, inForce⟩
      exact (load?_eq_ok_iff_inForce gives).mpr ⟨calm, inForce⟩
  · intro given config setting value gives loaded known unusable
    have inForce := ((load?_eq_ok_iff_inForce gives).mp loaded).2 setting
    generalize setting.of config.limits = limit at inForce ⊢
    cases inForce with
    | overridden known' number =>
      obtain rfl := known'.unique (.process known)
      exact absurd number (unusable _)
    | kept no_number => rfl
  · intro directory' env' given given' config config' setting gives loaded gives' loaded' same
      sameValue
    have inForce := ((load?_eq_ok_iff_inForce gives).mp loaded).2 setting
    have inForce' := ((load?_eq_ok_iff_inForce gives').mp loaded').2 setting
    rw [inForce_iff] at inForce inForce'
    have sameOverride : override? (environment directory env) setting.variableName =
        override? (environment directory' env') setting.variableName := by
      ext n
      simp only [override?_eq_some_iff, sameValue]
    rw [inForce, inForce', same, sameOverride]

/-- A value of the process that is no number hides the number in the environment file, although
there is no configuration file either. -/
theorem load_precedence_of_unusable :
    let content := Utf8.ofString "VOLTWIRE_MAX_FIELD_LEN=99"
    let directory : FileView := fun name =>
      if name = envFileName then .ok content else .error .missing
    let env : Environment := ⟨[(fieldLengthVariable, "+ 7")]⟩
    EnvFile.Assigns env content fieldLengthVariable "99" ∧
      ∃ config, (load? directory env).1 = some (.ok config) ∧
        config.limits.fieldLength = 52428800 := by
  intro content directory env
  have assigned : EnvFile.Assigns env content fieldLengthVariable "99" := by
    have lines : EnvFile.logicalLines content = ["VOLTWIRE_MAX_FIELD_LEN=99".toList] := by
      decide +kernel
    rw [EnvFile.Assigns, lines]
    exact .here (by decide +kernel)
  have gives : Gives directory fun _ => none :=
    .absent (show directory fileName = .error .missing from rfl) (by simp)
  have unusable : ∀ n, ¬ IsUnsigned 64 "+ 7".toList n := by
    intro n number
    have none : Numeral.unsigned? 64 "+ 7".toList = none := by decide
    rw [unsigned?_eq_some_iff.mpr number] at none
    cases none
  have calm : ¬ Panics directory env := by
    rw [← panicked_applied_iff]
    decide +kernel
  obtain ⟨config, loaded⟩ := exists_load? gives calm
  exact ⟨assigned, config, loaded,
    (load_precedence directory env).2.2.2.1 _ _ .fieldLength "+ 7" gives loaded rfl unusable⟩

/-- A first line that gives the name `A` a NUL makes a load panic, if `A` has no value. -/
theorem panics_of_nul {content : Bytes} (rest : List (List Char))
    (found : directory envFileName = .ok content) (unknown : env.get? "A" = none)
    (lines : EnvFile.logicalLines content = "A=\x00".toList :: rest) : Panics directory env := by
  refine ⟨content, "A", "\x00", found, unknown, ?_, by decide⟩
  rw [EnvFile.Assigns, lines]
  exact .here rfl

/-- The defaults may be in force and yet not be loaded, over a line that concerns neither limit. -/
theorem load_precedence_lost_to_nul :
    let directory : FileView := fun name =>
      if name = envFileName then .ok (Utf8.ofString "A=\x00\n") else .error .missing
    Gives directory (fun _ => none) ∧
      (∀ setting, InForce directory {} setting none 52428800) ∧ (load? directory {}).1 = none := by
  intro directory
  have found : directory envFileName = .ok (Utf8.ofString "A=\x00\n") := rfl
  have absent : directory fileName = .error .missing := rfl
  have panics : Panics directory {} := panics_of_nul [] found rfl (by decide +kernel)
  refine ⟨.absent absent (by simp), fun setting => ?_, load?_eq_none_iff.mpr panics⟩
  rw [inForce_iff]
  cases setting <;> decide +kernel

end Loading

end Config
end ProcWire
