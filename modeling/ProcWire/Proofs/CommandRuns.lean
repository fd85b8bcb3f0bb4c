import ProcWire.CommandLine.Run
import ProcWire.Proofs.Chains
import ProcWire.Proofs.HexText
import ProcWire.Proofs.Precedence

/-! # What a command line comes to

A run completes and prints one line, or it fails and prints nothing, or its environment file makes
it panic.  All of it is said here without the steps of a run: `Completes` puts together what the
configuration, the parameters or the input, and the encoder or the decoder give, `FirstFailure`
says which of them is the first that gives nothing, and `Panics` is about the environment file
alone.  `run_outcome` is the theorem: every command line that is accepted does one of the three, and
ends accordingly.

The stages are chained by `bind`, so a run fails with its first failure.  Parameters are a chain
of their own: the first of them that cannot be read is the leftmost.
-/
namespace ProcWire.CommandLine

/-! ### Inputs -/

/-- The content that a decoding command is pointed at. -/
def content (arguments : DecodeArguments) (surroundings : Surroundings) :
    Except FileFault Bytes :=
  if arguments.input = "-" then .ok surroundings.stdin else surroundings.files arguments.input

/-- A content that is a text of hexadecimal digits, of either case and with white space anywhere,
and the bytes that it spells. -/
def SpellsHex (content bytes : Bytes) : Prop :=
  ∃ text, content = Utf8.encode text ∧
    (text.filter (!Text.isBlank ·)).map Char.toLower = Hex.encode bytes

section Inputs
variable (arguments : DecodeArguments) (surroundings : Surroundings)

/-- The bytes that a decoding command gets to decode. -/
inductive Supplies : Bytes → Prop where
  | raw {bytes : Bytes} (plain : arguments.hex = false)
      (found : content arguments surroundings = .ok bytes) : Supplies bytes
  | hex {raw bytes : Bytes} (hex : arguments.hex = true)
      (found : content arguments surroundings = .ok raw) (spelt : SpellsHex raw bytes) :
      Supplies bytes

/-- Why a decoding command has nothing to decode. -/
inductive InputFails : Failure → Prop where
  | unreadable {fault : FileFault} (found : content arguments surroundings = .error fault) :
      InputFails (.unreadable arguments.input fault)
  | notText {raw : Bytes} {defect : Utf8.Defect} (hex : arguments.hex = true)
      (found : content arguments surroundings = .ok raw)
      (refused : Utf8.decode raw = .error defect) : InputFails (.notText defect)
  | notHex {text : List Char} {fault : Hex.Fault} (hex : arguments.hex = true)
      (found : content arguments surroundings = .ok (Utf8.encode text))
      (refused : Hex.decode (Utf8.encode (text.filter (!Text.isBlank ·))) = .error fault) :
      InputFails (.notHex fault)

end Inputs

theorem bytesOfHex_eq_ok_iff {raw bytes : Bytes} :
    bytesOfHex raw = .ok bytes ↔ SpellsHex raw bytes := by
  simp only [bytesOfHex, bind_eq_ok_iff, mapError_eq_ok_iff, Utf8.decode_eq_ok_iff,
    Hex.decode_encode_eq_ok_iff, SpellsHex]

theorem bytesOfHex_eq_error_iff {raw : Bytes} {failure : Failure} :
    bytesOfHex raw = .error failure ↔
      (∃ defect, Utf8.decode raw = .error defect ∧ .notText defect = failure) ∨
      (∃ text, raw = Utf8.encode text ∧
        ∃ fault, Hex.decode (Utf8.encode (text.filter (!Text.isBlank ·))) = .error fault ∧
          .notHex fault = failure) := by
  simp only [bytesOfHex, bind_eq_error_iff, mapError_eq_error_iff, mapError_eq_ok_iff,
    Utf8.decode_eq_ok_iff]

section Inputs
variable {arguments : DecodeArguments} {surroundings : Surroundings} {bytes : Bytes}
  {failure : Failure}

/-- Reading the input is finding it and, if it is hexadecimal, reading that. -/
theorem readInput_eq : readInput arguments surroundings =
    (content arguments surroundings).mapError (.unreadable arguments.input) >>= fun raw =>
      if arguments.hex then bytesOfHex raw else .ok raw := by
  rw [readInput, content]
  split
  · rfl
  · rfl

theorem readInput_eq_ok_iff :
    readInput arguments surroundings = .ok bytes ↔ Supplies arguments surroundings bytes := by
  simp only [readInput_eq, bind_eq_ok_iff, mapError_eq_ok_iff]
  constructor
  · rintro ⟨raw, found, read⟩
    split at read
    · rename_i hex
      exact .hex hex found (bytesOfHex_eq_ok_iff.mp read)
    · rename_i plain
      obtain rfl := Except.ok.inj read
      exact .raw (Bool.not_eq_true _ ▸ plain) found
  · intro supplied
    cases supplied with
    | raw plain found => exact ⟨bytes, found, by rw [plain]; rfl⟩
    | hex hex found spelt => exact ⟨_, found, by rw [if_pos hex, bytesOfHex_eq_ok_iff.mpr spelt]⟩

theorem readInput_eq_error_iff :
    readInput arguments surroundings = .error failure ↔
      InputFails arguments surroundings failure := by
  simp only [readInput_eq, bind_eq_error_iff, mapError_eq_ok_iff, mapError_eq_error_iff]
  constructor
  · rintro (⟨fault, found, rfl⟩ | ⟨raw, found, refused⟩)
    · exact .unreadable found
    · split at refused
      · rename_i hex
        rcases bytesOfHex_eq_error_iff.mp refused with
          ⟨defect, invalid, rfl⟩ | ⟨text, rfl, fault, invalid, rfl⟩
        · exact .notText hex found invalid
        · exact .notHex hex found invalid
      · contradiction
  · intro failed
    cases failed with
    | unreadable found => exact Or.inl ⟨_, found, rfl⟩
    | notText hex found refused =>
      refine Or.inr ⟨_, found, ?_⟩
      rw [if_pos hex, bytesOfHex_eq_error_iff]
      exact Or.inl ⟨_, refused, rfl⟩
    | notHex hex found refused =>
      refine Or.inr ⟨_, found, ?_⟩
      rw [if_pos hex, bytesOfHex_eq_error_iff]
      exact Or.inr ⟨_, rfl, _, refused, rfl⟩

end Inputs

/-! ### Decoding -/

section Decoding
variable {α : Type} (reader : Reader α) (arguments : DecodeArguments)
  (surroundings : Surroundings)

/-- The response that a decoding command finds in its input. -/
def Decodes (response : α) : Prop :=
  ∃ bytes, Supplies arguments surroundings bytes ∧ (reader.run bytes).1 = .ok response

/-- Why a decoding command finds no response. -/
inductive DecodingFails : Failure → Prop where
  | input {failure : Failure} (failed : InputFails arguments surroundings failure) :
      DecodingFails failure
  | response {bytes : Bytes} {error : WireError} (supplied : Supplies arguments surroundings bytes)
      (refused : (reader.run bytes).1 = .error error) : DecodingFails (.wire error)

variable {reader arguments surroundings} {toJson : α → Json}

theorem decode_eq_ok_iff {line : String} :
    decode reader toJson arguments surroundings = .ok line ↔
      ∃ response, Decodes reader arguments surroundings response ∧
        layOut arguments (toJson response) = line := by
  simp only [decode, bind_eq_ok_iff, mapError_eq_ok_iff, readInput_eq_ok_iff, Except.ok.injEq]
  constructor
  · rintro ⟨bytes, supplied, response, read, shown⟩
    exact ⟨response, ⟨bytes, supplied, read⟩, shown⟩
  · rintro ⟨response, ⟨bytes, supplied, read⟩, shown⟩
    exact ⟨bytes, supplied, response, read, shown⟩

theorem decode_eq_error_iff {failure : Failure} :
    decode reader toJson arguments surroundings = .error failure ↔
      DecodingFails reader arguments surroundings failure := by
  simp only [decode, bind_eq_error_iff, mapError_eq_error_iff, readInput_eq_error_iff,
    readInput_eq_ok_iff]
  constructor
  · rintro (failed | ⟨bytes, supplied, ⟨error, refused, rfl⟩ | ⟨_, _, ⟨⟩⟩⟩)
    · exact .input failed
    · exact .response supplied refused
  · intro failed
    cases failed with
    | input failed => exact Or.inl failed
    | response supplied refused => exact Or.inr ⟨_, supplied, Or.inl ⟨_, refused, rfl⟩⟩

end Decoding

/-! ### Commands -/

section Commands
variable (limits : Limits) (surroundings : Surroundings)

/-- The line that a command prints: the hexadecimal digits of the request that it asks for, or the
text of the response that it finds. -/
inductive Prints : Command → String → Prop where
  | login {user password : String} {bytes : Bytes}
      (encoded : (LoginRequest.ofPassword user password).encode limits = .ok bytes) :
      Prints (.login user password) (Hex.toString bytes)
  | call {procedure : String} {handle : Int64} {params : List String} {values : List Value}
      {bytes : Bytes}
      (parsed : List.Forall₂ (fun param value => Parameter.parse param.toList = .ok value)
        params values)
      (encoded : (CallRequest.mk procedure handle values).encode limits = .ok bytes) :
      Prints (.call procedure handle params) (Hex.toString bytes)
  | decodeLogin {arguments : DecodeArguments} {response : LoginResponse}
      (decoded : Decodes (LoginResponse.read limits) arguments surroundings response) :
      Prints (.decodeLogin arguments) (layOut arguments response.toJson)
  | decodeCall {arguments : DecodeArguments} {response : CallResponse}
      (decoded : Decodes (CallResponse.read limits) arguments surroundings response) :
      Prints (.decodeCall arguments) (layOut arguments response.toJson)

/-- Why a command prints nothing.  Of the parameters of a call it is the leftmost bad one; the
encoding comes into it only if there is none. -/
inductive Fails : Command → Failure → Prop where
  | login {user password : String} {error : WireError}
      (refused : (LoginRequest.ofPassword user password).encode limits = .error error) :
      Fails (.login user password) (.wire error)
  | parameter {procedure : String} {handle : Int64} {before after : List String} {bad : String}
      {error : WireError}
      (good : ∀ param ∈ before, ∃ value, Parameter.parse param.toList = .ok value)
      (refused : Parameter.parse bad.toList = .error error) :
      Fails (.call procedure handle (before ++ bad :: after)) (.wire error)
  | call {procedure : String} {handle : Int64} {params : List String} {values : List Value}
      {error : WireError}
      (parsed : List.Forall₂ (fun param value => Parameter.parse param.toList = .ok value)
        params values)
      (refused : (CallRequest.mk procedure handle values).encode limits = .error error) :
      Fails (.call procedure handle params) (.wire error)
  | decodeLogin {arguments : DecodeArguments} {failure : Failure}
      (failed : DecodingFails (LoginResponse.read limits) arguments surroundings failure) :
      Fails (.decodeLogin arguments) failure
  | decodeCall {arguments : DecodeArguments} {failure : Failure}
      (failed : DecodingFails (CallResponse.read limits) arguments surroundings failure) :
      Fails (.decodeCall arguments) failure

variable {limits surroundings} {command : Command}

theorem print_eq_ok_iff {line : String} :
    print limits surroundings command = .ok line ↔ Prints limits surroundings command line := by
  cases command with
  | login user password =>
    simp only [print, bind_eq_ok_iff, mapError_eq_ok_iff, Except.ok.injEq]
    constructor
    · rintro ⟨bytes, encoded, rfl⟩
      exact .login encoded
    · intro printed
      cases printed with
      | login encoded => exact ⟨_, encoded, rfl⟩
  | call procedure handle params =>
    simp only [print, bind_eq_ok_iff, mapError_eq_ok_iff, mapM_eq_ok_iff, Except.ok.injEq]
    constructor
    · rintro ⟨values, parsed, bytes, encoded, rfl⟩
      exact .call parsed encoded
    · intro printed
      cases printed with
      | call parsed encoded => exact ⟨_, parsed, _, encoded, rfl⟩
  | decodeLogin arguments =>
    rw [print, decode_eq_ok_iff]
    constructor
    · rintro ⟨response, decoded, rfl⟩
      exact .decodeLogin decoded
    · intro printed
      cases printed with
      | decodeLogin decoded => exact ⟨_, decoded, rfl⟩
  | decodeCall arguments =>
    rw [print, decode_eq_ok_iff]
    constructor
    · rintro ⟨response, decoded, rfl⟩
      exact .decodeCall decoded
    · intro printed
      cases printed with
      | decodeCall decoded => exact ⟨_, decoded, rfl⟩

theorem print_eq_error_iff {failure : Failure} :
    print limits surroundings command = .error failure ↔
      Fails limits surroundings command failure := by
  cases command with
  | login user password =>
    simp only [print, bind_eq_error_iff, mapError_eq_error_iff]
    constructor
    · rintro (⟨error, refused, rfl⟩ | ⟨_, _, ⟨⟩⟩)
      exact .login refused
    · intro failed
      cases failed with
      | login refused => exact Or.inl ⟨_, refused, rfl⟩
  | call procedure handle params =>
    simp only [print, bind_eq_error_iff, mapError_eq_error_iff, mapError_eq_ok_iff,
      mapM_eq_ok_iff, mapM_eq_error_iff]
    constructor
    · rintro (⟨error, ⟨before, bad, after, rfl, good, refused⟩, rfl⟩ |
        ⟨values, parsed, ⟨error, refused, rfl⟩ | ⟨_, _, ⟨⟩⟩⟩)
      · exact .parameter good refused
      · exact .call parsed refused
    · intro failed
      cases failed with
      | parameter good refused => exact Or.inl ⟨_, ⟨_, _, _, rfl, good, refused⟩, rfl⟩
      | call parsed refused => exact Or.inr ⟨_, parsed, Or.inl ⟨_, refused, rfl⟩⟩
  | decodeLogin arguments =>
    rw [print, decode_eq_error_iff]
    constructor
    · exact .decodeLogin
    · intro failed
      cases failed with
      | decodeLogin failed => exact failed
  | decodeCall arguments =>
    rw [print, decode_eq_error_iff]
    constructor
    · exact .decodeCall
    · intro failed
      cases failed with
      | decodeCall failed => exact failed

end Commands

/-! ### Runs -/

theorem within_current (view : FileView) (name : String) :
    view.within "." name = view ("./" ++ name) := by
  rw [FileView.within, if_neg (by decide +kernel)]
  rfl

section Runs
variable (arguments : Arguments) (surroundings : Surroundings)

/-- What loading the configuration gives a command line, unless it panics. -/
def configuration : Option (Except ConfigError Config) :=
  (Config.load? (surroundings.files.within arguments.config) surroundings.environment).1

/-- The line that a command line prints, once its configuration is loaded. -/
def Completes (line : String) : Prop :=
  ∃ config, configuration arguments surroundings = some (.ok config) ∧
    Prints config.limits surroundings arguments.command line

/-- The failure of the first stage of a command line that fails. -/
inductive FirstFailure : Failure → Prop where
  | config {error : ConfigError}
      (refused : configuration arguments surroundings = some (.error error)) :
      FirstFailure (.config error)
  | command {config : Config} {failure : Failure}
      (loaded : configuration arguments surroundings = some (.ok config))
      (failed : Fails config.limits surroundings arguments.command failure) : FirstFailure failure

/-- The environment file of a command line makes it panic. -/
def Panics : Prop :=
  Config.Panics (surroundings.files.within arguments.config) surroundings.environment

variable {arguments surroundings}

theorem execute_eq_none_iff : execute arguments surroundings = none ↔
    Panics arguments surroundings := by
  rw [execute, Option.map_eq_none_iff, Config.load?_eq_none_iff, Panics]

theorem execute_eq_ok_iff {line : String} :
    execute arguments surroundings = some (.ok line) ↔ Completes arguments surroundings line := by
  simp only [execute, Option.map_eq_some_iff, bind_eq_ok_iff, mapError_eq_ok_iff, print_eq_ok_iff,
    Completes, configuration]
  constructor
  · rintro ⟨_, loaded, config, rfl, printed⟩
    exact ⟨config, loaded, printed⟩
  · rintro ⟨config, loaded, printed⟩
    exact ⟨_, loaded, config, rfl, printed⟩

theorem execute_eq_error_iff {failure : Failure} :
    execute arguments surroundings = some (.error failure) ↔
      FirstFailure arguments surroundings failure := by
  simp only [execute, Option.map_eq_some_iff, bind_eq_error_iff, mapError_eq_error_iff,
    mapError_eq_ok_iff, print_eq_error_iff]
  constructor
  · rintro ⟨_, loaded, ⟨error, rfl, rfl⟩ | ⟨config, rfl, failed⟩⟩
    · exact .config loaded
    · exact .command loaded failed
  · intro failed
    cases failed with
    | config refused => exact ⟨_, refused, Or.inl ⟨_, rfl, rfl⟩⟩
    | command loaded failed => exact ⟨_, loaded, Or.inr ⟨_, rfl, failed⟩⟩

/-- **A command line that is accepted prints one line and exits with 0, or prints nothing, exits
with 1 and reports what failed first, or panics over its environment file.** -/
theorem run_outcome {argv : List String} (accepted : parse argv = .ok arguments) :
    (∀ line, ((run argv surroundings).exitCode = 0 ∧
        (run argv surroundings).stdout = line ++ "\n") ↔ Completes arguments surroundings line) ∧
    (∀ failure, FirstFailure arguments surroundings failure →
        (run argv surroundings).exitCode = 1 ∧ (run argv surroundings).stdout = "" ∧
        (run argv surroundings).stderr = failure.report) ∧
    (Panics arguments surroundings →
        (run argv surroundings).exitCode = 101 ∧ (run argv surroundings).stdout = "") ∧
    ((∃ line, Completes arguments surroundings line) ∨
      (∃! failure, FirstFailure arguments surroundings failure) ∨
      Panics arguments surroundings) := by
  simp only [← execute_eq_ok_iff, ← execute_eq_error_iff, ← execute_eq_none_iff, run, accepted]
  match execute arguments surroundings with
  | some (.ok line) =>
    refine ⟨fun line' => ?_, nofun, nofun, Or.inl ⟨line, rfl⟩⟩
    simp only [true_and, Option.some.injEq, Except.ok.injEq, String.append_left_inj]
  | some (.error failure) =>
    refine ⟨fun line' => iff_of_false (fun exits => nomatch exits.1) nofun, ?_, nofun,
      Or.inr (Or.inl ⟨failure, rfl, fun _ h => (Except.error.inj (Option.some.inj h)).symm⟩)⟩
    rintro _ ⟨⟩
    exact ⟨rfl, rfl, rfl⟩
  | none =>
    exact ⟨fun line => iff_of_false (fun exits => nomatch exits.1) nofun, nofun,
      fun _ => ⟨rfl, rfl⟩, Or.inr (Or.inr rfl)⟩

/-- A line that gives a variable a NUL, in the current directory, makes a run exit with 101. -/
theorem exitCode_of_nul {argv : List String} {command : Command}
    (accepted : parse argv = .ok ⟨".", command⟩)
    (found : surroundings.files "./.env" = .ok (Utf8.ofString "A=\x00\n"))
    (unknown : surroundings.environment.get? "A" = none) :
    (run argv surroundings).exitCode = 101 := by
  have path : surroundings.files.within "." Config.envFileName =
      .ok (Utf8.ofString "A=\x00\n") := by
    rw [within_current]
    exact found
  have panics : Panics ⟨".", command⟩ surroundings :=
    Config.panics_of_nul [] path unknown (by decide +kernel)
  simp only [run, accepted, execute_eq_none_iff.mpr panics]

end Runs

/-- A call with one parameter, and the same call with two more, both of which are bad. -/
theorem run_outcome_leftmost_parameter :
    let surroundings : Surroundings := { files := fun _ => .error .missing }
    let good := run ["call", "--procedure=P", "--param=int:7"] surroundings
    let bad := run ["call", "--procedure=P", "--param=int:7", "--param=int:x", "--param=huh"]
      surroundings
    (good.exitCode = 0 ∧ good.stdout = "000000000150000000000000000000010500000007" ++ "\n") ∧
    (bad.exitCode = 1 ∧ bad.stdout = "" ∧
      bad.stderr = "Error: Invalid value: \"x\": not a 32-bit integer\n") := by
  intro surroundings good bad
  have accepted : parse ["call", "--procedure=P", "--param=int:7"] =
      .ok ⟨".", .call "P" 0 ["int:7"]⟩ := by
    have given : gather callFlags 0 {} ["--procedure=P", "--param=int:7"] =
        .ok ⟨[("param", "int:7"), ("procedure", "P")], []⟩ := by
      simp [gather, callFlags, opening, looksLikeOption, Given.add, Given.has, Given.value?]
    rw [parse, parseFrom, if_neg (by decide), command, if_neg (by decide), if_pos rfl,
      callCommand, given]
    rfl
  have accepted' : parse ["call", "--procedure=P", "--param=int:7", "--param=int:x",
      "--param=huh"] = .ok ⟨".", .call "P" 0 ["int:7", "int:x", "huh"]⟩ := by
    have given : gather callFlags 0 {}
        ["--procedure=P", "--param=int:7", "--param=int:x", "--param=huh"] = .ok
          ⟨[("param", "huh"), ("param", "int:x"), ("param", "int:7"), ("procedure", "P")], []⟩ := by
      simp [gather, callFlags, opening, looksLikeOption, Given.add, Given.has, Given.value?]
    rw [parse, parseFrom, if_neg (by decide), command, if_neg (by decide), if_pos rfl,
      callCommand, given]
    rfl
  have read : Parameter.parse "int:7".toList = .ok (.int 7) := rfl
  constructor
  · have encoded : (CallRequest.mk "P" 0 [.int 7]).encode {} =
        .ok [0, 0, 0, 0, 1, 80, 0, 0, 0, 0, 0, 0, 0, 0, 0, 1, 5, 0, 0, 0, 7] := rfl
    exact ((run_outcome accepted).1 _).mpr ⟨{}, rfl, .call (.cons read .nil) encoded⟩
  · have good : ∀ param ∈ ["int:7"], ∃ value, Parameter.parse param.toList = .ok value :=
      List.forall_mem_singleton.mpr ⟨_, read⟩
    have refused : Parameter.parse "int:x".toList =
        .error (Parameter.fault ['x'] (.notInteger 32)) := rfl
    have failed : FirstFailure ⟨".", .call "P" 0 ["int:7", "int:x", "huh"]⟩ surroundings _ :=
      .command rfl (.parameter good refused)
    exact (run_outcome accepted').2.1 _ failed

/-- A command line may be accepted, with a request that can be encoded, and exit neither with 0 nor
with 1. -/
theorem run_outcome_lost_to_nul :
    let surroundings : Surroundings := {
      files := fun path =>
        if path = "./.env" then .ok (Utf8.ofString "A=\x00\n") else .error .missing }
    let argv := ["login", "-u", "user", "-p", "pw"]
    parse argv = .ok ⟨".", .login "user" "pw"⟩ ∧
      (∃ bytes, (LoginRequest.ofPassword "user" "pw").encode {} = .ok bytes) ∧
      (run argv surroundings).exitCode = 101 := by
  intro surroundings argv
  have accepted : parse argv = .ok ⟨".", .login "user" "pw"⟩ := by
    have given : gather loginFlags 0 {} ["-u", "user", "-p", "pw"] =
        .ok ⟨[("password", "pw"), ("user", "user")], []⟩ := by
      simp [gather, loginFlags, opening, looksLikeOption, Given.add, Given.has, Given.value?]
    rw [parse, parseFrom, if_neg (by decide), command, if_pos rfl, loginCommand, given]
    rfl
  exact ⟨accepted, ⟨_, rfl⟩, exitCode_of_nul accepted rfl rfl⟩

end ProcWire.CommandLine
