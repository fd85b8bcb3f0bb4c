import ProcWire.Proofs.CommandRuns

/-! # Hexadecimal input stands for the bytes it spells

A decoding command may be given its input as it is or as hexadecimal text.  All that the two have
to do with each other is in `SpellsHex`: if the text spells the bytes, then nothing about a run
tells which of them it was given (`run_eq_of_spellsHex`).  A content that spells no bytes at all is
no text, or there is a character in it that is neither a digit nor white space, or its digits do
not come in pairs (`spellsNothing_iff`).  A run that is given it fails, if it gets as far as that.
-/
namespace ProcWire.CommandLine

/-! ### Contents that spell nothing -/

/-- What keeps a content from being the hexadecimal text of any bytes. -/
inductive SpellsNothing (content : Bytes) : Prop where
  | notText (none : ∀ text, content ≠ Utf8.encode text)
  /-- Neither white space nor a digit. -/
  | foreign {text : List Char} {c : Char} (form : content = Utf8.encode text) (mem : c ∈ text)
      (inked : Text.isBlank c = false) (foreign : c ∉ Hex.digits)
  | odd {text : List Char} (form : content = Utf8.encode text)
      (odd : (text.filter (!Text.isBlank ·)).length % 2 = 1)

/-- **The bytes that a content spells are missing for one of three reasons.** -/
theorem spellsNothing_iff {content : Bytes} :
    SpellsNothing content ↔ ∀ bytes, ¬ SpellsHex content bytes := by
  constructor
  · rintro nothing bytes ⟨text, rfl, spelt⟩
    obtain ⟨digits, even⟩ := Hex.exists_encode_iff.mp ⟨bytes, spelt⟩
    cases nothing with
    | notText none => exact none text rfl
    | foreign form mem inked foreign =>
      obtain rfl := Utf8.encode_injective form
      exact foreign (digits _ (List.mem_filter.mpr ⟨mem, by rw [inked]; rfl⟩))
    | odd form odd =>
      obtain rfl := Utf8.encode_injective form
      omega
  · intro nothing
    by_cases isText : ∃ text, content = Utf8.encode text
    · obtain ⟨text, rfl⟩ := isText
      have unspelt := not_exists.mpr fun bytes spelt => nothing bytes ⟨text, rfl, spelt⟩
      rw [Hex.exists_encode_iff, not_and_or] at unspelt
      rcases unspelt with foreign | odd
      · simp only [not_forall] at foreign
        obtain ⟨c, kept, foreign⟩ := foreign
        obtain ⟨mem, inked⟩ := List.mem_filter.mp kept
        exact .foreign rfl mem (by simpa using inked) foreign
      · exact .odd rfl (by omega)
    · exact .notText (not_exists.mp isText)

/-! ### Command lines -/

theorem gather_operand {flags : List Flag} {maxOperands : Nat} {given : Given} {operand : String}
    (plain : looksLikeOption operand.toList = false) (room : given.operands.length < maxOperands) :
    gather flags maxOperands given [operand] =
      .ok { given with operands := given.operands ++ [operand] } := by
  have noDashes : ¬ operand.toList = ['-', '-'] := by
    intro dashes
    rw [dashes] at plain
    contradiction
  simp only [gather, if_neg noDashes, plain, Bool.false_eq_true, ite_false, if_pos room]

/-- A decoding command takes its options in front of its operand. -/
theorem parse_decoding (input : String) (plain : looksLikeOption input.toList = false)
    (hex pretty : Bool) :
    let options := (if hex then ["--hex"] else []) ++ (if pretty then ["--pretty"] else [])
    let given : DecodeArguments := ⟨input, hex, pretty⟩
    parse ("decode-login" :: (options ++ [input])) = .ok ⟨".", .decodeLogin given⟩ ∧
      parse ("decode-call" :: (options ++ [input])) = .ok ⟨".", .decodeCall given⟩ := by
  intro options given
  have read : decodeArguments (options ++ [input]) = .ok given := by
    have gathered : ∀ rest, gather decodeFlags 1 {} (options ++ rest) = gather decodeFlags 1
        ⟨(if pretty then [("pretty", "")] else []) ++ (if hex then [("hex", "")] else []), []⟩
        rest := by
      intro rest
      cases hex <;> cases pretty <;>
        simp [options, gather, decodeFlags, opening, looksLikeOption, Given.add, Given.has,
          Given.value?]
    rw [decodeArguments, gathered, gather_operand plain Nat.one_pos]
    cases hex <;> cases pretty <;> rfl
  constructor
  · rw [parse, parseFrom, if_neg (by decide), command, if_neg (by decide), if_neg (by decide),
      if_pos rfl, read]
    rfl
  · rw [parse, parseFrom, if_neg (by decide), command, if_neg (by decide), if_neg (by decide),
      if_neg (by decide), if_pos rfl, read]
    rfl

/-! ### Runs on the same bytes -/

/-- The two commands that decode an input. -/
inductive IsDecoding : (DecodeArguments → Command) → Prop where
  | call : IsDecoding .decodeCall
  | login : IsDecoding .decodeLogin

/-- Two surroundings give a command line the same configuration: the environment and the two files
it comes from are the same. -/
structure ConfiguredAlike (directory : String) (s s' : Surroundings) : Prop where
  environment : s.environment = s'.environment
  config : s.files.within directory Config.fileName = s'.files.within directory Config.fileName
  envFile :
    s.files.within directory Config.envFileName = s'.files.within directory Config.envFileName

section Runs
variable {arguments arguments' : Arguments} {decoded decoded' : DecodeArguments}
  {decoding : DecodeArguments → Command} {s s' : Surroundings} {argv argv' : List String}

theorem ConfiguredAlike.load?_eq {directory : String} (alike : ConfiguredAlike directory s s') :
    Config.load? (s.files.within directory) s.environment =
      Config.load? (s'.files.within directory) s'.environment := by
  have file : Config.ofDirectory (s.files.within directory) =
      Config.ofDirectory (s'.files.within directory) := by
    rw [Config.ofDirectory, Config.ofDirectory, alike.config]
  have applied : Config.applied (s.files.within directory) s.environment =
      Config.applied (s'.files.within directory) s'.environment := by
    rw [Config.applied, Config.applied, alike.envFile, alike.environment]
  simp only [Config.load?, Config.load, Config.environment, file, applied]

/-- All that a decoding command takes from its surroundings is the bytes it decodes. -/
theorem print_decoding_eq (decodes : IsDecoding decoding)
    (input : readInput decoded s = readInput decoded' s')
    (layout : decoded.pretty = decoded'.pretty) (limits : Limits) :
    print limits s (decoding decoded) = print limits s' (decoding decoded') := by
  have same : ∀ {α : Type} (reader : Reader α) (toJson : α → Json),
      decode reader toJson decoded s = decode reader toJson decoded' s' := by
    intro α reader toJson
    simp only [decode, layOut, input, layout]
  cases decodes with
  | call => exact same _ _
  | login => exact same _ _

theorem run_eq_of_execute (accepted : parse argv = .ok arguments)
    (accepted' : parse argv' = .ok arguments') (h : execute arguments s = execute arguments' s') :
    run argv s = run argv' s' := by
  rw [run, run, accepted, accepted']
  simp only [h]

/-- What a decoding command prints, it has decoded from some bytes. -/
theorem exists_supplies_of_prints (decodes : IsDecoding decoding) {limits : Limits} {line : String}
    (printed : Prints limits s (decoding decoded) line) : ∃ bytes, Supplies decoded s bytes := by
  cases decodes with
  | call =>
    cases printed with
    | decodeCall found =>
      obtain ⟨bytes, supplied, -⟩ := found
      exact ⟨bytes, supplied⟩
  | login =>
    cases printed with
    | decodeLogin found =>
      obtain ⟨bytes, supplied, -⟩ := found
      exact ⟨bytes, supplied⟩

/-- A run that is given no hexadecimal text where it expects it prints nothing. -/
theorem exitCode_of_spellsNothing (decodes : IsDecoding decoding) {directory : String}
    (accepted : parse argv = .ok ⟨directory, decoding decoded⟩) (hex : decoded.hex = true)
    {raw : Bytes} (found : content decoded s = .ok raw) (nothing : SpellsNothing raw) :
    (run argv s).stdout = "" ∧
      (¬ Panics ⟨directory, decoding decoded⟩ s → (run argv s).exitCode = 1) ∧
      (Panics ⟨directory, decoding decoded⟩ s → (run argv s).exitCode = 101) := by
  have incomplete : ∀ line, ¬ Completes ⟨directory, decoding decoded⟩ s line := by
    rintro line ⟨config, -, printed⟩
    obtain ⟨bytes, supplied⟩ := exists_supplies_of_prints decodes printed
    cases supplied with
    | raw plain _ =>
      rw [hex] at plain
      contradiction
    | hex _ found' spelt =>
      obtain rfl := Except.ok.inj (found.symm.trans found')
      exact spellsNothing_iff.mp nothing bytes spelt
  simp only [run, accepted, ← execute_eq_none_iff]
  cases h : execute ⟨directory, decoding decoded⟩ s with
  | none => exact ⟨rfl, fun calm => absurd rfl calm, fun _ => rfl⟩
  | some result =>
    cases result with
    | ok line => exact absurd (execute_eq_ok_iff.mp h) (incomplete line)
    | error failure =>
      refine ⟨rfl, fun _ => rfl, fun panics => ?_⟩
      cases panics

/-- **Hexadecimal input stands for the bytes it spells.**  Take a decoding command that is given
hexadecimal text, from a file or from the standard input.  If the text spells some bytes, the run
ends as the run on these bytes does, in its exit code, in what it prints and in what it reports.
If it spells none, because it is no text or has a character in it that is no digit or has an odd
number of them, the run prints nothing and exits with 1, or with 101 if its environment file makes
it panic. -/
theorem run_eq_of_spellsHex (decodes : IsDecoding decoding) {directory input : String}
    {pretty : Bool}
    (accepted : parse argv = .ok ⟨directory, decoding ⟨input, true, pretty⟩⟩) {raw : Bytes}
    (found : content ⟨input, true, pretty⟩ s = .ok raw) :
    (∀ bytes, SpellsHex raw bytes → ∀ argv' input' s',
      parse argv' = .ok ⟨directory, decoding ⟨input', false, pretty⟩⟩ →
        content ⟨input', false, pretty⟩ s' = .ok bytes → ConfiguredAlike directory s s' →
          run argv s = run argv' s') ∧
    (SpellsNothing raw ↔ ∀ bytes, ¬ SpellsHex raw bytes) ∧
    (SpellsNothing raw → (run argv s).stdout = "" ∧
      (¬ Panics ⟨directory, decoding ⟨input, true, pretty⟩⟩ s → (run argv s).exitCode = 1) ∧
      (Panics ⟨directory, decoding ⟨input, true, pretty⟩⟩ s → (run argv s).exitCode = 101)) := by
  refine ⟨?_, spellsNothing_iff, exitCode_of_spellsNothing decodes accepted rfl found⟩
  intro bytes spelt argv' input' s' accepted' found' alike
  refine run_eq_of_execute accepted accepted' ?_
  have same : readInput ⟨input, true, pretty⟩ s = readInput ⟨input', false, pretty⟩ s' := by
    rw [readInput_eq_ok_iff.mpr (.hex rfl found spelt), readInput_eq_ok_iff.mpr (.raw rfl found')]
  simp only [execute, alike.load?_eq, print_decoding_eq decodes same rfl]

end Runs

/-- A capture with white space within a byte gives the run on this byte.  With one digit more it
gives a run that fails. -/
theorem run_eq_of_spellsHex_across_blank :
    let view (capture : List Char) : Surroundings := {
      files := fun path =>
        if path = "capture" then .ok (Utf8.encode capture) else .error .missing
      stdin := [0xFF] }
    let pair := view ['F', '\u2003', 'f', '\n']
    let odd := run ["decode-call", "--hex", "--pretty", "capture"] (view ['F', '\u2003', 'f', 'f'])
    run ["decode-login", "--hex", "capture"] pair = run ["decode-login", "-"] pair ∧
      odd.exitCode = 1 ∧ odd.stdout = "" := by
  intro view pair odd
  constructor
  · have spelt : SpellsHex (Utf8.encode ['F', '\u2003', 'f', '\n']) [0xFF] := ⟨_, rfl, by decide⟩
    have runs := run_eq_of_spellsHex (s := pair) .login
      (parse_decoding "capture" rfl true false).1 rfl
    exact runs.1 _ spelt _ _ pair (parse_decoding "-" rfl false false).1 rfl ⟨rfl, rfl, rfl⟩
  · have runs := run_eq_of_spellsHex (s := view ['F', '\u2003', 'f', 'f']) .call
      (parse_decoding "capture" rfl true true).2 rfl
    obtain ⟨silent, failed, -⟩ := runs.2.2 (.odd rfl (by decide))
    have calm : ¬ Panics ⟨".", .decodeCall ⟨"capture", true, true⟩⟩
        (view ['F', '\u2003', 'f', 'f']) := by
      rintro ⟨content, name, value, found, -⟩
      rw [within_current] at found
      cases found
    exact ⟨failed calm, silent⟩

/-- Input that spells nothing need not make a run exit with 1. -/
theorem run_eq_of_spellsHex_lost_to_nul :
    let surroundings : Surroundings := {
      files := fun path =>
        if path = "./.env" then .ok (Utf8.ofString "A=\x00\n") else .error .missing
      stdin := Utf8.ofString "zz" }
    let argv := ["decode-call", "--hex", "-"]
    parse argv = .ok ⟨".", .decodeCall ⟨"-", true, false⟩⟩ ∧ SpellsNothing surroundings.stdin ∧
      (run argv surroundings).exitCode = 101 := by
  intro surroundings argv
  have accepted : parse argv = .ok ⟨".", .decodeCall ⟨"-", true, false⟩⟩ :=
    (parse_decoding "-" rfl true false).2
  have form : surroundings.stdin = Utf8.encode ['z', 'z'] := rfl
  exact ⟨accepted, .foreign form List.mem_cons_self rfl (by decide),
    exitCode_of_nul accepted rfl rfl⟩

end ProcWire.CommandLine
