import ProcWire.Proofs.Sessions
import ProcWire.Proofs.TomlLines

/-! # Configurations saved and loaded again

A saved configuration is a document of three plain lines, and gives both limits
(`Config.describes_text`).  It replaces whatever the configuration file was before and touches
no other file of the directory, so a load behind a save finds the saved limits, under the same
variables as before.  A configuration that has no room in a file changes nothing, and neither does
one that is saved where something other than a file stands.
-/
namespace ProcWire

namespace Files
variable {files : Files} {name other path : String} {place : List String} {content : Bytes}

/-! ## Files of the current directory -/

/-- A path that is a name in the current directory. -/
structure IsName (name : String) : Prop where
  nonempty : name.isEmpty = false
  relative : name.startsWith "/" = false
  single : components name = [name]
  ordinary : name ∉ ["", ".", ".."]
  short : name.utf8ByteSize ≤ maxNameLength

theorem isName_fileName : IsName Config.fileName :=
  ⟨by decide, by decide +kernel, rfl, by decide, by decide⟩

theorem isName_envFileName : IsName Config.envFileName :=
  ⟨by decide, by decide +kernel, rfl, by decide, by decide⟩

theorem IsName.enter (h : IsName name) (place : List String) :
    enter place name = place ++ [name] := by
  have ordinary := h.ordinary
  simp only [List.mem_cons, List.not_mem_nil, or_false, not_or] at ordinary
  simp [Files.enter, ordinary]

theorem IsName.placeOf (h : IsName name) (files : Files) :
    files.placeOf name = files.current ++ [name] := by
  rw [Files.placeOf, h.single, start, h.relative]
  exact h.enter files.current

/-- A name is looked for below the current directory. -/
theorem IsName.walk_start (h : IsName name) (files : Files) :
    files.resolve name = files.walk files.current [name] := by
  have short := h.short
  have notLong : ¬ name.utf8ByteSize > maxPathLength := by
    simp only [maxPathLength, maxNameLength] at short ⊢
    omega
  simp [Files.resolve, h.nonempty, notLong, start, h.relative, h.single]

theorem IsName.resolve (h : IsName name) (inside : files.entry files.current = .error .directory) :
    files.resolve name = .ok (files.current ++ [name]) := by
  have short : ¬ name.utf8ByteSize > maxNameLength := Nat.not_lt.mpr h.short
  rw [h.walk_start, walk, inside]
  simp only [if_neg short, walk, h.enter]

theorem IsName.view (h : IsName name) (inside : files.entry files.current = .error .directory) :
    files.view name = files.entry (files.current ++ [name]) := by
  rw [Files.view, h.resolve inside]
  rfl

theorem lookup_filter_of_ne {contents : List (List String × Bytes)} {removed : List String}
    (h : place ≠ removed) :
    (contents.filter (·.1 != removed)).lookup place = contents.lookup place := by
  induction contents with
  | nil => rfl
  | cons file contents ih =>
    by_cases same : file.1 = removed
    · rw [List.filter_cons_of_neg (by simp [same]), ih, List.lookup_cons,
        beq_eq_false_iff_ne.mpr (same ▸ h)]
    · rw [List.filter_cons_of_pos (by simp [same]), List.lookup_cons, List.lookup_cons, ih]

theorem contents_write_lookup (h : place ≠ files.placeOf path) :
    (files.write path content).contents.lookup place = files.contents.lookup place := by
  rw [write, List.lookup_cons, beq_eq_false_iff_ne.mpr h]
  exact lookup_filter_of_ne h

/-- Writing a file changes nothing where it does not stand and that is not above it. -/
theorem entry_write_of_not_above (h : place.isPrefixOf (files.placeOf path) = false) :
    (files.write path content).entry place = files.entry place := by
  have apart : place ≠ files.placeOf path := by
    rintro rfl
    rw [Bool.eq_false_iff, ne_eq, List.isPrefixOf_iff_prefix] at h
    exact h List.prefix_rfl
  have below : (files.write path content).contents.any (place.isPrefixOf ·.1) =
      files.contents.any (place.isPrefixOf ·.1) := by
    rw [Bool.eq_iff_iff, List.any_eq_true, List.any_eq_true]
    constructor
    · rintro ⟨file, mem, above⟩
      rcases List.mem_cons.mp mem with rfl | mem
      · rw [h] at above
        cases above
      · exact ⟨file, (List.mem_filter.mp mem).1, above⟩
    · rintro ⟨file, mem, above⟩
      refine ⟨file, List.mem_cons_of_mem _ (List.mem_filter.mpr ⟨mem, ?_⟩), above⟩
      rw [bne_iff_ne]
      intro same
      rw [same, h] at above
      cases above
  rw [entry, entry, contents_write_lookup apart, isDirectory, isDirectory, below]
  rfl

/-- What is no file is nothing or a directory. -/
theorem entry_eq_error {fault : FileFault} (h : files.entry place = .error fault) :
    fault = .missing ∨ fault = .directory := by
  unfold entry at h
  split at h
  · cases h
  · split at h
    · exact Or.inr (Except.error.inj h).symm
    · exact Or.inl (Except.error.inj h).symm

/-- The current directory is one unless a file stands in its place. -/
theorem entry_current_eq_directory_iff :
    files.entry files.current = .error .directory ↔ files.contents.lookup files.current = none := by
  have directory : files.isDirectory files.current = true := by simp [isDirectory]
  rw [entry]
  cases files.contents.lookup files.current <;> simp [directory]

/-- Where a file stands in the place of the current directory, a name leads nowhere. -/
theorem IsName.resolve_outside (h : IsName name)
    (outside : files.contents.lookup files.current = some content) :
    files.resolve name = .error .notDirectory := by
  rw [h.walk_start, walk, entry, outside]

/-- A name that leads to a file, or to nothing, does so from a directory. -/
theorem IsName.inside (h : IsName name)
    (free : ∀ fault, files.view name = .error fault → fault = .missing) :
    files.entry files.current = .error .directory := by
  cases stands : files.contents.lookup files.current with
  | none => exact entry_current_eq_directory_iff.mpr stands
  | some content =>
    have nowhere : files.view name = .error .notDirectory := by
      rw [Files.view, h.resolve_outside stands]
      rfl
    cases free _ nowhere

theorem IsName.create_eq (h : IsName name)
    (inside : files.entry files.current = .error .directory) (content : Bytes) :
    files.create name content =
      match files.entry (files.current ++ [name]) with
      | .error .directory => .error .directory
      | _ => .ok (files.write name content) := by
  rw [Files.create, h.resolve inside]
  rfl

/-- A file is created in the place of a file or of nothing. -/
theorem IsName.create_of_free (h : IsName name)
    (free : ∀ fault, files.view name = .error fault → fault = .missing) (content : Bytes) :
    files.create name content = .ok (files.write name content) := by
  have inside := h.inside free
  rw [h.view inside] at free
  rw [h.create_eq inside]
  cases there : files.entry (files.current ++ [name]) with
  | ok old => rfl
  | error fault =>
    obtain rfl := free fault there
    rfl

/-- No file is created where something else stands, or where there is no directory for it. -/
theorem IsName.create_of_taken (h : IsName name) {fault : FileFault}
    (found : files.view name = .error fault) (taken : fault ≠ .missing) (content : Bytes) :
    files.create name content = .error fault := by
  cases stands : files.contents.lookup files.current with
  | none =>
    have inside := entry_current_eq_directory_iff.mpr stands
    rw [h.view inside] at found
    rcases entry_eq_error found with rfl | rfl
    · exact absurd rfl taken
    · rw [h.create_eq inside, found]
  | some content =>
    rw [Files.view, h.resolve_outside stands] at found
    obtain rfl : FileFault.notDirectory = fault := Except.error.inj found
    rw [Files.create, h.resolve_outside stands]
    rfl

section Names
variable (h : IsName name) (inside : files.entry files.current = .error .directory)
include h inside

theorem IsName.inside_write :
    (files.write name content).entry files.current = .error .directory := by
  have apart : files.current ≠ files.placeOf name := by simp [h.placeOf]
  refine entry_current_eq_directory_iff.mpr ((contents_write_lookup apart).trans ?_)
  exact entry_current_eq_directory_iff.mp inside

theorem IsName.view_write : (files.write name content).view name = .ok content := by
  refine (h.view (h.inside_write inside)).trans ?_
  have written := entry_write files name content
  rwa [h.placeOf] at written

theorem IsName.view_write_of_ne (h' : IsName other) (apart : other ≠ name) :
    (files.write name content).view other = files.view other := by
  have aside : (files.current ++ [other]).isPrefixOf (files.placeOf name) = false := by
    rw [h.placeOf, Bool.eq_false_iff, ne_eq, List.isPrefixOf_iff_prefix,
      List.prefix_append_right_inj]
    simp [apart]
  rw [h'.view inside]
  exact (h'.view (h.inside_write inside)).trans (entry_write_of_not_above aside)

end Names

end Files

namespace Config
open Toml

/-! ## The text of a configuration -/

variable {config : Config}

/-- Whether a configuration file has room for the limits. -/
def Writable (config : Config) : Prop := ∀ setting : Setting, setting.of config.limits ≤ maxWritable

theorem save_of_writable (h : config.Writable) (files : Files) : config.save files =
    (files.create fileName (Utf8.encode config.text)).mapError .unreadable :=
  if_pos ⟨h .messageSize, h .fieldLength⟩

theorem save_of_not_writable (h : ¬ config.Writable) (files : Files) :
    config.save files = .error .unwritable := by
  refine if_neg fun both => h fun setting => ?_
  cases setting
  · exact both.1
  · exact both.2

/-- The lines of a configuration file. -/
def document (config : Config) : List PlainLine :=
  [.table limitsKey, .integer messageSizeKey config.limits.messageSize,
    .integer fieldLengthKey config.limits.fieldLength]

theorem text_eq_document (config : Config) :
    config.text = config.document.flatMap PlainLine.text := by
  simp [text, document, limitLine, PlainLine.text]

theorem isBare_limitsKey : IsBare limitsKey := ⟨by decide, List.all_eq_true.mp rfl⟩

theorem isBare_key (setting : Setting) : IsBare setting.key := by
  cases setting <;> exact ⟨by decide, List.all_eq_true.mp rfl⟩

/-- **The text of a configuration gives its limits.** -/
theorem describes_text (h : config.Writable) :
    Describes config.text fun setting => some (setting.of config.limits) := by
  have plain : ∀ line ∈ config.document, line.Writable := by
    have room (setting : Setting) : setting.of config.limits < 2 ^ 63 :=
      Nat.lt_of_le_of_lt (h setting) (by decide)
    simp only [document, List.forall_mem_cons]
    exact ⟨isBare_limitsKey, ⟨isBare_key .messageSize, room .messageSize⟩,
      ⟨isBare_key .fieldLength, room .fieldLength⟩, List.forall_mem_nil _⟩
  let entries : Entries := [(messageSizeKey, .integer config.limits.messageSize),
    (fieldLengthKey, .integer config.limits.fieldLength)]
  have parsed : parse? config.text = some [(limitsKey, .table .header entries)] := by
    rw [text_eq_document, parse?_plain plain]
    rfl
  refine ⟨_, parsed, .table fun setting => ?_⟩
  cases setting <;> exact .number _

end Config

namespace Session
open Config

/-! ## Saving and loading -/

section Saving
variable (session : Session) {config : Config}

/-- A save that finds nothing but a file in its place replaces it. -/
theorem step_save_of_free (h : config.Writable)
    (free : ∀ fault, session.files.view fileName = .error fault → fault = .missing) :
    session.step (.save config) = (.done,
      { session with files := session.files.write fileName (Utf8.encode config.text) }) := by
  simp only [step, save_of_writable h, Files.isName_fileName.create_of_free free, Except.mapError]

theorem step_save_of_taken (h : config.Writable) {fault : FileFault}
    (found : session.files.view fileName = .error fault) (taken : fault ≠ .missing) :
    session.step (.save config) = (.failed (.unreadable fault), session) := by
  simp only [step, save_of_writable h, Files.isName_fileName.create_of_taken found taken,
    Except.mapError]

theorem step_save_of_not_writable (h : ¬ config.Writable) :
    session.step (.save config) = (.failed .unwritable, session) := by
  simp only [step, save_of_not_writable h]

variable {session} in
theorem answer_load_eq_loaded_iff : (session.step .load).1 = .loaded config ↔
    (load? session.files.view session.environment).1 = some (.ok config) := by
  simp only [step]
  split <;> simp_all

end Saving

/-- **A saved configuration is loaded again.**  Whatever was in the configuration file before, a
configuration with room for its limits replaces it, and a load then gives its limits, but for those
that a variable overrides.  A save fails and changes nothing if something other than a file stands
in the place of the configuration file, and so it does if the configuration has no room. -/
theorem load_after_save (session : Session) (config : Config) :
    let saved := session.after (.save config)
    let directory := session.files.view
    (config.Writable → (∀ fault, directory fileName = .error fault → fault = .missing) →
      (session.step (.save config)).1 = .done ∧
      saved.files.view fileName = .ok (Utf8.encode config.text) ∧
      (¬ Panics directory session.environment →
        (∃ loaded, (saved.step .load).1 = .loaded loaded ∧ ∀ setting : Setting,
          InForce directory session.environment setting (some (setting.of config.limits))
            (setting.of loaded.limits)) ∧
        ((∀ (setting : Setting) value,
            ¬ InEffect directory session.environment setting.variableName value) →
          (saved.step .load).1 = .loaded config))) ∧
    (∀ fault, config.Writable → directory fileName = .error fault → fault ≠ .missing →
      session.step (.save config) = (.failed (.unreadable fault), session)) ∧
    (¬ config.Writable →
      (session.step (.save config)).1 = .failed .unwritable ∧ saved = session ∧
      saved.step .load = session.step .load) := by
  intro saved directory
  refine ⟨fun writable free => ?_, fun fault writable => step_save_of_taken session writable,
    fun unwritable => ?_⟩
  · have step := step_save_of_free session writable free
    have after : saved = { session with
        files := session.files.write fileName (Utf8.encode config.text) } := congrArg Prod.snd step
    have inside := Files.isName_fileName.inside free
    have written : saved.files.view fileName = .ok (Utf8.encode config.text) := by
      rw [after]
      exact Files.isName_fileName.view_write inside
    have sameVariables : saved.files.view envFileName = directory envFileName := by
      rw [after]
      exact Files.isName_fileName.view_write_of_ne inside Files.isName_envFileName (by decide)
    have sameEnvironment : saved.environment = session.environment := by rw [after]
    have gives : Gives saved.files.view fun setting => some (setting.of config.limits) :=
      .file written (describes_text writable)
    refine ⟨by rw [step], written, fun calm => ?_⟩
    have calm' : ¬ Panics saved.files.view saved.environment := by
      rwa [panics_congr sameVariables, sameEnvironment]
    constructor
    · obtain ⟨loaded, load⟩ := exists_load? gives calm'
      refine ⟨loaded, answer_load_eq_loaded_iff.mpr load, fun setting => ?_⟩
      rw [← inForce_congr sameVariables, ← sameEnvironment]
      exact ((load?_eq_ok_iff_inForce gives).mp load).2 setting
    · intro unset
      refine answer_load_eq_loaded_iff.mpr
        ((load?_eq_ok_iff_inForce gives).mpr ⟨calm', fun setting => ?_⟩)
      rw [inForce_congr sameVariables, sameEnvironment]
      exact .kept fun value n known _ => unset setting value known
  · have step := step_save_of_not_writable session unwritable
    have after : saved = session := congrArg Prod.snd step
    exact ⟨by rw [step], after, by rw [after]⟩

/-- A save mends a file that was no configuration, and leaves the environment file its say; one that
has no room changes nothing. -/
theorem load_after_save_over_malformed :
    let session : Session := {
      files := { contents := [(["voltwire.toml"], Utf8.ofString "[limits"),
        ([".env"], Utf8.ofString "VOLTWIRE_MAX_FIELD_LEN=+99")] } }
    let config : Config := ⟨⟨maxWritable, 7⟩⟩
    let large : Config := ⟨⟨7, maxWritable + 1⟩⟩
    (session.step .load).1 = .failed .malformed ∧
      ((session.after (.save config)).step .load).1 = .loaded ⟨⟨maxWritable, 99⟩⟩ ∧
      (session.step (.save large)).1 = .failed .unwritable ∧
      session.after (.save large) = session := by
  intro session config large
  have inside : session.files.entry session.files.current = .error .directory := by decide
  have free : ∀ fault, session.files.view fileName = .error fault → fault = .missing := by
    rw [Files.isName_fileName.view inside]
    exact nofun
  have calm : ¬ Panics session.files.view session.environment := by
    rw [← panicked_applied_iff]
    decide +kernel
  have writable : config.Writable := by
    rintro (_ | _) <;> decide
  have unwritable : ¬ large.Writable := fun h => absurd (h .fieldLength) (by decide)
  obtain ⟨-, -, load⟩ := (load_after_save session config).1 writable free
  obtain ⟨loaded, load, inForce⟩ := (load calm).1
  obtain ⟨refused, same, -⟩ := (load_after_save session large).2.2 unwritable
  have overrides (setting : Setting) : setting.of loaded.limits =
      (override? (Config.environment session.files.view session.environment)
        setting.variableName).getD (setting.of config.limits) := inForce_iff.mp (inForce setting)
  have limits : loaded = ⟨⟨maxWritable, 99⟩⟩ := by
    refine congrArg Config.mk (ext_settings fun setting => (overrides setting).trans ?_)
    cases setting <;> decide +kernel
  exact ⟨by decide +kernel, limits ▸ load, refused, same⟩

/-- A configuration with room is not saved where a directory stands in its place, and one that has
been saved is not loaded again if the environment file has a NUL in it. -/
theorem load_after_save_in_vain :
    let taken : Session := { files := { contents := [(["voltwire.toml", "file"], [])] } }
    let spoilt : Session := {
      files := { contents := [([".env"], Utf8.ofString "A=\x00\n")] } }
    let config : Config := ⟨⟨1000, 9⟩⟩
    config.Writable ∧
      (taken.step (.save config)).1 = .failed (.unreadable .directory) ∧
      (spoilt.step (.save config)).1 = .done ∧
      ((spoilt.after (.save config)).step .load).1 = .panicked := by
  intro taken spoilt config
  refine ⟨?_, by decide +kernel, by decide +kernel, by decide +kernel⟩
  rintro (_ | _) <;> decide

end Session

end ProcWire
