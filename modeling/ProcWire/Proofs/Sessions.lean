import ProcWire.Proofs.Precedence
import ProcWire.Session

/-! # The environment of a session

Loading a configuration leaves variables in the environment of the process, for every later load
to find.  `Session.load_only_adds` says what that comes to over any run: a load adds the first
assignments of the environment file and takes nothing away, so that a second one changes nothing,
and what has been added stays until somebody sets or unsets it.

All of it holds whether or not the load succeeds, since the environment file is read before the
configuration file.  It holds of a load that panics, too, but for the lines from the panic on.
-/
namespace ProcWire.Session

variable {session : Session} {name value : String} {step : Step} {steps : List Step}

/-- What a session's environment file would add for a name. -/
def Assigns (session : Session) (name value : String) : Prop :=
  ∃ content, session.files.view Config.envFileName = .ok content ∧
    EnvFile.Assigns session.environment content name value

/-- Whether a step sets or unsets a variable itself. -/
def Step.Touches (name : String) : Step → Prop
  | setVariable other _ | unsetVariable other => other = name
  | _ => False

/-! ## One step -/

theorem after_load : session.after .load =
    { session with environment := Config.environment session.files.view session.environment } := by
  have left : (Config.load? session.files.view session.environment).2 =
      Config.environment session.files.view session.environment := rfl
  simp only [after, Session.step, left]
  split <;> rfl

/-- A load panics over the environment file, and over nothing else. -/
theorem answer_load_eq_panicked_iff : (session.step .load).1 = .panicked ↔
    Config.Panics session.files.view session.environment := by
  rw [← Config.load?_eq_none_iff]
  simp only [Session.step]
  split <;> simp_all

theorem environment_after_save (config : Config) :
    (session.after (.save config)).environment = session.environment := by
  simp only [after, Session.step]
  cases config.save session.files <;> rfl

theorem environment_after_write (path : String) (content : Bytes) :
    (session.after (.write path content)).environment = session.environment := by
  simp only [after, Session.step]
  cases session.files.create path content <;> rfl

theorem files_after_load : (session.after .load).files = session.files := by
  rw [after_load]

/-- What a load leaves for a name. -/
theorem get?_after_load_eq_some_iff :
    (session.after .load).environment.get? name = some value ↔
      session.environment.get? name = some value ∨
        session.environment.get? name = none ∧ session.Assigns name value ∧
          Environment.Settable value := by
  rw [after_load, Config.get?_environment_eq_some_iff]
  constructor
  · intro h
    cases h with
    | process known => exact Or.inl known
    | file unknown found assigned settable =>
      exact Or.inr ⟨unknown, ⟨_, found, assigned⟩, settable⟩
  · rintro (known | ⟨unknown, ⟨content, found, assigned⟩, settable⟩)
    · exact .process known
    · exact .file unknown found assigned settable

/-- A load that does not panic leaves for a name without a value all that is assigned to it. -/
theorem get?_after_load_of_unknown (calm : (session.step .load).1 ≠ .panicked)
    (unknown : session.environment.get? name = none) :
    (session.after .load).environment.get? name = some value ↔ session.Assigns name value := by
  rw [ne_eq, answer_load_eq_panicked_iff] at calm
  rw [get?_after_load_eq_some_iff, unknown]
  constructor
  · rintro (known | ⟨-, assigns, -⟩)
    · cases known
    · exact assigns
  · rintro ⟨content, found, assigned⟩
    have settable : Environment.Settable value := Decidable.byContradiction fun unsettable =>
      calm ⟨content, name, value, found, unknown, assigned, unsettable⟩
    exact Or.inr ⟨rfl, ⟨content, found, assigned⟩, settable⟩

/-- A step keeps the variables that it does not touch. -/
theorem get?_after (known : session.environment.get? name = some value)
    (untouched : ¬ step.Touches name) :
    (session.after step).environment.get? name = some value := by
  cases step with
  | write path content => rwa [environment_after_write]
  | remove path => exact known
  | setVariable other text =>
    have apart : name ≠ other := fun same => untouched same.symm
    simp only [after, Session.step]
    split
    · exact (Environment.get?_set ..).trans (by rw [if_neg apart, known])
    · exact known
  | unsetVariable other =>
    have apart : name ≠ other := fun same => untouched same.symm
    simp only [after, Session.step]
    split
    · exact (Environment.get?_unset ..).trans (by rw [if_neg apart, known])
    · exact known
  | load => exact get?_after_load_eq_some_iff.mpr (Or.inl known)
  | save config => rwa [environment_after_save]

/-- An environment file finds what it has left, and changes nothing. -/
theorem applied_applied (directory : FileView) (env : Environment) :
    Config.applied directory (Config.applied directory env).environment =
      Config.applied directory env := by
  unfold Config.applied
  cases directory Config.envFileName with
  | ok content => exact EnvFile.apply_apply env content
  | error fault => rfl

theorem step_load_after_load : (session.after .load).step .load = session.step .load := by
  rw [after_load]
  simp only [Session.step, Config.load?, Config.load, Config.environment, applied_applied]

/-! ## Runs -/

/-- A run keeps the variables that none of its steps touches. -/
theorem get?_run (known : session.environment.get? name = some value)
    (untouched : ∀ step ∈ steps, ¬ step.Touches name) :
    (session.run steps).environment.get? name = some value := by
  induction steps generalizing session with
  | nil => exact known
  | cons step steps ih =>
    obtain ⟨here, later⟩ := List.forall_mem_cons.mp untouched
    exact ih (get?_after known here) later

/-- **A load only ever adds variables**, in whatever session a run has led to.  It gives every
variable that is not set the value of its first assignment in the environment file, and leaves
the others and the files alone; a save leaves all variables alone.  So a second load answers the
same and changes nothing at all, and a variable that is there after a load keeps its
value through every run that does not set or unset it, whatever becomes of the environment
file.

Where a first assignment is of a value that no variable can have, the load panics.  It has made the
assignments on the lines before by then, and makes no other. -/
theorem load_only_adds (start : Session) (before : List Step) :
    let session := start.run before
    let loaded := session.after .load
    ((session.step .load).1 = .panicked ↔
      Config.Panics session.files.view session.environment) ∧
    (∀ name value, loaded.environment.get? name = some value ↔
      session.environment.get? name = some value ∨
        session.environment.get? name = none ∧ session.Assigns name value ∧
          Environment.Settable value) ∧
    ((session.step .load).1 ≠ .panicked → ∀ name value,
      session.environment.get? name = none →
        (loaded.environment.get? name = some value ↔ session.Assigns name value)) ∧
    loaded.files = session.files ∧
    (∀ config, (session.after (.save config)).environment = session.environment) ∧
    loaded.step .load = ((session.step .load).1, loaded) ∧
    (∀ name value steps, loaded.environment.get? name = some value →
      (∀ step ∈ steps, ¬ step.Touches name) →
      (loaded.run steps).environment.get? name = some value) := by
  intro session loaded
  exact ⟨answer_load_eq_panicked_iff, fun name value => get?_after_load_eq_some_iff,
    fun calm name value => get?_after_load_of_unknown calm, files_after_load,
    environment_after_save, step_load_after_load, fun name value steps => get?_run⟩

/-- A NUL keeps a load from making an assignment behind it, although every line is well formed. -/
theorem load_only_adds_lost_to_nul :
    let content := Utf8.ofString "A=\x00\nB=1\n"
    let session : Session := { files := { contents := [([".env"], content)] } }
    (∀ valueOf, (EnvFile.logicalLines content).map (EnvFile.statement? valueOf) =
      [some (.assign ['A'] ['\x00']), some (.assign ['B'] ['1'])]) ∧
      (session.step .load).1 = .panicked ∧
      (session.after .load).environment.get? "B" = none := by
  intro content session
  have lines : EnvFile.logicalLines content = ["A=\x00".toList, "B=1".toList] := by decide +kernel
  refine ⟨fun valueOf => ?_, by decide +kernel, by decide +kernel⟩
  rw [lines]
  rfl

/-- A load does not go back on what an earlier one has added, here also a value made of another. -/
example :
    let session : Session := {
      files := { contents := [([".env"], Utf8.ofString "A=1\nB=$A.5")] } }
    let loaded := session.run [.load, .write ".env" (Utf8.ofString "A=3\nB=4\nC=5"), .load]
    ["A", "B", "C"].map loaded.environment.get? = [some "1", some "1.5", some "5"] := by
  decide +kernel

end ProcWire.Session
