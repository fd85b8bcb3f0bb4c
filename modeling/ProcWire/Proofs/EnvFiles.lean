import ProcWire.EnvFile

/-! # What an environment file adds

An environment file is read line by line.  The value on a line may refer to what the lines before
it have put into the environment, so what a line assigns depends on those lines; whether it
is well formed does not, and neither does the name that it assigns.

`EnvFile.Assigns` says what the first assignment of a name before the first malformed line is.  The
environment after the file has that value for a name that it did not have
(`get?_apply_eq_some_iff`), unless no variable can have it: then the program panics, and for no
other reason (`panicked_apply_iff`).  Applying the file again to what it has left changes nothing
and ends the same way (`apply_apply`).
-/
namespace ProcWire.EnvFile

variable {env left : Environment} {earlier : List (String × String)} {lines rest : List (List Char)}
  {line : List Char} {content : Bytes} {name value : String}

/-! ## The first assignment of a name -/

/-- Of some lines, the first that assigns a name assigns a value, and none before it is malformed or
makes the program panic.  `earlier` are the assignments before them, latest first. -/
inductive AssignsFrom (name value : String) :
    Environment → List (String × String) → List (List Char) → Prop where
  | here {env : Environment} {earlier : List (String × String)} {line : List Char}
      {rest : List (List Char)}
      (said : statement? (referent env earlier) line = some (.assign name.toList value.toList)) :
      AssignsFrom name value env earlier (line :: rest)
  | nothing {env : Environment} {earlier : List (String × String)} {line : List Char}
      {rest : List (List Char)} (said : statement? (referent env earlier) line = some .nothing)
      (later : AssignsFrom name value env earlier rest) :
      AssignsFrom name value env earlier (line :: rest)
  | other {env left : Environment} {earlier : List (String × String)} {line key text : List Char}
      {rest : List (List Char)}
      (said : statement? (referent env earlier) line = some (.assign key text))
      (other : name ≠ String.ofList key)
      (added : env.add? (String.ofList key) (String.ofList text) = some left)
      (later :
        AssignsFrom name value left ((String.ofList key, String.ofList text) :: earlier) rest) :
      AssignsFrom name value env earlier (line :: rest)

/-- **The first assignment of a name before the first malformed line.** -/
def Assigns (env : Environment) (content : Bytes) (name value : String) : Prop :=
  AssignsFrom name value env [] (logicalLines content)

section Lines
variable {key text : List Char}

theorem not_assignsFrom_of_malformed (said : statement? (referent env earlier) line = none) :
    ¬ AssignsFrom name value env earlier (line :: rest) := by
  intro assigns
  cases assigns with
  | here said' | nothing said' | other said' => cases said.symm.trans said'

theorem assignsFrom_of_nothing (said : statement? (referent env earlier) line = some .nothing) :
    AssignsFrom name value env earlier (line :: rest) ↔
      AssignsFrom name value env earlier rest := by
  constructor
  · intro assigns
    cases assigns with
    | here said' | other said' => cases said.symm.trans said'
    | nothing _ later => exact later
  · exact .nothing said

theorem assignsFrom_of_assign
    (said : statement? (referent env earlier) line = some (.assign key text)) :
    AssignsFrom name value env earlier (line :: rest) ↔
      name = String.ofList key ∧ value = String.ofList text ∨
      name ≠ String.ofList key ∧
        ∃ left, env.add? (String.ofList key) (String.ofList text) = some left ∧
          AssignsFrom name value left
            ((String.ofList key, String.ofList text) :: earlier) rest := by
  constructor
  · intro assigns
    cases assigns with
    | here said' =>
      cases said.symm.trans said'
      exact Or.inl ⟨by simp, by simp⟩
    | nothing said' => cases said.symm.trans said'
    | other said' other added later =>
      cases said.symm.trans said'
      exact Or.inr ⟨other, _, added, later⟩
  · rintro (⟨rfl, rfl⟩ | ⟨other, left, added, later⟩)
    · exact .here (by simpa using said)
    · exact .other said other added later

/-! ## What a file leaves -/

theorem applyFrom_of_malformed (said : statement? (referent env earlier) line = none) :
    applyFrom env earlier (line :: rest) = ⟨env, false⟩ := by
  rw [applyFrom, said]

theorem applyFrom_of_nothing (said : statement? (referent env earlier) line = some .nothing) :
    applyFrom env earlier (line :: rest) = applyFrom env earlier rest := by
  rw [applyFrom, said]

theorem applyFrom_of_refused
    (said : statement? (referent env earlier) line = some (.assign key text))
    (refused : env.add? (String.ofList key) (String.ofList text) = none) :
    applyFrom env earlier (line :: rest) = ⟨env, true⟩ := by
  rw [applyFrom, said]
  simp only [refused]

theorem applyFrom_of_added
    (said : statement? (referent env earlier) line = some (.assign key text))
    (added : env.add? (String.ofList key) (String.ofList text) = some left) :
    applyFrom env earlier (line :: rest) =
      applyFrom left ((String.ofList key, String.ofList text) :: earlier) rest := by
  rw [applyFrom, said]
  simp only [added]

end Lines

/-- What the environment knows, a file does not change. -/
theorem get?_applyFrom_of_known (known : env.get? name = some value) :
    (applyFrom env earlier lines).environment.get? name = some value := by
  induction lines generalizing env earlier with
  | nil => exact known
  | cons line rest ih =>
    match said : statement? (referent env earlier) line with
    | none => rwa [applyFrom_of_malformed said]
    | some .nothing =>
      rw [applyFrom_of_nothing said]
      exact ih known
    | some (.assign key text) =>
      cases added : env.add? (String.ofList key) (String.ofList text) with
      | none => rwa [applyFrom_of_refused said added]
      | some left =>
        rw [applyFrom_of_added said added]
        exact ih (by rw [Environment.get?_of_add? added, known, Option.some_or])

/-- What the environment does not know, a file gives the value of the first assignment. -/
theorem get?_applyFrom_of_unknown (unknown : env.get? name = none) :
    (applyFrom env earlier lines).environment.get? name = some value ↔
      AssignsFrom name value env earlier lines ∧ Environment.Settable value := by
  induction lines generalizing env earlier with
  | nil => exact iff_of_false (by simp [applyFrom, unknown]) nofun
  | cons line rest ih =>
    match said : statement? (referent env earlier) line with
    | none =>
      rw [applyFrom_of_malformed said]
      exact iff_of_false (by simp [unknown]) fun assigns =>
        not_assignsFrom_of_malformed said assigns.1
    | some .nothing => rw [applyFrom_of_nothing said, assignsFrom_of_nothing said, ih unknown]
    | some (.assign key text) =>
      rw [assignsFrom_of_assign said]
      cases added : env.add? (String.ofList key) (String.ofList text) with
      | none =>
        obtain ⟨-, unsettable⟩ := Environment.add?_eq_none_iff.mp added
        rw [applyFrom_of_refused said added]
        refine iff_of_false (by simp [unknown]) ?_
        rintro ⟨⟨-, rfl⟩ | ⟨-, left, added', -⟩, settable⟩
        · exact unsettable settable
        · cases added'
      | some left =>
        have known := Environment.get?_of_add? added name
        rw [unknown, Option.none_or] at known
        rw [applyFrom_of_added said added]
        simp only [Option.some.injEq, exists_eq_left']
        -- The name is known behind the line that assigns it, and as unknown as before behind another.
        by_cases same : name = String.ofList key
        · rw [if_pos same] at known
          have settable := Environment.settable_of_add? added (same ▸ unknown)
          rw [get?_applyFrom_of_known known, Option.some.injEq]
          constructor
          · rintro rfl
            exact ⟨Or.inl ⟨same, rfl⟩, settable⟩
          · rintro ⟨⟨-, rfl⟩ | ⟨other, -⟩, -⟩
            · rfl
            · exact absurd same other
        · rw [if_neg same] at known
          simp only [ih known, same, false_and, false_or, ne_eq, not_false_eq_true, true_and]

/-- **An environment file adds the first assignments, to names that have no value yet.** -/
theorem get?_apply_eq_some_iff : (apply env content).environment.get? name = some value ↔
    env.get? name = some value ∨
      env.get? name = none ∧ Assigns env content name value ∧ Environment.Settable value := by
  cases h : env.get? name with
  | none => simpa [Assigns, apply] using get?_applyFrom_of_unknown h
  | some known =>
    have kept : (apply env content).environment.get? name = some known := get?_applyFrom_of_known h
    simp [kept]

/-- The program panics where a name would get a value that no variable can have. -/
theorem panicked_applyFrom_iff : (applyFrom env earlier lines).panicked = true ↔
    ∃ name value, env.get? name = none ∧ AssignsFrom name value env earlier lines ∧
      ¬ Environment.Settable value := by
  induction lines generalizing env earlier with
  | nil => exact iff_of_false nofun fun ⟨_, _, _, assigns, _⟩ => nomatch assigns
  | cons line rest ih =>
    match said : statement? (referent env earlier) line with
    | none =>
      rw [applyFrom_of_malformed said]
      exact iff_of_false nofun fun ⟨_, _, _, assigns, _⟩ =>
        not_assignsFrom_of_malformed said assigns
    | some .nothing => simp only [applyFrom_of_nothing said, assignsFrom_of_nothing said, ih]
    | some (.assign key text) =>
      simp only [assignsFrom_of_assign said]
      cases added : env.add? (String.ofList key) (String.ofList text) with
      | none =>
        obtain ⟨unknown, unsettable⟩ := Environment.add?_eq_none_iff.mp added
        rw [applyFrom_of_refused said added]
        exact iff_of_true rfl ⟨_, _, unknown, Or.inl ⟨rfl, rfl⟩, unsettable⟩
      | some left =>
        rw [applyFrom_of_added said added]
        simp only [ih, Option.some.injEq, exists_eq_left']
        refine exists_congr fun name => exists_congr fun value => ?_
        rw [Environment.get?_of_add? added name]
        by_cases same : name = String.ofList key
        · rw [if_pos same, Option.or_eq_none_iff]
          refine iff_of_false (fun found => nomatch found.1.2) ?_
          rintro ⟨unknown, ⟨-, rfl⟩ | ⟨other, -⟩, unsettable⟩
          · exact unsettable (Environment.settable_of_add? added (same ▸ unknown))
          · exact other same
        · simp [same]

/-- **A file makes the program panic exactly if the first assignment of some name that has no value
yet is of a value that no variable can have.** -/
theorem panicked_apply_iff : (apply env content).panicked = true ↔
    ∃ name value, env.get? name = none ∧ Assigns env content name value ∧
      ¬ Environment.Settable value :=
  panicked_applyFrom_iff

/-! ## The same file again

Which lines are well formed, and which names they assign, is the same in every environment: the
values of other names are only ever put in at the end of what has been read. -/

section Shape
variable (valueOf valueOf' : List Char → List Char)

theorem isSome_readValue (phase : Phase) (weak : Bool) (output output' text : List Char) :
    (readValue valueOf phase weak output text).isSome =
      (readValue valueOf' phase weak output' text).isSome := by
  induction text generalizing phase weak output output' with
  | nil => cases phase <;> cases weak <;> rfl
  | cons c text ih =>
    match phase with
    | .over =>
      simp only [readValue]
      split
      · exact ih ..
      · split <;> rfl
    | .escape =>
      simp only [readValue]
      split
      · exact ih ..
      · split
        · exact ih ..
        · rfl
    | .strong =>
      simp only [readValue]
      split <;> exact ih ..
    | .name soFar =>
      simp only [readValue]
      repeat' split
      all_goals exact ih ..
    | .braced soFar =>
      simp only [readValue]
      split <;> exact ih ..
    | .text =>
      simp only [readValue]
      repeat' split
      all_goals exact ih ..

/-- The name that a statement assigns, if it assigns one. -/
def Statement.name? : Statement → Option (List Char)
  | nothing => none
  | assign name _ => some name

/-- What a line says, but for the value. -/
theorem map_name?_statement? (line : List Char) :
    (statement? valueOf line).map Statement.name? =
      (statement? valueOf' line).map Statement.name? := by
  simp only [statement?]
  split
  · rfl
  · cases nameAndValue? _ with
    | none => rfl
    | some assignment =>
      obtain ⟨name, text⟩ := assignment
      simp only [Option.bind_eq_bind, Option.bind_some]
      split
      · rfl
      · have same := isSome_readValue valueOf valueOf' .text false [] [] text
        simp only [value?]
        cases h : readValue valueOf .text false [] text <;>
          cases h' : readValue valueOf' .text false [] text <;> simp_all [Statement.name?]

end Shape

theorem isNameChar_of_isNameStart {c : Char} (h : isNameStart c = true) : isNameChar c = true := by
  simp only [isNameStart, isNameChar, Char.isAlphanum, Bool.or_eq_true] at h ⊢
  rcases h with letter | underscore
  · exact Or.inl (Or.inl (Or.inl letter))
  · exact Or.inl (Or.inr underscore)

/-- A name that is read is one that a variable can have. -/
theorem nameable_of_name? {text key behind : List Char} (h : name? text = some (key, behind)) :
    Environment.Nameable (String.ofList key) := by
  cases text with
  | nil => cases h
  | cons c text =>
    simp only [name?, List.head?_cons] at h
    split at h
    · rename_i start
      obtain ⟨rfl, -⟩ := Prod.mk.inj (Option.some.inj h)
      have each := List.all_eq_true.mp
        (List.all_takeWhile (p := isNameChar) (l := c :: text))
      refine ⟨?_, ?_, ?_⟩
      · rw [List.takeWhile_cons_of_pos (isNameChar_of_isNameStart start)]
        intro empty
        cases (String.toList_ofList ..).symm.trans (congrArg String.toList empty)
      · rw [String.toList_ofList]
        exact fun mem => absurd (each '=' mem) (by decide)
      · rw [String.toList_ofList]
        exact fun mem => absurd (each '\x00' mem) (by decide)
    · cases h

theorem nameable_of_nameAndValue? {text key found : List Char}
    (h : nameAndValue? text = some (key, found)) : Environment.Nameable (String.ofList key) := by
  simp only [nameAndValue?, Option.bind_eq_bind, Option.bind_eq_some_iff] at h
  obtain ⟨⟨first, behind⟩, named, h⟩ := h
  split at h
  · obtain ⟨rfl, -⟩ := Prod.mk.inj (Option.some.inj h)
    exact nameable_of_name? named
  · split at h
    · obtain ⟨⟨second, behind'⟩, named', h⟩ := Option.bind_eq_some_iff.mp h
      obtain ⟨_, -, h⟩ := Option.bind_eq_some_iff.mp h
      obtain ⟨rfl, -⟩ := Prod.mk.inj (Option.some.inj h)
      exact nameable_of_name? named'
    · cases h

/-- **A line assigns only names that a variable can have**, so it is over values that a file makes
the program panic. -/
theorem nameable_of_statement? {valueOf : List Char → List Char} {key text : List Char}
    (said : statement? valueOf line = some (.assign key text)) :
    Environment.Nameable (String.ofList key) := by
  simp only [statement?] at said
  split at said
  · cases said
  · obtain ⟨⟨name, found⟩, named, said⟩ := Option.bind_eq_some_iff.mp said
    have nameable := nameable_of_nameAndValue? named
    simp only at said
    split at said
    · cases said
      exact nameable
    · obtain ⟨_, -, said⟩ := Option.bind_eq_some_iff.mp said
      cases said
      exact nameable

/-- The environment has all that the lines before have assigned. -/
def Settled (env : Environment) (earlier : List (String × String)) : Prop :=
  ∀ assignment ∈ earlier, (env.get? assignment.1).isSome ∧ Environment.Nameable assignment.1

/-- What values refer to is then looked up in the environment alone. -/
theorem Settled.referent_eq (settled : Settled env earlier) :
    referent env earlier = referent env [] := by
  funext name
  cases found : env.find? (String.ofList name) with
  | some value => simp only [referent, found, Option.getD_some]
  | none =>
    cases assigned : earlier.lookup (String.ofList name) with
    | none => simp only [referent, assigned, List.lookup_nil]
    | some value =>
      obtain ⟨before, after, rfl, -⟩ := List.lookup_eq_some_iff.mp assigned
      obtain ⟨known, nameable⟩ := settled (String.ofList name, value) (by simp)
      rw [Environment.find?_eq_get? env nameable.2.1] at found
      rw [found] at known
      cases known

theorem Settled.assign {key text : List Char} {text' : String} (settled : Settled env earlier)
    (said : statement? (referent env earlier) line = some (.assign key text))
    (added : env.add? (String.ofList key) text' = some left) :
    Settled left ((String.ofList key, text') :: earlier) := by
  intro assignment mem
  rw [Environment.get?_of_add? added]
  rcases List.mem_cons.mp mem with rfl | mem
  · exact ⟨by simp, nameable_of_statement? said⟩
  · exact ⟨by simp [(settled assignment mem).1], (settled assignment mem).2⟩

/-- A line that assigns a name assigns the same name in another environment. -/
theorem exists_statement?_of_assign {valueOf valueOf' : List Char → List Char}
    {key text : List Char} (said : statement? valueOf line = some (.assign key text)) :
    ∃ text', statement? valueOf' line = some (.assign key text') := by
  have same := map_name?_statement? valueOf valueOf' line
  rw [said] at same
  obtain ⟨statement, said', name⟩ := Option.map_eq_some_iff.mp same.symm
  cases statement with
  | nothing => cases name
  | assign key' text' =>
    obtain rfl : key' = key := Option.some.inj name
    exact ⟨text', said'⟩

theorem statement?_of_nothing {valueOf valueOf' : List Char → List Char}
    (said : statement? valueOf line = some .nothing) :
    statement? valueOf' line = some .nothing := by
  have same := map_name?_statement? valueOf valueOf' line
  rw [said] at same
  obtain ⟨statement, said', name⟩ := Option.map_eq_some_iff.mp same.symm
  cases statement with
  | nothing => exact said'
  | assign key text => cases name

theorem statement?_of_malformed {valueOf valueOf' : List Char → List Char}
    (said : statement? valueOf line = none) : statement? valueOf' line = none := by
  have same := map_name?_statement? valueOf valueOf' line
  rw [said] at same
  exact Option.map_eq_none_iff.mp same.symm

/-- The lines that have been read add nothing to what they have left, and end where they ended. -/
theorem applyFrom_applyFrom {earlier' : List (String × String)} (settled : Settled env earlier)
    (settled' : Settled (applyFrom env earlier lines).environment earlier') :
    applyFrom (applyFrom env earlier lines).environment earlier' lines =
      applyFrom env earlier lines := by
  induction lines generalizing env earlier earlier' with
  | nil => rfl
  | cons line rest ih =>
    match said : statement? (referent env earlier) line with
    | none =>
      rw [applyFrom_of_malformed said]
      exact applyFrom_of_malformed (statement?_of_malformed said)
    | some .nothing =>
      rw [applyFrom_of_nothing said] at settled' ⊢
      rw [applyFrom_of_nothing (statement?_of_nothing said)]
      exact ih settled settled'
    | some (.assign key text) =>
      cases added : env.add? (String.ofList key) (String.ofList text) with
      | none =>
        rw [applyFrom_of_refused said added] at settled' ⊢
        rw [settled.referent_eq, ← settled'.referent_eq] at said
        exact applyFrom_of_refused said added
      | some left =>
        rw [applyFrom_of_added said added] at settled' ⊢
        have behind := settled.assign said added
        -- The name has a value by now, so it does not matter which value it is assigned.
        obtain ⟨value, known⟩ := Option.isSome_iff_exists.mp (behind _ List.mem_cons_self).1
        have kept : (applyFrom left ((String.ofList key, String.ofList text) :: earlier)
            rest).environment.get? (String.ofList key) = some value := get?_applyFrom_of_known known
        obtain ⟨text', said'⟩ := exists_statement?_of_assign said
        have again := Environment.add?_eq_self (Option.isSome_of_mem kept) (String.ofList text')
        rw [applyFrom_of_added said' again]
        exact ih behind (settled'.assign said' again)

/-- **Applying a file a second time changes nothing and ends the same way**, even where its values
would now come out differently. -/
theorem apply_apply (env : Environment) (content : Bytes) :
    apply (apply env content).environment content = apply env content :=
  applyFrom_applyFrom (by simp [Settled]) (by simp [Settled])

end ProcWire.EnvFile
