/-! # Environments

An environment gives names values.  A name is looked up, set, removed, or *added*:
adding keeps a value that is already there.  An environment is also a list of entries, each
a name, an equals sign and a value; a text finds what follows it, and another equals sign, in
an entry.  Its name ends at the first equals sign and the entry at the first NUL, so there are
names that no variable can have, and values that none can be given.
-/
namespace ProcWire

/-- The variables of a process. -/
structure Environment where
  bindings : List (String × String) := []
  deriving Inhabited

namespace Environment

/-- The value of a name, if it has one. -/
def get? (env : Environment) (name : String) : Option String := env.bindings.lookup name

/-- Takes a name out of an environment. -/
def unset (env : Environment) (name : String) : Environment :=
  ⟨env.bindings.filter (·.1 != name)⟩

/-- Gives a name a value, whether or not it has one. -/
def set (env : Environment) (name value : String) : Environment :=
  ⟨(name, value) :: (env.unset name).bindings⟩

/-- A name that a variable can have. -/
def Nameable (name : String) : Prop := name ≠ "" ∧ '=' ∉ name.toList ∧ '\x00' ∉ name.toList

instance (name : String) : Decidable (Nameable name) :=
  inferInstanceAs (Decidable (name ≠ "" ∧ '=' ∉ name.toList ∧ '\x00' ∉ name.toList))

/-- A value that a variable can be given. -/
def Settable (value : String) : Prop := '\x00' ∉ value.toList

instance (value : String) : Decidable (Settable value) :=
  inferInstanceAs (Decidable ('\x00' ∉ value.toList))

/-- Gives a name a value unless it has one.  There is no environment to go on with if the name would
get a value that no variable can have. -/
def add? (env : Environment) (name value : String) : Option Environment :=
  if (env.get? name).isSome then some env
  else if Settable value then some ⟨(name, value) :: env.bindings⟩
  else none

/-- What is left of a text behind another in front of it. -/
def behind? : List Char → List Char → Option (List Char)
  | [], text => some text
  | _ :: _, [] => none
  | c :: front, d :: text => if c = d then behind? front text else none

/-- What follows a text and an equals sign in an entry.  Without an equals sign in it the text is a
name, and finds the value of it; with one, it is a name and the beginning of the value. -/
def find? (env : Environment) (text : String) : Option String :=
  match text.toList.dropWhile (· ≠ '=') with
  | [] => env.get? text
  | _ :: start => do
    let value ← env.get? (String.ofList (text.toList.takeWhile (· ≠ '=')))
    let found ← behind? (start ++ ['=']) value.toList
    some (String.ofList found)

/-- A name finds its value. -/
theorem find?_eq_get? (env : Environment) {name : String} (h : '=' ∉ name.toList) :
    env.find? name = env.get? name := by
  have nothing : name.toList.dropWhile (· ≠ '=') = [] := by
    generalize name.toList = chars at h
    induction chars with
    | nil => rfl
    | cons c chars ih =>
      have hc : c ≠ '=' := fun hce => h (by simp [hce])
      have ht : '=' ∉ chars := fun hm => h (by simp [hm])
      simpa [List.dropWhile, hc] using ih ht
  simp only [find?, nothing]

theorem get?_unset (env : Environment) (name other : String) :
    (env.unset name).get? other = if other = name then none else env.get? other := by
  simp only [get?, unset]
  induction env.bindings with
  | nil => simp
  | cons v vs ih =>
    rcases v with ⟨k, x⟩
    by_cases hk : k = name
    · subst hk
      rw [List.filter_cons_of_neg (by simp), ih]
      by_cases ho : other = k
      · simp [ho]
      · simp [ho, List.lookup_cons, beq_eq_false_iff_ne.2 ho]
    · rw [List.filter_cons_of_pos (by simpa using hk), List.lookup_cons, List.lookup_cons, ih]
      by_cases ho : other = name
      · subst ho
        simp [beq_eq_false_iff_ne.2 (Ne.symm hk)]
      · simp [ho]

theorem get?_cons (name value : String) (bindings : List (String × String)) (other : String) :
    (Environment.mk ((name, value) :: bindings)).get? other =
      if other = name then some value else (Environment.mk bindings).get? other := by
  by_cases h : other = name
  · simp [get?, h]
  · simp [get?, h, List.lookup_cons, beq_eq_false_iff_ne.2 h]

@[simp] theorem get?_set (env : Environment) (name value other : String) :
    (env.set name value).get? other = if other = name then some value else env.get? other := by
  rw [set, get?_cons]
  by_cases h : other = name
  · simp [h]
  · have := get?_unset env name other
    simp_all

theorem add?_eq_self {env : Environment} {name : String} (h : (env.get? name).isSome)
    (value : String) : env.add? name value = some env := by
  rw [add?, if_pos h]

theorem add?_eq_none_iff {env : Environment} {name value : String} :
    env.add? name value = none ↔ env.get? name = none ∧ ¬ Settable value := by
  rw [add?]
  split
  · rename_i known
    simp [Option.isSome_iff_ne_none.mp known]
  · rename_i unknown
    split <;> simp_all

theorem settable_of_add? {env left : Environment} {name value : String}
    (h : env.add? name value = some left) (unknown : env.get? name = none) : Settable value := by
  rw [add?, unknown, Option.isSome_none, if_neg (by decide)] at h
  split at h
  · assumption
  · cases h

/-- What an environment knows, adding does not change. -/
theorem get?_of_add? {env left : Environment} {name value : String}
    (h : env.add? name value = some left) (other : String) :
    left.get? other = (env.get? other).or (if other = name then some value else none) := by
  unfold add? at h
  split at h
  · rename_i known
    obtain rfl := Option.some.inj h
    by_cases ho : other = name
    · subst ho
      cases he : env.get? other <;> simp_all
    · simp [ho]
  · rename_i unknown
    split at h
    · obtain rfl := Option.some.inj h
      rw [get?_cons]
      by_cases ho : other = name
      · subst ho
        cases he : env.get? other <;> simp_all
      · simp [ho]
    · cases h

end Environment

end ProcWire
