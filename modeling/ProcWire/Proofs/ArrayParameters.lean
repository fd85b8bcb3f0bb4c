import ProcWire.Proofs.Parameters

/-! # Arrays and their elements as parameters

An array is written as its elements, with commas between them.  As long as no element holds a
comma, its text is read as the texts of the elements are, each as a parameter of its own
(`parse_arrayParameter`).  So the leftmost element that is refused is what the array is
refused for; only when there is none is the number of elements judged.  They are all of the
kind that the array names, so none of them is ever found not to belong.

The one text that stands for two lists is the empty one, and it is read as the list without
elements, not as that of one empty element.
-/
namespace ProcWire.Parameter

variable {kind : Scalar} {values : List (List Char)}

/-- The text of an array of elements of a scalar kind. -/
def Scalar.arrayParameter (kind : Scalar) (values : List (List Char)) : List Char :=
  "array:".toList ++ kind.parameter ([','].intercalate values)

theorem splitOn_intercalate_comma (nonempty : values ≠ [])
    (commas : ∀ value ∈ values, ',' ∉ value) :
    ([','].intercalate values).splitOn ',' = values :=
  List.splitOn_intercalate ',' commas nonempty

/-- Only of no elements, or of one that is empty, is the text empty. -/
theorem intercalate_comma_ne_nil (nonempty : values ≠ []) (not_blank : values ≠ [[]])
    (commas : ∀ value ∈ values, ',' ∉ value) : [','].intercalate values ≠ [] := by
  intro empty
  have split := splitOn_intercalate_comma nonempty commas
  rw [empty, List.splitOn_nil] at split
  exact not_blank split.symm

/-- An array is read element by element, each as a parameter of the kind. -/
theorem parse_arrayParameter (nonempty : values ≠ []) (not_blank : values ≠ [[]])
    (commas : ∀ value ∈ values, ',' ∉ value) : parse (kind.arrayParameter values) =
      (values.mapM fun value => parse (kind.parameter value)) >>= Value.array? := by
  have some_text := intercalate_comma_ne_nil nonempty not_blank commas
  have each (value : List Char) : parse (kind.parameter value) = scalar kind.name value := by
    rw [parse_scalar, scalar_name]
  calc parse (kind.arrayParameter values)
      = elements kind.name ([','].intercalate values) >>= Value.array? :=
        parse_array kind.colon_notMem_name _
    _ = values.mapM (scalar kind.name) >>= Value.array? := by
        rw [elements, if_neg (by simpa using some_text), splitOn_intercalate_comma nonempty commas]
    _ = (values.mapM fun value => parse (kind.parameter value)) >>= Value.array? := by
        simp only [each]

/-- **An array of a scalar kind agrees with its elements.**  It is refused as the leftmost of the
elements that are refused; if none is, it is the array of what they are read as, unless there are
too many of them.  And no parameter at all is refused for elements that do not go together. -/
theorem parse_array_elementwise :
    (∀ (kind : Scalar) (values : List (List Char)), values ≠ [] → values ≠ [[]] →
      (∀ value ∈ values, ',' ∉ value) →
        (∀ before bad after error, values = before ++ bad :: after →
          (∀ value ∈ before, ∃ v, parse (kind.parameter value) = .ok v) →
          parse (kind.parameter bad) = .error error →
            parse (kind.arrayParameter values) = .error error) ∧
        (∀ items, List.Forall₂ (fun value item => parse (kind.parameter value) = .ok item)
            values items →
          (values.length ≤ 32767 → parse (kind.arrayParameter values) = .ok (.array items)) ∧
          (32767 < values.length → parse (kind.arrayParameter values) =
            .error (.invalidValue (.arrayTooLong values.length))))) ∧
    (∀ input found among, parse input ≠ .error (.invalidValue (.mixedArray found among))) := by
  refine ⟨fun kind values nonempty not_blank commas => ?_, fun input found among mixed => ?_⟩
  case refine_2 => cases refusal_of_parse mixed
  rw [parse_arrayParameter nonempty not_blank commas]
  constructor
  · intro before bad after error split good refused
    exact bind_eq_error_iff.mpr
      (Or.inl (mapM_eq_error_iff.mpr ⟨before, bad, after, split, good, refused⟩))
  · intro items read
    have scalars : ∀ item ∈ items, item.scalarKind? = some kind := by
      intro item mem
      obtain ⟨value, -, here⟩ := exists_mem_of_forall₂ read mem
      rw [parse_scalar, mapError_eq_ok_iff] at here
      exact Scalar.scalarKind?_of_read here
    rw [mapM_eq_ok_iff.mpr read, read.length_eq]
    change (_ → Value.array? items = _) ∧ (_ → Value.array? items = _)
    rw [array?_of_scalars scalars]
    exact ⟨fun count => if_pos count, fun long => if_neg (Nat.not_le_of_lt long)⟩

/-- An element that is no integer of the kind is reported before one behind it that is too great;
and a list that is one too long is refused for its length. -/
theorem parse_array_elementwise_refused :
    parse "array:short:1,x,70000".toList = .error (fault ['x'] (.notInteger 16)) ∧
    parse (Scalar.int.arrayParameter (List.replicate 32768 ['0'])) =
      .error (.invalidValue (.arrayTooLong 32768)) := by
  constructor
  · have good : ∀ value ∈ [['1']], ∃ v, parse (Scalar.short.parameter value) = .ok v :=
      List.forall_mem_singleton.mpr ⟨.short 1, rfl⟩
    have refused : parse (Scalar.short.parameter ['x']) =
        .error (fault ['x'] (.notInteger 16)) := rfl
    exact (parse_array_elementwise.1 .short [['1'], ['x'], "70000".toList] (by decide) (by decide)
      (by decide)).1 _ _ _ _ rfl good refused
  · have zero : parse (Scalar.int.parameter ['0']) = .ok (.int 0) := rfl
    have zeros (n : Nat) : List.Forall₂
        (fun value item => parse (Scalar.int.parameter value) = .ok item)
        (List.replicate n ['0']) (List.replicate n (.int 0)) := by
      induction n with
      | zero => exact .nil
      | succ n ih => exact .cons zero ih
    have refused (n : Nat) (long : 32767 < n) :
        parse (Scalar.int.arrayParameter (List.replicate n ['0'])) =
          .error (.invalidValue (.arrayTooLong n)) := by
      have length : (List.replicate n ['0']).length = n := List.length_replicate
      have apart (m : Nat) (short : m ≤ 1) : (List.replicate n ['0']).length ≠ m := by omega
      have commas : ∀ value ∈ List.replicate n ['0'], ',' ∉ value := by
        intro value mem
        rw [List.eq_of_mem_replicate mem]
        decide
      have outcome := ((parse_array_elementwise.1 .int (List.replicate n ['0'])
        (fun same => apart 0 (by decide) (congrArg List.length same))
        (fun same => apart 1 (by decide) (congrArg List.length same)) commas).2 _ (zeros n)).2
      rw [length] at outcome
      exact outcome long
    exact refused 32768 (by decide)

end ProcWire.Parameter
