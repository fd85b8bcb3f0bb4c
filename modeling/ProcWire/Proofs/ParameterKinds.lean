import ProcWire.Proofs.Parameters

/-! # Which kinds a parameter can name

Whatever is read names kinds that are known: in front of the first colon a scalar kind, `null` or
`array`, behind `null` a type that has a null, and behind `array` a scalar kind
(`KindsKnown`).  There is one exception.  The kind of the elements is looked up where an element is
read, so that it is not looked up if there are none: `array:widget:` is an empty array, though
`array:widget:1` is refused.  `parse_kind_unknown_iff` says that nothing else goes through.
-/
namespace ProcWire.Parameter

variable {word text input : List Char} {type : WireType} {v : Value}

/-- The words for types that have a null.  `tinyint` and `bytes` are second names. -/
def nullWords : List (List Char) :=
  ["bool".toList, "tinyint".toList, "short".toList, "int".toList, "long".toList, "float".toList,
    "string".toList, "varbinary".toList, "bytes".toList, "timestamp".toList]

/-- A text that names known kinds, at every level where it names one. -/
inductive KindsKnown : List Char → Prop where
  | scalar (kind : Scalar) (text : List Char) : KindsKnown (kind.parameter text)
  | null {word : List Char} (known : word ∈ nullWords) : KindsKnown ("null:".toList ++ word)
  | array (kind : Scalar) (text : List Char) : KindsKnown ("array:".toList ++ kind.parameter text)

theorem mem_nullWords_of_wireType (named : wireType word = .ok type)
    (nullable : type.nullPayload?.isSome) : word ∈ nullWords := by
  unfold wireType at named
  split at named
  · rename_i tinyint
    rw [tinyint]
    decide
  · split at named
    · rename_i bytes
      rw [bytes]
      decide
    · split at named
      · rename_i known found
        obtain rfl : known = type := Except.ok.inj named
        have same : known.name = String.ofList word := by simpa using List.find?_some found
        obtain rfl : word = known.name.toList := by rw [same, String.toList_ofList]
        revert nullable
        cases known <;> decide
      · cases named

/-- What is in front of the first colon is told by the text. -/
theorem front_eq_of_append {front front' rest rest' : List Char} (colon : ':' ∉ front)
    (colon' : ':' ∉ front') (same : front ++ ':' :: rest = front' ++ ':' :: rest') :
    front = front' := by
  have cut : cut? ':' (front ++ ':' :: rest) = some (front, rest) :=
    cut?_eq_some_iff.mpr ⟨rfl, colon⟩
  rw [cut?_eq_some_iff.mpr ⟨same, colon'⟩] at cut
  exact (Prod.mk.inj (Option.some.inj cut)).1.symm

theorem kindsKnown_array_iff (colon : ':' ∉ word) :
    KindsKnown ("array:".toList ++ (word ++ ':' :: text)) ↔ ∃ kind : Scalar, kind.name = word := by
  constructor
  · intro h
    generalize same : "array:".toList ++ (word ++ ':' :: text) = input at h
    cases h with
    | scalar kind value =>
      have split : "array".toList ++ ':' :: (word ++ ':' :: text) = kind.name ++ ':' :: value :=
        same
      exact absurd (front_eq_of_append (by decide) kind.colon_notMem_name split).symm
        kind.name_ne_array
    | null known => cases same
    | array kind value =>
      exact ⟨kind, front_eq_of_append kind.colon_notMem_name colon
        (List.append_cancel_left same.symm)⟩
  · rintro ⟨kind, rfl⟩
    exact .array kind text

/-- **Only an empty array can name an unknown kind.**  What is read names known kinds, or it is an
array of no elements whose kind is any other word, and every such array is read. -/
theorem parse_kind_unknown_iff :
    parse input = .ok v ∧ ¬ KindsKnown input ↔
      v = .array [] ∧ ∃ word, ':' ∉ word ∧ (∀ kind : Scalar, kind.name ≠ word) ∧
        input = "array:".toList ++ (word ++ [':']) := by
  constructor
  · rintro ⟨parsed, unknown⟩
    cases parse_eq_ok_iff.mp parsed with
    | scalar read => exact absurd (.scalar _ _) unknown
    | @null word type named =>
      exact absurd (.null (mem_nullWords_of_wireType named type.nullable)) unknown
    | @array word text items colon read count =>
      rcases elements_eq_ok_iff.mp read with ⟨rfl, rfl⟩ | ⟨-, kind, rfl, -⟩
      · rw [kindsKnown_array_iff colon, not_exists] at unknown
        exact ⟨rfl, word, colon, unknown, rfl⟩
      · exact absurd (.array kind text) unknown
  · rintro ⟨rfl, word, colon, unknown, rfl⟩
    have nothing : elements word [] = .ok [] := elements_eq_ok_iff.mpr (Or.inl ⟨rfl, rfl⟩)
    refine ⟨parse_eq_ok_iff.mpr (.array colon nothing (Nat.zero_le _)), ?_⟩
    rw [kindsKnown_array_iff colon, not_exists]
    exact unknown

/-- There are no elements to read by this kind, and so it is not missed; one element, and it is. -/
theorem parse_unknown_elements :
    parse "array:widget:".toList = .ok (.array []) ∧ ¬ KindsKnown "array:widget:".toList ∧
      parse "array:widget:1".toList = .error (fault "widget".toList .unknownKind) := by
  refine ⟨rfl, ?_, rfl⟩
  have colon : ':' ∉ "widget".toList := by decide
  rw [show "array:widget:".toList = "array:".toList ++ ("widget".toList ++ [':']) from rfl,
    kindsKnown_array_iff colon]
  rintro ⟨kind, named⟩
  revert named
  cases kind <;> decide

end ProcWire.Parameter
