import Mathlib.Data.List.TakeWhile
import ProcWire.Proofs.ArrayElements
import ProcWire.Proofs.Chains
import ProcWire.Value.Parameter

/-! # How a parameter is read

`Parameter.Reads` lists the ways in which a text is read as a value, one for each form of
parameter; `parse_eq_ok_iff` says that there are no others.  The form is told by the word in front
of the first colon, which no value behind it can change.

A scalar kind reads values of its own sort only (`scalarKind?_of_read`).  The elements of an array
are all read by one kind, so they go together, and the length alone decides whether there is
an array of them (`array?_of_scalars`).
-/
namespace ProcWire

/-- The scalar kind that a value is of.  Arrays and nulls are of none. -/
def Value.scalarKind? : Value → Option Parameter.Scalar
  | .bool _ => some .bool
  | .tinyInt _ => some .tinyInt
  | .short _ => some .short
  | .int _ => some .int
  | .long _ => some .long
  | .float _ => some .float
  | .string _ => some .string
  | .varbinary _ => some .bytes
  | .timestamp _ => some .timestamp
  | .array _ | .null _ => none

namespace Parameter

variable {c : Char} {text front rest word piece input : List Char} {kind : Scalar} {v w : Value}
  {items : List Value} {error : WireError}

/-! ## Cutting and splitting -/

/-- A text is cut at the first occurrence of a character. -/
theorem cut?_eq_some_iff :
    cut? c text = some (front, rest) ↔ text = front ++ c :: rest ∧ c ∉ front := by
  constructor
  · intro h
    have joined : text.takeWhile (· ≠ c) ++ text.dropWhile (· ≠ c) = text :=
      List.takeWhile_append_dropWhile
    have before : c ∉ text.takeWhile (· ≠ c) := by
      intro mem
      simpa using List.mem_takeWhile_imp mem
    unfold cut? at h
    split at h
    · cases h
    · rename_i d rest' behind
      have found : d = c := by
        have first := List.head_dropWhile_not (· ≠ c) (l := text) (by rw [behind]; nofun)
        simp only [behind, List.head_cons] at first
        simpa using first
      obtain ⟨rfl, rfl⟩ := Prod.mk.inj (Option.some.inj h)
      rw [behind, found] at joined
      exact ⟨joined.symm, before⟩
  · rintro ⟨rfl, absent⟩
    have inside : ∀ d ∈ front, decide (d ≠ c) = true := by
      intro d mem
      exact decide_eq_true fun same => absent (same ▸ mem)
    rw [cut?, List.dropWhile_append_of_pos inside, List.takeWhile_append_of_pos inside]
    simp

/-- The pieces between separators hold no separator. -/
theorem notMem_of_mem_splitOn (mem : piece ∈ text.splitOn c) : c ∉ piece := by
  induction text generalizing piece with
  | nil =>
    rw [List.splitOn_nil, List.mem_singleton] at mem
    rw [mem]
    exact List.not_mem_nil
  | cons d text ih =>
    obtain ⟨first, others, pieces⟩ := List.exists_cons_of_ne_nil (List.splitOn_ne_nil c text)
    rw [List.splitOn_cons_eq_if_modifyHead] at mem
    rw [pieces] at ih mem
    -- The first character either separates or belongs to the first piece of the others.
    split at mem
    · rcases List.mem_cons.mp mem with rfl | mem
      · exact List.not_mem_nil
      · exact ih mem
    · rename_i other
      rcases List.mem_cons.mp mem with rfl | mem
      · have apart : c ≠ d := by
          rintro rfl
          simp at other
        exact List.not_mem_cons_of_ne_of_not_mem apart (ih List.mem_cons_self)
      · exact ih (List.mem_cons_of_mem first mem)

/-! ## Scalar kinds -/

namespace Scalar

theorem colon_notMem_name (kind : Scalar) : ':' ∉ kind.name := by cases kind <;> decide

theorem name_ne_null (kind : Scalar) : kind.name ≠ "null".toList := by cases kind <;> decide

theorem name_ne_array (kind : Scalar) : kind.name ≠ "array".toList := by cases kind <;> decide

@[simp] theorem ofName?_name (kind : Scalar) : ofName? kind.name = some kind := by
  cases kind <;> decide

theorem ofName?_eq_some_iff : ofName? word = some kind ↔ kind.name = word := by
  constructor
  · intro h
    simpa using List.find?_some h
  · rintro rfl
    exact ofName?_name kind

/-- No two kinds share a name. -/
theorem name_injective : Function.Injective name := by
  intro kind kind' same
  have known : ofName? kind.name = some kind' := ofName?_eq_some_iff.mpr same.symm
  rw [ofName?_name] at known
  exact Option.some.inj known

theorem orFault_eq_ok_iff {fault : ParameterFault} {o : Option Value} :
    orFault fault o = .ok v ↔ o = some v := by
  cases o <;> simp [orFault]

/-- A scalar kind reads values of that kind. -/
theorem scalarKind?_of_read (h : kind.read text = .ok v) : v.scalarKind? = some kind := by
  cases kind with
  | string =>
    obtain rfl := Except.ok.inj h
    rfl
  | timestamp =>
    rw [read, orFault_eq_ok_iff, timestamp?] at h
    split at h
    · obtain rfl := Option.some.inj h
      rfl
    · obtain ⟨instant, -, rfl⟩ := Option.map_eq_some_iff.mp h
      rfl
  | _ =>
    rw [read, orFault_eq_ok_iff] at h
    obtain ⟨x, -, rfl⟩ := Option.map_eq_some_iff.mp h
    rfl

end Scalar

theorem isNull_of_scalarKind? (h : v.scalarKind? = some kind) : v.isNull = false := by
  cases v with
  | null type => cases h
  | _ => rfl

/-- Values of one scalar kind go together in an array. -/
theorem goesWith_of_scalarKind? (hv : v.scalarKind? = some kind) (hw : w.scalarKind? = some kind) :
    v.GoesWith w := by
  rw [Value.goesWith_of_concrete (isNull_of_scalarKind? hv) (isNull_of_scalarKind? hw)]
  cases v <;> cases hv <;> cases w <;> cases hw <;> rfl

/-- Of values of one scalar kind there is an array unless they are too many. -/
theorem array?_of_scalars (scalars : ∀ item ∈ items, item.scalarKind? = some kind) :
    Value.array? items = if items.length ≤ Value.maxElements then .ok (.array items)
      else .error (.invalidValue (.arrayTooLong items.length)) := by
  split
  · rename_i count
    refine Value.array?_eq_ok_iff_pairwise.mpr ⟨rfl, count, ?_⟩
    refine List.pairwise_of_forall_mem_list fun v hv w hw => ?_
    exact goesWith_of_scalarKind? (scalars v hv) (scalars w hw)
  · rename_i long
    rw [Value.array?, if_pos (Nat.lt_of_not_le long)]

/-! ## Forms of parameters -/

/-- The text of a parameter of a scalar kind. -/
def Scalar.parameter (kind : Scalar) (value : List Char) : List Char := kind.name ++ ':' :: value

theorem scalar_name (kind : Scalar) (text : List Char) :
    scalar kind.name text = (kind.read text).mapError (fault text) := by
  rw [scalar, Scalar.ofName?_name]

theorem scalar_eq_ok_iff : scalar word text = .ok v ↔
    ∃ kind : Scalar, kind.name = word ∧ kind.read text = .ok v := by
  constructor
  · intro h
    unfold scalar at h
    split at h
    · cases h
    · rename_i kind known
      exact ⟨kind, Scalar.ofName?_eq_some_iff.mp known, mapError_eq_ok_iff.mp h⟩
  · rintro ⟨kind, rfl, read⟩
    rw [scalar_name, mapError_eq_ok_iff]
    exact read

/-- The elements of an array are the pieces of a text, all read by one scalar kind.  Of no text
there are none, whatever the kind is called. -/
theorem elements_eq_ok_iff : elements word text = .ok items ↔
    text = [] ∧ items = [] ∨ text ≠ [] ∧ ∃ kind : Scalar, kind.name = word ∧
      List.Forall₂ (fun piece item => kind.read piece = .ok item) (text.splitOn ',') items := by
  cases text with
  | nil => simp [elements, eq_comm]
  | cons c text =>
    obtain ⟨first, others, pieces⟩ :=
      List.exists_cons_of_ne_nil (List.splitOn_ne_nil ',' (c :: text))
    rw [elements, if_neg (by simp), mapM_eq_ok_iff, pieces]
    simp only [scalar_eq_ok_iff, reduceCtorEq, false_and, false_or, ne_eq, not_false_eq_true,
      true_and]
    constructor
    · intro read
      obtain ⟨item, items, ⟨kind, known, -⟩, -, rfl⟩ := List.forall₂_cons_left_iff.mp read
      refine ⟨kind, known, read.imp fun piece item ⟨kind', known', here⟩ => ?_⟩
      have same : kind' = kind := Scalar.name_injective (known'.trans known.symm)
      exact same ▸ here
    · rintro ⟨kind, known, read⟩
      exact read.imp fun piece item here => ⟨kind, known, here⟩

/-- The elements of an array are scalars of one kind. -/
theorem exists_scalarKind_of_elements (h : elements word text = .ok items) :
    ∃ kind, ∀ item ∈ items, item.scalarKind? = some kind := by
  rcases elements_eq_ok_iff.mp h with ⟨-, rfl⟩ | ⟨-, kind, -, read⟩
  · exact ⟨.bool, fun item mem => absurd mem List.not_mem_nil⟩
  · refine ⟨kind, fun item mem => ?_⟩
    obtain ⟨piece, -, here⟩ := exists_mem_of_forall₂ read mem
    exact Scalar.scalarKind?_of_read here

theorem parse_scalar (kind : Scalar) (value : List Char) :
    parse (kind.parameter value) = (kind.read value).mapError (fault value) := by
  have cut : cut? ':' (kind.parameter value) = some (kind.name, value) :=
    cut?_eq_some_iff.mpr ⟨rfl, kind.colon_notMem_name⟩
  rw [parse, cut]
  simp only [if_neg kind.name_ne_null, if_neg kind.name_ne_array, scalar_name]

theorem parse_null (word : List Char) :
    parse ("null:".toList ++ word) = wireType word >>= Value.null? := by
  have cut : cut? ':' ("null:".toList ++ word) = some ("null".toList, word) :=
    cut?_eq_some_iff.mpr ⟨rfl, by decide⟩
  rw [parse, cut]
  rfl

theorem parse_array (colon : ':' ∉ word) (text : List Char) :
    parse ("array:".toList ++ (word ++ ':' :: text)) = elements word text >>= Value.array? := by
  have cut : cut? ':' ("array:".toList ++ (word ++ ':' :: text)) =
      some ("array".toList, word ++ ':' :: text) :=
    cut?_eq_some_iff.mpr ⟨rfl, by decide⟩
  have cut' : cut? ':' (word ++ ':' :: text) = some (word, text) :=
    cut?_eq_some_iff.mpr ⟨rfl, colon⟩
  rw [parse, cut]
  simp only [cut']
  rfl

/-- The ways to read a text as a value. -/
inductive Reads : List Char → Value → Prop where
  | scalar {kind : Scalar} {text : List Char} {v : Value} (read : kind.read text = .ok v) :
      Reads (kind.parameter text) v
  | null {word : List Char} {type : NullType} (named : wireType word = .ok type.type) :
      Reads ("null:".toList ++ word) (.null type)
  | array {word text : List Char} {items : List Value} (colon : ':' ∉ word)
      (read : elements word text = .ok items) (count : items.length ≤ Value.maxElements) :
      Reads ("array:".toList ++ (word ++ ':' :: text)) (.array items)

theorem parse_eq_ok_iff : parse input = .ok v ↔ Reads input v := by
  constructor
  · intro h
    unfold parse at h
    split at h
    · cases h
    · rename_i word text cut
      obtain ⟨rfl, colon⟩ := cut?_eq_some_iff.mp cut
      split at h
      · rename_i null
        obtain ⟨type, named, known⟩ := bind_eq_ok_iff.mp h
        rw [Value.null?, NullType.ofWireType] at known
        split at known
        · cases known
          rw [null]
          exact .null named
        · cases known
      · split at h
        · rename_i array
          split at h
          · cases h
          · rename_i kind text' cut'
            obtain ⟨rfl, colon'⟩ := cut?_eq_some_iff.mp cut'
            obtain ⟨items, read, built⟩ := bind_eq_ok_iff.mp h
            obtain rfl := Value.eq_array_of_array? built
            rw [array]
            exact .array colon' read (Value.length_le_of_array? built)
        · obtain ⟨kind, rfl, read⟩ := scalar_eq_ok_iff.mp h
          exact .scalar read
  · intro h
    cases h with
    | scalar read => rw [parse_scalar, mapError_eq_ok_iff, read]
    | null named =>
      rename_i word type
      rw [parse_null, named]
      simp only [bind, Except.bind, Value.null?, NullType.ofWireType, dif_pos type.nullable]
      rfl
    | array colon read count =>
      obtain ⟨kind, scalars⟩ := exists_scalarKind_of_elements read
      rw [parse_array colon, read]
      simp only [bind, Except.bind, array?_of_scalars scalars, if_pos count]

/-! ## Refusals -/

/-- What a text can be refused for: some part of it that cannot be read, a null of a type that has
none, or too many elements. -/
inductive Refusal : WireError → Prop where
  | fault (part : List Char) (what : ParameterFault) : Refusal (fault part what)
  | nullType (type : WireType) : Refusal (.unsupportedNullType type)
  | tooLong (length : Nat) : Refusal (.invalidValue (.arrayTooLong length))

theorem refusal_of_scalar (h : scalar word text = .error error) : Refusal error := by
  unfold scalar at h
  split at h
  · obtain rfl := Except.error.inj h
    exact .fault _ _
  · obtain ⟨what, -, rfl⟩ := mapError_eq_error_iff.mp h
    exact .fault _ _

theorem refusal_of_wireType (h : wireType word = .error error) : Refusal error := by
  unfold wireType at h
  split at h
  · cases h
  · split at h
    · cases h
    · split at h
      · cases h
      · obtain rfl := Except.error.inj h
        exact .fault _ _

theorem refusal_of_null? {type : WireType} (h : Value.null? type = .error error) :
    Refusal error := by
  rw [Value.null?, NullType.ofWireType] at h
  split at h
  · cases h
  · obtain rfl := Except.error.inj h
    exact .nullType type

theorem refusal_of_elements (h : elements word text = .error error) : Refusal error := by
  unfold elements at h
  split at h
  · cases h
  · obtain ⟨before, bad, after, -, -, refused⟩ := mapM_eq_error_iff.mp h
    exact refusal_of_scalar refused

theorem refusal_of_array? (scalars : ∀ item ∈ items, item.scalarKind? = some kind)
    (h : Value.array? items = .error error) : Refusal error := by
  rw [array?_of_scalars scalars] at h
  split at h
  · cases h
  · obtain rfl := Except.error.inj h
    exact .tooLong _

/-- No text is refused for anything else.  In particular, the elements of an array always go
together. -/
theorem refusal_of_parse (h : parse input = .error error) : Refusal error := by
  unfold parse at h
  split at h
  · obtain rfl := Except.error.inj h
    exact .fault _ _
  · split at h
    · rcases bind_eq_error_iff.mp h with unknown | ⟨type, -, refused⟩
      · exact refusal_of_wireType unknown
      · exact refusal_of_null? refused
    · split at h
      · split at h
        · obtain rfl := Except.error.inj h
          exact .fault _ _
        · rcases bind_eq_error_iff.mp h with unread | ⟨items, read, refused⟩
          · exact refusal_of_elements unread
          · obtain ⟨kind, scalars⟩ := exists_scalarKind_of_elements read
            exact refusal_of_array? scalars refused
      · exact refusal_of_scalar h

end Parameter
end ProcWire
