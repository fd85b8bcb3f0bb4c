import ProcWire.Proofs.ArrayParameters
import ProcWire.Proofs.HexText
import ProcWire.Proofs.IntegerParameters

/-! # What can be written as a parameter

`Parameter.Expressible` lists the values that a parameter can be: all scalars, all typed nulls,
and the arrays of scalars of one kind, as far as commas can tell their elements apart.  There
are two ways for them not to.  A comma within an element is taken for one between two, and a
single element without any text is taken for none.  `parse_image` says that every
other array is expressible, and that nothing else is.

Floats are left out, since not every float is what some decimal text is read as.  For a value
without floats, `Value.scalarText` is a text of each scalar in it.
-/
namespace ProcWire

/-- There is a float in a value, at whatever depth. -/
inductive Value.HasFloat : Value → Prop where
  | float (bits : UInt64) : HasFloat (.float bits)
  | element {items : List Value} {item : Value} (mem : item ∈ items) (within : HasFloat item) :
      HasFloat (.array items)

/-- A text for a scalar that is no float. -/
def Value.scalarText : Value → List Char
  | .bool v => if v then "true".toList else "false".toList
  | .tinyInt n => Json.integer n.toInt
  | .short n => Json.integer n.toInt
  | .int n => Json.integer n.toInt
  | .long n => Json.integer n.toInt
  | .timestamp n => Json.integer n.toInt
  | .string text => text.toList
  | .varbinary data => Hex.encode data
  | .float _ | .array _ | .null _ => []

namespace Parameter
open Numeral

variable {kind : Scalar} {v : Value} {items : List Value} {text piece : List Char}

/-- The values that a parameter can be. -/
inductive Expressible : Value → Prop where
  | scalar {kind : Scalar} {v : Value} (scalar : v.scalarKind? = some kind) : Expressible v
  | null (type : NullType) : Expressible (.null type)
  | array {kind : Scalar} {items : List Value} (count : items.length ≤ 32767)
      (one_kind : ∀ item ∈ items, item.scalarKind? = some kind)
      (no_comma : ∀ text : String, .string text ∈ items → ',' ∉ text.toList)
      (not_empty_text : items ≠ [.string ""]) (not_no_bytes : items ≠ [.varbinary []]) :
      Expressible (.array items)

/-! ## Texts of scalars -/

/-- An integer is read back from its decimal. -/
theorem IntegerKind.read_integer {kind : IntegerKind} {z : Int} (h : kind.Holds v z) :
    kind.scalar.read (Json.integer z) = .ok v := by
  rw [read_scalar, signed?_integer h.inRange, Option.map_some, ← h.eq_value]
  rfl

theorem read_scalarText (h : v.scalarKind? = some kind) (no_float : ¬ v.HasFloat) :
    kind.read v.scalarText = .ok v := by
  cases v with
  | bool b =>
    cases h
    cases b <;> rfl
  | tinyInt n =>
    cases h
    exact IntegerKind.read_integer (.tinyInt n)
  | short n =>
    cases h
    exact IntegerKind.read_integer (.short n)
  | int n =>
    cases h
    exact IntegerKind.read_integer (.int n)
  | long n =>
    cases h
    exact IntegerKind.read_integer (.long n)
  | float bits => exact absurd (.float bits) no_float
  | string text =>
    cases h
    rw [Value.scalarText, Scalar.read, String.ofList_toList]
  | varbinary data =>
    cases h
    rw [Value.scalarText, Scalar.read, Hex.decode_encode]
    rfl
  | timestamp n =>
    cases h
    have number : signed? 64 (Json.integer n.toInt) = some n.toInt :=
      signed?_integer ⟨n.le_toInt, n.toInt_lt⟩
    rw [Value.scalarText, Scalar.read, Scalar.orFault_eq_ok_iff, Scalar.timestamp?, number]
    simp only [Int64.ofInt_toInt]
  | array items => cases h
  | null type => cases h

theorem comma_notMem_integer (z : Int) : ',' ∉ Json.integer z := by
  intro mem
  rcases Json.mem_integer mem with sign | digit
  · cases sign
  · cases digit

/-- Only a string can have a comma in its text. -/
theorem comma_notMem_scalarText (no_comma : ∀ text : String, v = .string text → ',' ∉ text.toList) :
    ',' ∉ v.scalarText := by
  cases v with
  | bool b => cases b <;> decide
  | string text => exact no_comma text rfl
  | varbinary data =>
    intro mem
    obtain ⟨n, hn, same⟩ := Hex.exists_digit_of_mem_encode mem
    have apart : ∀ n : Fin 16, ',' ≠ Hex.digit n := by decide
    exact apart ⟨n, hn⟩ same
  | float _ => exact List.not_mem_nil
  | array _ => exact List.not_mem_nil
  | null _ => exact List.not_mem_nil
  | _ => exact comma_notMem_integer _

/-- Two scalars have no text at all: the empty string and no bytes. -/
theorem read_nil (h : kind.read [] = .ok v) : v = .string "" ∨ v = .varbinary [] := by
  cases kind with
  | string => exact Or.inl (Except.ok.inj h).symm
  | bytes => exact Or.inr (Except.ok.inj h).symm
  | _ => cases h

/-- And no other text is read as one of them. -/
theorem eq_nil_of_read (h : kind.read piece = .ok v) (empty : v = .string "" ∨ v = .varbinary []) :
    piece = [] := by
  have of_kind := Scalar.scalarKind?_of_read h
  rcases empty with rfl | rfl
  · obtain rfl := Option.some.inj of_kind
    have same : String.ofList piece = "" := Value.string.inj (Except.ok.inj h)
    exact String.ofList_injective same
  · obtain rfl := Option.some.inj of_kind
    rw [Scalar.read, Scalar.orFault_eq_ok_iff, Option.map_eq_some_iff] at h
    obtain ⟨data, decoded, same⟩ := h
    obtain rfl := Value.varbinary.inj same
    cases read : Hex.decode (Utf8.encode piece) with
    | error fault =>
      rw [read] at decoded
      cases decoded
    | ok bytes =>
      rw [read] at decoded
      obtain rfl := Option.some.inj decoded
      exact List.map_eq_nil_iff.mp (Hex.decode_encode_eq_ok_iff.mp read)

theorem wireType_name (type : WireType) : wireType type.name.toList = .ok type := by
  cases type <;> rfl

/-! ## Arrays -/

/-- Elements read from the pieces of a text are told apart by its commas. -/
theorem expressible_of_elements {word : List Char} (h : elements word text = .ok items)
    (count : items.length ≤ Value.maxElements) : Expressible (.array items) := by
  rcases elements_eq_ok_iff.mp h with ⟨-, rfl⟩ | ⟨some_text, kind, -, read⟩
  · have one_kind : ∀ item ∈ ([] : List Value), item.scalarKind? = some .bool := nofun
    exact .array count one_kind nofun nofun nofun
  · have one_kind : ∀ item ∈ items, item.scalarKind? = some kind := by
      intro item mem
      obtain ⟨piece, -, here⟩ := exists_mem_of_forall₂ read mem
      exact Scalar.scalarKind?_of_read here
    -- A single element is read from the whole text, which is not empty.
    have not_single {item : Value} (empty : item = .string "" ∨ item = .varbinary []) :
        items ≠ [item] := by
      rintro rfl
      obtain ⟨piece, others, here, rest, pieces⟩ := List.forall₂_cons_right_iff.mp read
      obtain rfl := List.forall₂_nil_right_iff.mp rest
      have whole : [','].intercalate (text.splitOn ',') = text := List.intercalate_splitOn ','
      rw [pieces, List.intercalate_singleton, eq_nil_of_read here empty] at whole
      exact some_text whole.symm
    refine .array count one_kind (fun string mem => ?_) (not_single (.inl rfl))
      (not_single (.inr rfl))
    obtain ⟨piece, inside, here⟩ := exists_mem_of_forall₂ read mem
    obtain rfl := Option.some.inj (one_kind _ mem)
    have same : String.ofList piece = string := Value.string.inj (Except.ok.inj here)
    rw [← same, String.toList_ofList]
    exact notMem_of_mem_splitOn inside

theorem elements_of_expressible (one_kind : ∀ item ∈ items, item.scalarKind? = some kind)
    (no_comma : ∀ text : String, .string text ∈ items → ',' ∉ text.toList)
    (not_empty_text : items ≠ [.string ""]) (not_no_bytes : items ≠ [.varbinary []])
    (no_float : ∀ item ∈ items, ¬ item.HasFloat) :
    elements kind.name ([','].intercalate (items.map Value.scalarText)) = .ok items := by
  have each : ∀ item ∈ items, kind.read item.scalarText = .ok item := fun item mem =>
    read_scalarText (one_kind item mem) (no_float item mem)
  by_cases none : items = []
  · subst none
    exact elements_eq_ok_iff.mpr (Or.inl ⟨rfl, rfl⟩)
  · have nonempty : items.map Value.scalarText ≠ [] := by simpa using none
    have commas : ∀ value ∈ items.map Value.scalarText, ',' ∉ value := by
      simp only [List.forall_mem_map]
      rintro item mem
      exact comma_notMem_scalarText fun text same => no_comma text (same ▸ mem)
    have not_blank : items.map Value.scalarText ≠ [[]] := by
      intro blank
      obtain ⟨item, rfl, empty⟩ := List.map_eq_singleton_iff.mp blank
      have read := each item (List.mem_singleton_self item)
      rw [empty] at read
      rcases read_nil read with rfl | rfl
      · exact not_empty_text rfl
      · exact not_no_bytes rfl
    refine elements_eq_ok_iff.mpr (Or.inr
      ⟨intercalate_comma_ne_nil nonempty not_blank commas, kind, rfl, ?_⟩)
    rw [splitOn_intercalate_comma nonempty commas, List.forall₂_map_left_iff]
    exact List.forall₂_same.mpr each

theorem exists_parse_of_expressible (h : Expressible v) (no_float : ¬ v.HasFloat) :
    ∃ text, parse text = .ok v := by
  simp only [parse_eq_ok_iff]
  cases h with
  | scalar scalar => exact ⟨_, .scalar (read_scalarText scalar no_float)⟩
  | null type => exact ⟨_, .null (wireType_name type.type)⟩
  | array count one_kind no_comma not_empty_text not_no_bytes =>
    rename_i kind items
    have read := elements_of_expressible one_kind no_comma not_empty_text not_no_bytes
      fun item mem within => no_float (.element mem within)
    exact ⟨_, .array kind.colon_notMem_name read count⟩

theorem expressible_of_parse (h : parse text = .ok v) : Expressible v := by
  cases parse_eq_ok_iff.mp h with
  | scalar read => exact .scalar (Scalar.scalarKind?_of_read read)
  | null named => exact .null _
  | array colon read count => exact expressible_of_elements read count

/-- **A value without floats can be written as a parameter if and only if it is expressible.**  The
text of a string is taken as it is, whatever is in it, and no element of an array is an array or a
null. -/
theorem parse_image :
    (∀ v : Value, ¬ v.HasFloat → ((∃ text, parse text = .ok v) ↔ Expressible v)) ∧
    (∀ text, parse ("string:".toList ++ text) = .ok (.string (String.ofList text))) ∧
    (∀ text items, parse text = .ok (.array items) → ∀ item ∈ items,
      (∀ inner, item ≠ .array inner) ∧ ∀ type, item ≠ .null type) := by
  refine ⟨fun v no_float => ⟨fun ⟨text, read⟩ => expressible_of_parse read,
    fun expressible => exists_parse_of_expressible expressible no_float⟩,
    fun text => parse_scalar .string text, fun text items read item mem => ?_⟩
  cases expressible_of_parse read with
  | scalar scalar => cases scalar
  | array count one_kind =>
    have scalar := one_kind item mem
    constructor
    · rintro inner rfl
      cases scalar
    · rintro type rfl
      cases scalar

/-- No text is read as the array of one empty string, but one is as the array of two; and none is
as an array within an array. -/
theorem parse_image_empty_elements :
    (¬ ∃ text, parse text = .ok (.array [.string ""])) ∧
    (∃ text, parse text = .ok (.array [.string "", .string ""])) ∧
    ¬ ∃ text, parse text = .ok (.array [.array []]) := by
  have no_float {items : List Value} (none : ∀ item ∈ items, ¬ item.HasFloat) :
      ¬ (Value.array items).HasFloat := by
    intro float
    cases float with
    | element mem within => exact none _ mem within
  have text_no_float (text : String) : ¬ (Value.string text).HasFloat := by
    intro float
    cases float
  refine ⟨?one_empty, ?two_empty, ?nested⟩
  case one_empty =>
    rw [parse_image.1 _ (no_float (List.forall_mem_singleton.mpr (text_no_float "")))]
    intro expressible
    cases expressible with
    | scalar scalar => cases scalar
    | array _ _ _ not_empty_text _ => exact not_empty_text rfl
  case two_empty =>
    rw [parse_image.1 _ (no_float (by simp [text_no_float]))]
    have strings : ∀ item ∈ [Value.string "", Value.string ""],
        item.scalarKind? = some .string := by simp [Value.scalarKind?]
    refine .array (by decide) strings (fun text mem => ?_) (by simp) (by simp)
    obtain rfl : text = "" := by simpa using mem
    exact List.not_mem_nil
  case nested =>
    rintro ⟨text, read⟩
    exact (parse_image.2.2 _ _ read _ (List.mem_singleton_self _)).1 [] rfl

end Parameter
end ProcWire
