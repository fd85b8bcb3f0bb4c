import ProcWire.Proofs.Integers
import ProcWire.Proofs.Parameters

/-! # Integers as parameters

There are four kinds of integers, of different widths.  Each takes the texts of the integers that
its width holds and no others (`parse_integer`), so a text that one of them takes, all wider
ones take for the same integer.  A timestamp may be written as an integer too, and then it is
the text of a long integer.
-/
namespace ProcWire.Parameter
open Numeral

/-- The scalar kinds that are integers. -/
inductive IntegerKind where
  | tinyInt
  | short
  | int
  | long
  deriving DecidableEq

namespace IntegerKind

variable {kind : IntegerKind} {raw : List Char} {v : Value} {z : Int}

/-- The scalar kind. -/
def scalar : IntegerKind → Scalar
  | tinyInt => .tinyInt
  | short => .short
  | int => .int
  | long => .long

/-- The number of bits. -/
def width : IntegerKind → Nat
  | tinyInt => 8
  | short => 16
  | int => 32
  | long => 64

/-- The values of a kind, and the integers that they are. -/
inductive Holds : IntegerKind → Value → Int → Prop where
  | tinyInt (n : Int8) : Holds .tinyInt (.tinyInt n) n.toInt
  | short (n : Int16) : Holds .short (.short n) n.toInt
  | int (n : Int32) : Holds .int (.int n) n.toInt
  | long (n : Int64) : Holds .long (.long n) n.toInt

/-- The value of an integer, as far as the width of the kind holds it. -/
def value : IntegerKind → Int → Value
  | tinyInt, z => .tinyInt (Int8.ofInt z)
  | short, z => .short (Int16.ofInt z)
  | int, z => .int (Int32.ofInt z)
  | long, z => .long (Int64.ofInt z)

theorem Holds.unique {z' : Int} (h : kind.Holds v z) (h' : kind.Holds v z') : z = z' := by
  cases h <;> cases h' <;> rfl

theorem Holds.inRange (h : kind.Holds v z) : InRange kind.width z := by
  cases h with
  | tinyInt n => exact ⟨n.le_toInt, n.toInt_lt⟩
  | short n => exact ⟨n.le_toInt, n.toInt_lt⟩
  | int n => exact ⟨n.le_toInt, n.toInt_lt⟩
  | long n => exact ⟨n.le_toInt, n.toInt_lt⟩

theorem Holds.eq_value (h : kind.Holds v z) : v = kind.value z := by
  cases h with
  | tinyInt n => rw [value, Int8.ofInt_toInt]
  | short n => rw [value, Int16.ofInt_toInt]
  | int n => rw [value, Int32.ofInt_toInt]
  | long n => rw [value, Int64.ofInt_toInt]

theorem holds_value (range : InRange kind.width z) : kind.Holds (kind.value z) z := by
  obtain ⟨low, high⟩ := range
  cases kind with
  | tinyInt =>
    have holds := Holds.tinyInt (Int8.ofInt z)
    rwa [Int8.toInt_ofInt_of_le low high] at holds
  | short =>
    have holds := Holds.short (Int16.ofInt z)
    rwa [Int16.toInt_ofInt_of_le low high] at holds
  | int =>
    have holds := Holds.int (Int32.ofInt z)
    rwa [Int32.toInt_ofInt_of_le low high] at holds
  | long =>
    have holds := Holds.long (Int64.ofInt z)
    rwa [Int64.toInt_ofInt_of_le low high] at holds

theorem read_scalar (kind : IntegerKind) (raw : List Char) : kind.scalar.read raw =
    Scalar.orFault (.notInteger kind.width) ((signed? kind.width raw).map kind.value) := by
  cases kind <;> rfl

theorem parse_eq_ok_iff_holds :
    parse (kind.scalar.parameter raw) = .ok v ↔ ∃ z, Denotes raw z ∧ kind.Holds v z := by
  rw [parse_scalar, mapError_eq_ok_iff, read_scalar, Scalar.orFault_eq_ok_iff,
    Option.map_eq_some_iff]
  simp only [signed?_eq_some_iff_denotes]
  constructor
  · rintro ⟨z, ⟨denotes, range⟩, rfl⟩
    exact ⟨z, denotes, holds_value range⟩
  · rintro ⟨z, denotes, holds⟩
    exact ⟨z, ⟨denotes, holds.inRange⟩, holds.eq_value.symm⟩

theorem exists_parse_iff : (∃ v, parse (kind.scalar.parameter raw) = .ok v) ↔
    ∃ z, Denotes raw z ∧ InRange kind.width z := by
  simp only [parse_eq_ok_iff_holds]
  constructor
  · rintro ⟨v, z, denotes, holds⟩
    exact ⟨z, denotes, holds.inRange⟩
  · rintro ⟨z, denotes, range⟩
    exact ⟨kind.value z, z, denotes, holds_value range⟩

theorem parse_eq_error (h : ¬ ∃ z, Denotes raw z ∧ InRange kind.width z) :
    parse (kind.scalar.parameter raw) = .error (fault raw (.notInteger kind.width)) := by
  rw [parse_scalar, read_scalar, signed?_eq_none_iff.mpr h]
  rfl

end IntegerKind

theorem parse_timestamp_of_long {raw : List Char} {micros : Int64}
    (h : parse (Scalar.long.parameter raw) = .ok (.long micros)) :
    parse (Scalar.timestamp.parameter raw) = .ok (.timestamp micros) := by
  have taken : parse (IntegerKind.long.scalar.parameter raw) = .ok (.long micros) := h
  obtain ⟨z, denotes, holds⟩ := IntegerKind.parse_eq_ok_iff_holds.mp taken
  have number : signed? 64 raw = some z :=
    signed?_eq_some_iff_denotes.mpr ⟨denotes, holds.inRange⟩
  have same : micros = Int64.ofInt z := Value.long.inj holds.eq_value
  rw [parse_scalar, mapError_eq_ok_iff, Scalar.read, Scalar.orFault_eq_ok_iff, Scalar.timestamp?,
    number, same]

/-- **An integer kind takes the decimals of the integers that its width holds**, with one sign or
none and as many zeros in front as there may be.  What it takes, every wider kind takes as the same
integer; and what is taken for a long integer is the same number of microseconds. -/
theorem parse_integer (raw : List Char) :
    (∀ (kind : IntegerKind) (v : Value), parse (kind.scalar.parameter raw) = .ok v ↔
      ∃ z, Denotes raw z ∧ kind.Holds v z) ∧
    (∀ kind : IntegerKind, (∃ v, parse (kind.scalar.parameter raw) = .ok v) ↔
      ∃ z, Denotes raw z ∧ -2 ^ (kind.width - 1) ≤ z ∧ z < 2 ^ (kind.width - 1)) ∧
    (∀ kind : IntegerKind, (¬ ∃ v, parse (kind.scalar.parameter raw) = .ok v) →
      parse (kind.scalar.parameter raw) =
        .error (.invalidValue (.badParameter raw (.notInteger kind.width)))) ∧
    (∀ (kind wider : IntegerKind) (v : Value) (z : Int), kind.width ≤ wider.width →
      parse (kind.scalar.parameter raw) = .ok v → kind.Holds v z →
        ∃ w, parse (wider.scalar.parameter raw) = .ok w ∧ wider.Holds w z) ∧
    (∀ micros, parse (Scalar.long.parameter raw) = .ok (.long micros) →
      parse (Scalar.timestamp.parameter raw) = .ok (.timestamp micros)) := by
  refine ⟨fun kind v => IntegerKind.parse_eq_ok_iff_holds, fun kind => IntegerKind.exists_parse_iff,
    fun kind refused => ?_, fun kind wider v z le read holds => ?_,
    fun micros => parse_timestamp_of_long⟩
  · rw [IntegerKind.exists_parse_iff] at refused
    exact IntegerKind.parse_eq_error refused
  · obtain ⟨z', denotes, holds'⟩ := IntegerKind.parse_eq_ok_iff_holds.mp read
    have range := holds.inRange.mono le
    obtain rfl := holds.unique holds'
    refine ⟨wider.value z, ?_, IntegerKind.holds_value range⟩
    exact IntegerKind.parse_eq_ok_iff_holds.mpr ⟨z, denotes, IntegerKind.holds_value range⟩

/-- The least single-byte integer is taken, by the wider kinds too; the least that is too great is
not. -/
theorem parse_integer_at_the_bounds :
    parse "tinyint:-000128".toList = .ok (.tinyInt (-128)) ∧
    (∃ w, parse "short:-000128".toList = .ok w ∧ IntegerKind.short.Holds w (-128)) ∧
    parse "tinyint:+128".toList = .error (fault "+128".toList (.notInteger 8)) := by
  have least : parse "tinyint:-000128".toList = .ok (.tinyInt (-128)) := rfl
  have beyond : ¬ ∃ v, parse "tinyint:+128".toList = .ok v := by
    rintro ⟨v, ⟨⟩⟩
  refine ⟨least, ?_, (parse_integer "+128".toList).2.2.1 .tinyInt beyond⟩
  exact (parse_integer "-000128".toList).2.2.2.1 .tinyInt .short _ _ (by decide) least
    (.tinyInt (-128))

end ProcWire.Parameter
