import ProcWire.Calendar.Instant
import ProcWire.Proofs.Integers

/-! # Instants in microseconds

The microseconds of an instant are computed in 64 bits.  For the seconds that a calendar reaches
nothing wraps on the way, so `toInt_micros` is the rounding to the nearest microsecond, on
either side of the epoch: the division is of nanoseconds that are not negative.
-/
namespace ProcWire
open Numeral

variable {a b : Int64} {z : Int}

theorem bmod_eq_of_inRange (h : InRange 64 z) : z.bmod (2 ^ 64) = z := by
  obtain ⟨low, high⟩ := h
  exact Int.bmod_eq_of_le_mul_two (by omega) (by omega)

theorem toInt_add_of_inRange (h : InRange 64 (a.toInt + b.toInt)) :
    (a + b).toInt = a.toInt + b.toInt := by
  rw [Int64.toInt_add, bmod_eq_of_inRange h]

theorem toInt_mul_of_inRange (h : InRange 64 (a.toInt * b.toInt)) :
    (a * b).toInt = a.toInt * b.toInt := by
  rw [Int64.toInt_mul, bmod_eq_of_inRange h]

/-- Of a number that is not negative, the quotient is rounded down. -/
theorem toInt_div_of_nonneg (ha : 0 ≤ a.toInt) (hb : 0 < b.toInt) :
    (a / b).toInt = a.toInt / b.toInt := by
  have quotient : a.toInt.tdiv b.toInt = a.toInt / b.toInt := Int.tdiv_eq_ediv_of_nonneg ha
  have range : InRange 64 (a.toInt / b.toInt) := by
    have le := Int.ediv_le_self b.toInt ha
    have nonneg := Int.ediv_nonneg ha (Int.le_of_lt hb)
    have high := a.toInt_lt
    exact ⟨by omega, by omega⟩
  rw [Int64.toInt_div, quotient, bmod_eq_of_inRange range]

theorem toInt_toInt64 (n : UInt32) : n.toUInt64.toInt64.toInt = n.toNat := by
  have small : (n.toNat : Int).bmod (2 ^ 64) = n.toNat :=
    bmod_eq_of_inRange ⟨by omega, by have := n.toNat_lt; omega⟩
  rw [Int64.toInt, UInt64.toBitVec_toInt64, BitVec.toInt_eq_toNat_bmod, UInt64.toNat_toBitVec,
    UInt32.toNat_toUInt64]
  exact small

namespace Instant

theorem toInt_raised (instant : Instant) :
    (instant.nanos.toUInt64.toInt64 + 500).toInt = instant.nanos.toNat + 500 := by
  have nanos := toInt_toInt64 instant.nanos
  have small := instant.nanos.toNat_lt
  have half : (500 : Int64).toInt = 500 := rfl
  have range : InRange 64 (instant.nanos.toUInt64.toInt64.toInt + (500 : Int64).toInt) := by
    rw [nanos, half]
    exact ⟨by omega, by omega⟩
  rw [toInt_add_of_inRange range, nanos, half]

/-- Half a microsecond more, so that rounding down gives the nearest. -/
theorem toInt_rounded (instant : Instant) :
    ((instant.nanos.toUInt64.toInt64 + 500) / 1000).toInt =
      (instant.nanos.toNat + 500 : Int) / 1000 := by
  have sum := instant.toInt_raised
  rw [toInt_div_of_nonneg (by omega) (by decide), sum]
  rfl

section Range
variable (instant : Instant) (low : -8334601228800 ≤ instant.seconds.toInt)
  (high : instant.seconds.toInt ≤ 8334601228800)
include low high

theorem toInt_whole : (instant.seconds * 1000000).toInt = instant.seconds.toInt * 1000000 := by
  have million : (1000000 : Int64).toInt = 1000000 := rfl
  have range : InRange 64 (instant.seconds.toInt * (1000000 : Int64).toInt) := by
    rw [million]
    exact ⟨by omega, by omega⟩
  rw [toInt_mul_of_inRange range, million]

theorem toInt_micros_eq_add : instant.micros.toInt = (instant.seconds * 1000000).toInt +
    ((instant.nanos.toUInt64.toInt64 + 500) / 1000).toInt := by
  have small := instant.nanos.toNat_lt
  refine toInt_add_of_inRange ?_
  rw [instant.toInt_whole low high, instant.toInt_rounded]
  exact ⟨by omega, by omega⟩

/-- **The microseconds of an instant are the nearest**, and of two equally near the later. -/
theorem toInt_micros : instant.micros.toInt =
    (1000000000 * instant.seconds.toInt + instant.nanos.toNat + 500) / 1000 := by
  rw [instant.toInt_micros_eq_add low high, instant.toInt_whole low high, instant.toInt_rounded]
  omega

end Range

end Instant
end ProcWire
