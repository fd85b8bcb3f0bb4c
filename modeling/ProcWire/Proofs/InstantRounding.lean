import ProcWire.Proofs.Instants
import ProcWire.Proofs.Marshalling

/-! # Instants are rounded to microseconds

An instant counts as timestamps do, from the epoch (`Instant.nanosSinceEpoch`), and its
microseconds are the nearest to that, of two equally near the later.  For every instant that a
calendar reaches (`Instant.Representable`) they can be computed with each step checked
(`Instant.checkedMicros?`): no step leaves the 64 bits it is done in, though the greatest come
within a tenth of the end.  So there is room below the least of them, and none is the timestamp that
stands for NULL.

Leap seconds stand in the way of order: the end of one counts as some of the second that comes
after it.  From any other instant, a later one is not rounded to less.
-/
namespace ProcWire
open Numeral

/-- The result of a step in 64 bits, unless it does not fit in there. -/
def checked? (z : Int) : Option Int64 := if fits 64 z then some (Int64.ofInt z) else none

theorem checked?_toInt (n : Int64) : checked? n.toInt = some n := by
  have range : fits 64 n.toInt = true := fits_iff.mpr ⟨n.le_toInt, n.toInt_lt⟩
  rw [checked?, if_pos range, Int64.ofInt_toInt]

namespace Instant

/-- The instants that a calendar reaches, leap seconds included. -/
structure Representable (instant : Instant) : Prop where
  low : -8334601228800 ≤ instant.seconds.toInt
  high : instant.seconds.toInt ≤ 8334601228800
  nanos : instant.nanos.toNat < 2000000000

/-- Nanoseconds since 1970-01-01T00:00:00Z, before it negative. -/
def nanosSinceEpoch (instant : Instant) : Int :=
  1000000000 * instant.seconds.toInt + instant.nanos.toNat

/-- Instants in order: by the second, and by how much of it is over. -/
def NotAfter (earlier later : Instant) : Prop :=
  earlier.seconds < later.seconds ∨
    earlier.seconds = later.seconds ∧ earlier.nanos ≤ later.nanos

/-- The microseconds of an instant, unless some step leaves 64 bits. -/
def checkedMicros? (instant : Instant) : Option Int64 := do
  let whole ← checked? (instant.seconds.toInt * 1000000)
  let raised ← checked? (instant.nanos.toNat + 500)
  let rounded ← checked? (raised.toInt.tdiv 1000)
  checked? (whole.toInt + rounded.toInt)

variable {instant earlier later : Instant}

namespace Representable

theorem toInt_micros (h : instant.Representable) :
    instant.micros.toInt = (instant.nanosSinceEpoch + 500) / 1000 :=
  instant.toInt_micros h.low h.high

/-- No step leaves 64 bits. -/
theorem checkedMicros?_eq (h : instant.Representable) :
    instant.checkedMicros? = some instant.micros := by
  have whole : checked? (instant.seconds.toInt * 1000000) = some (instant.seconds * 1000000) := by
    rw [← instant.toInt_whole h.low h.high, checked?_toInt]
  have raised : checked? (instant.nanos.toNat + 500) =
      some (instant.nanos.toUInt64.toInt64 + 500) := by
    rw [← instant.toInt_raised, checked?_toInt]
  have rounded : checked? ((instant.nanos.toUInt64.toInt64 + 500).toInt.tdiv 1000) =
      some ((instant.nanos.toUInt64.toInt64 + 500) / 1000) := by
    have nonneg := instant.toInt_raised
    rw [Int.tdiv_eq_ediv_of_nonneg (by omega), nonneg, ← instant.toInt_rounded, checked?_toInt]
  have sum : checked? ((instant.seconds * 1000000).toInt +
      ((instant.nanos.toUInt64.toInt64 + 500) / 1000).toInt) = some instant.micros := by
    rw [← instant.toInt_micros_eq_add h.low h.high, checked?_toInt]
  exact Option.bind_eq_some_iff.mpr ⟨_, whole, Option.bind_eq_some_iff.mpr ⟨_, raised,
    Option.bind_eq_some_iff.mpr ⟨_, rounded, sum⟩⟩⟩

/-- There is room below the least of them. -/
theorem micros_ne_minValue (h : instant.Representable) : instant.micros ≠ Int64.minValue := by
  intro same
  have value := h.toInt_micros
  have least : Int64.minValue.toInt = -9223372036854775808 := rfl
  have low := h.low
  rw [same, least, nanosSinceEpoch] at value
  omega

end Representable

/-- No instant is written as the timestamp that stands for NULL. -/
theorem bytes_ne_null (h : instant.micros ≠ Int64.minValue) :
    ∃ sent missing, (Value.ofInstant instant).marshal.bytes = .ok sent ∧
      (Value.null ⟨.timestamp, rfl⟩).marshal.bytes = .ok missing ∧ sent ≠ missing := by
  have written {v : Value} (fits : v.FieldsFit) : v.marshal.bytes = .ok v.erase.bytes :=
    Value.bytes_marshal_eq_ok_iff.mpr ⟨fits, rfl⟩
  have sentinel : (Value.null ⟨.timestamp, rfl⟩).erase = .timestamp Int64.minValue := rfl
  refine ⟨_, _, written (.timestamp _), written (.null _), fun same => h ?_⟩
  rw [sentinel] at same
  exact WireValue.timestamp.inj (WireValue.bytes_injective (.timestamp _) (.timestamp _) same)

theorem nanosSinceEpoch_le (order : earlier.NotAfter later)
    (no_leap : earlier.nanos.toNat < 1000000000) :
    earlier.nanosSinceEpoch ≤ later.nanosSinceEpoch := by
  unfold nanosSinceEpoch
  rcases order with before | ⟨same, le⟩
  · have seconds := Int64.lt_iff_toInt_lt.mp before
    omega
  · have nanos := UInt32.le_iff_toNat_le.mp le
    rw [same]
    omega

theorem micros_le (hearlier : earlier.Representable) (hlater : later.Representable)
    (order : earlier.NotAfter later) (no_leap : earlier.nanos.toNat < 1000000000) :
    earlier.micros ≤ later.micros := by
  have counts := nanosSinceEpoch_le order no_leap
  rw [Int64.le_iff_toInt_le, hearlier.toInt_micros, hlater.toInt_micros]
  exact Int.ediv_le_ediv (by decide) (by omega)

/-- **Instants are rounded to the nearest microsecond**, of two equally near to the later, with no
overflow on the way and never to NULL; and their order is kept, unless the earlier one is in a leap
second. -/
theorem micros_nearest :
    (∀ instant : Instant, instant.Representable →
      instant.checkedMicros? = some instant.micros ∧
      instant.micros.toInt = (instant.nanosSinceEpoch + 500) / 1000 ∧
      (1000 * instant.micros.toInt - instant.nanosSinceEpoch).natAbs ≤ 500 ∧
      (instant.nanosSinceEpoch % 1000 = 500 →
        1000 * instant.micros.toInt = instant.nanosSinceEpoch + 500) ∧
      instant.micros ≠ Int64.minValue ∧
      ∃ sent missing, (Value.ofInstant instant).marshal.bytes = .ok sent ∧
        (Value.null ⟨.timestamp, rfl⟩).marshal.bytes = .ok missing ∧ sent ≠ missing) ∧
    (∀ earlier later : Instant, earlier.Representable → later.Representable →
      earlier.NotAfter later → earlier.nanos.toNat < 1000000000 →
        earlier.micros ≤ later.micros) := by
  refine ⟨fun instant h => ?_, fun earlier later => micros_le⟩
  have value := h.toInt_micros
  exact ⟨h.checkedMicros?_eq, value, by omega, fun tie => by omega, h.micros_ne_minValue,
    bytes_ne_null h.micros_ne_minValue⟩

/-- The ends of the calendar, the last instant in a leap second; and half a microsecond before the
epoch, which is rounded up to it and so to no more than what is nearer. -/
theorem micros_nearest_at_ends_and_epoch :
    (Instant.mk 8334601228800 1999999999).checkedMicros? =
      some (Instant.mk 8334601228800 1999999999).micros ∧
    (Instant.mk (-8334601228800) 0).micros ≠ Int64.minValue ∧
    1000 * (Instant.mk (-1) 999999500).micros.toInt = 0 ∧
    (Instant.mk (-1) 999999500).micros ≤ (Instant.mk (-1) 999999501).micros := by
  have last : (Instant.mk 8334601228800 1999999999).Representable :=
    ⟨by decide, by decide, by decide⟩
  have first : (Instant.mk (-8334601228800) 0).Representable := ⟨by decide, by decide, by decide⟩
  have tie : (Instant.mk (-1) 999999500).Representable := ⟨by decide, by decide, by decide⟩
  have nearer : (Instant.mk (-1) 999999501).Representable := ⟨by decide, by decide, by decide⟩
  obtain ⟨fits, -⟩ := micros_nearest.1 _ last
  obtain ⟨-, -, -, -, apart, -⟩ := micros_nearest.1 _ first
  obtain ⟨-, -, -, up, -, -⟩ := micros_nearest.1 _ tie
  exact ⟨fits, apart, up (by decide),
    micros_nearest.2 _ _ tie nearer (Or.inr ⟨rfl, by decide⟩) (by decide)⟩

end Instant
end ProcWire
