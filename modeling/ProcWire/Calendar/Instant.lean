/-! # Instants

An instant is a number of seconds since 1970-01-01T00:00:00Z, before it negative,
and a number of nanoseconds onwards from there.  A leap second is the second
before it with more than 999 999 999 nanoseconds.  On the wire an instant has
microseconds; the nearest one is taken, and of two equally near the later.
-/
namespace ProcWire

/-- A point in time. -/
structure Instant where
  seconds : Int64
  /-- Nanoseconds, at least 10⁹ and below 2 · 10⁹ in a leap second. -/
  nanos : UInt32
  deriving DecidableEq, Repr

/-- Microseconds since 1970-01-01T00:00:00Z, to the nearest. -/
def Instant.micros (instant : Instant) : Int64 :=
  instant.seconds * 1000000 + (instant.nanos.toUInt64.toInt64 + 500) / 1000

end ProcWire
