import ProcWire.Stream

/-! # Reading primitives

Fixed-width big-endian numbers, and byte arrays and strings behind a 32-bit
length.  A length of `-1` is the NULL marker, every other negative length breaks
the protocol, and a length above the limit is refused before any of its payload is
read.  A stream that ends early leaves nothing to read.
-/
namespace ProcWire.Reader

/-- The next `n` bytes. -/
def raw (n : Nat) : Reader Bytes := fun stream =>
  match Bytes.split? n stream with
  | some (first, rest) => (.ok first, rest)
  | none => (.error (.io .exhausted), [])

/-- The next `width` bytes as a number, most significant first. -/
def word (width : Nat) : Reader Nat := do
  let bytes ← raw width
  pure (Bytes.toNat bytes)

/-- A signed 8-bit integer. -/
def byte : Reader Int8 := do
  let n ← word 1
  pure (UInt8.ofNat n).toInt8

/-- A signed 16-bit integer. -/
def short : Reader Int16 := do
  let n ← word 2
  pure (UInt16.ofNat n).toInt16

/-- A signed 32-bit integer. -/
def int : Reader Int32 := do
  let n ← word 4
  pure (UInt32.ofNat n).toInt32

/-- A signed 64-bit integer. -/
def long : Reader Int64 := do
  let n ← word 8
  pure (UInt64.ofNat n).toInt64

/-- The bit pattern of a 64-bit float. -/
def float : Reader UInt64 := do
  let n ← word 8
  pure (UInt64.ofNat n)

/-- The length that stands for NULL. -/
def nullLength : Int32 := -1

/-- A length prefix of at most `max`; nothing for the NULL marker. -/
def length (field : String) (max : Nat) : Reader (Option Nat) := do
  let length ← int
  if length = nullLength then
    pure none
  else if length < 0 then
    Transfer.fail (.protocol (.negativeLength field length))
  else if length.toNatClampNeg > max then
    Transfer.fail (.limitExceeded field length.toNatClampNeg max)
  else
    pure (some length.toNatClampNeg)

/-- The text that a run of bytes spells. -/
def text (bytes : Bytes) : Except WireError String :=
  (Utf8.toString? bytes).mapError fun defect => .protocol (.invalidUtf8 defect)

/-- A string, or nothing for NULL. -/
def nullableString (max : Nat) : Reader (Option String) := do
  match ← length "string" max with
  | none => pure none
  | some n =>
    let bytes ← raw n
    let s ← Transfer.lift (text bytes)
    pure (some s)

/-- A string; NULL reads as the empty string, as the server's own clients have it. -/
def string (max : Nat) : Reader String := do
  let s ← nullableString max
  pure (s.getD "")

/-- A byte array, or nothing for NULL. -/
def varbinary (max : Nat) : Reader (Option Bytes) := do
  match ← length "varbinary" max with
  | none => pure none
  | some n =>
    let bytes ← raw n
    pure (some bytes)

end ProcWire.Reader
