/-! # Bytes and big-endian words

Everything on the wire is a finite list of bytes, and every number on it is a
big-endian word.  This module holds the list type, the two directions between a
word and its bytes, and the split that a reader of a stream needs: the first `n`
bytes and what follows them, or nothing when the stream holds fewer.
-/
namespace ProcWire

/-- A finite run of bytes, in wire order. -/
abbrev Bytes := List UInt8

namespace Bytes

/-- The `width` low-order bytes of `n`, most significant first. -/
def ofNat : Nat → Nat → Bytes
  | 0, _ => []
  | width + 1, n => ofNat width (n / 256) ++ [UInt8.ofNat n]

/-- The number that a run of bytes denotes, most significant byte first. -/
def toNat (bytes : Bytes) : Nat :=
  bytes.foldl (fun total b => total * 256 + b.toNat) 0

@[simp] theorem length_ofNat (width n : Nat) : (ofNat width n).length = width := by
  induction width generalizing n with
  | zero => rfl
  | succ width ih => simp [ofNat, ih]

@[simp] theorem toNat_nil : toNat [] = 0 := rfl

@[simp] theorem toNat_append_singleton (bytes : Bytes) (b : UInt8) :
    toNat (bytes ++ [b]) = toNat bytes * 256 + b.toNat := by
  simp [toNat]

/-- A word keeps the value of the number modulo its width. -/
theorem toNat_ofNat (width n : Nat) : toNat (ofNat width n) = n % Nat.pow 256 width := by
  induction width generalizing n with
  | zero => exact (Nat.mod_one n).symm
  | succ width ih =>
    have low : (UInt8.ofNat n).toNat = n % 256 := by simp
    rw [ofNat, toNat_append_singleton, ih, low]
    change _ = n % (Nat.pow 256 width * 256)
    rw [Nat.mul_comm (Nat.pow 256 width) 256, Nat.mod_mul]
    omega

/-- The first `n` bytes and the rest, or nothing when there are fewer than `n`. -/
def split? (n : Nat) (bytes : Bytes) : Option (Bytes × Bytes) :=
  let first := bytes.take n
  if first.length = n then some (first, bytes.drop n) else none

theorem split?_append (first rest : Bytes) :
    split? first.length (first ++ rest) = some (first, rest) := by
  simp [split?]

theorem split?_eq_none_iff {n : Nat} {bytes : Bytes} :
    split? n bytes = none ↔ bytes.length < n := by
  simp only [split?, List.length_take]
  split <;> simp <;> omega

theorem append_of_split? {n : Nat} {bytes first rest : Bytes}
    (h : split? n bytes = some (first, rest)) : bytes = first ++ rest ∧ first.length = n := by
  simp only [split?] at h
  split at h
  · obtain ⟨rfl, rfl⟩ := by simpa using h
    exact ⟨(List.take_append_drop n bytes).symm, ‹_›⟩
  · contradiction

end Bytes

end ProcWire
