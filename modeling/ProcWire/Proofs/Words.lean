import Mathlib.Data.List.Induction
import ProcWire.Stream.Reader
import ProcWire.Stream.Writer

/-! # The bytes of a word

`Bytes.ofNat` and `Bytes.toNat` are inverse to each other on words of one width: a
run of bytes is the word of the number it denotes, and a number below `256 ^ width`
is what its word denotes.  The signed integers of the protocol and its float bit
patterns are words of one, two, four and eight bytes; `Bytes.ofByte`, `ofShort`,
`ofInt`, `ofLong` and `ofFloat` are the bytes that stand for them, and the writing
primitives write nothing else.
-/
namespace ProcWire
namespace Bytes

theorem toNat_lt (bytes : Bytes) : toNat bytes < Nat.pow 256 bytes.length := by
  induction bytes using List.reverseRecOn with
  | nil => exact Nat.one_pos
  | append_singleton bytes b ih =>
    have hb : b.toNat < 256 := b.toNat_lt
    rw [toNat_append_singleton, List.length_append]
    show _ < Nat.pow 256 bytes.length * 256
    omega

/-- A run of bytes is the word of the number it denotes. -/
theorem ofNat_toNat (bytes : Bytes) : ofNat bytes.length (toNat bytes) = bytes := by
  induction bytes using List.reverseRecOn with
  | nil => rfl
  | append_singleton bytes b ih =>
    have hb : b.toNat < 256 := b.toNat_lt
    have high : (toNat bytes * 256 + b.toNat) / 256 = toNat bytes := by omega
    have low : UInt8.ofNat (toNat bytes * 256 + b.toNat) = b := by
      apply UInt8.toNat_inj.mp
      simp
    rw [toNat_append_singleton, List.length_append, List.length_singleton, ofNat, high, low, ih]

theorem toNat_ofNat_of_lt {width n : Nat} (h : n < Nat.pow 256 width) :
    toNat (ofNat width n) = n := by
  rw [toNat_ofNat, Nat.mod_eq_of_lt h]

theorem ofNat_one (b : UInt8) : ofNat 1 b.toNat = [b] := by
  simp [ofNat]

/-! ## Signed integers and floats -/

/-- The byte of a signed 8-bit integer. -/
def ofByte (v : Int8) : Bytes := ofNat 1 v.toUInt8.toNat

/-- The bytes of a signed 16-bit integer. -/
def ofShort (v : Int16) : Bytes := ofNat 2 v.toUInt16.toNat

/-- The bytes of a signed 32-bit integer. -/
def ofInt (v : Int32) : Bytes := ofNat 4 v.toUInt32.toNat

/-- The bytes of a signed 64-bit integer. -/
def ofLong (v : Int64) : Bytes := ofNat 8 v.toUInt64.toNat

/-- The bytes of the bit pattern of a 64-bit float. -/
def ofFloat (bits : UInt64) : Bytes := ofNat 8 bits.toNat

@[simp] theorem length_ofByte (v : Int8) : (ofByte v).length = 1 := length_ofNat ..

@[simp] theorem length_ofShort (v : Int16) : (ofShort v).length = 2 := length_ofNat ..

@[simp] theorem length_ofInt (v : Int32) : (ofInt v).length = 4 := length_ofNat ..

@[simp] theorem length_ofLong (v : Int64) : (ofLong v).length = 8 := length_ofNat ..

@[simp] theorem length_ofFloat (bits : UInt64) : (ofFloat bits).length = 8 := length_ofNat ..

theorem ofByte_eq (v : Int8) : ofByte v = [v.toUInt8] := ofNat_one _

/-- Any run of bytes of the right width is a word. -/
theorem exists_word {α : Type} {width : Nat} (ofNumber : Nat → α) {number : α → Nat}
    (right : ∀ n, n < Nat.pow 256 width → number (ofNumber n) = n) (bytes : Bytes)
    (h : bytes.length = width) : ∃ a, bytes = ofNat width (number a) := by
  subst h
  exact ⟨ofNumber (toNat bytes), by rw [right _ (toNat_lt bytes), ofNat_toNat]⟩

theorem exists_ofByte (bytes : Bytes) (h : bytes.length = 1) : ∃ v, bytes = ofByte v :=
  exists_word (fun n => (UInt8.ofNat n).toInt8)
    (fun n hn => by rw [UInt8.toUInt8_toInt8, UInt8.toNat_ofNat']; exact Nat.mod_eq_of_lt hn) bytes h

theorem exists_ofShort (bytes : Bytes) (h : bytes.length = 2) : ∃ v, bytes = ofShort v :=
  exists_word (fun n => (UInt16.ofNat n).toInt16)
    (fun n hn => by rw [UInt16.toUInt16_toInt16, UInt16.toNat_ofNat']; exact Nat.mod_eq_of_lt hn) bytes h

theorem exists_ofInt (bytes : Bytes) (h : bytes.length = 4) : ∃ v, bytes = ofInt v :=
  exists_word (fun n => (UInt32.ofNat n).toInt32)
    (fun n hn => by rw [UInt32.toUInt32_toInt32, UInt32.toNat_ofNat']; exact Nat.mod_eq_of_lt hn) bytes h

theorem exists_ofLong (bytes : Bytes) (h : bytes.length = 8) : ∃ v, bytes = ofLong v :=
  exists_word (fun n => (UInt64.ofNat n).toInt64)
    (fun n hn => by rw [UInt64.toUInt64_toInt64, UInt64.toNat_ofNat']; exact Nat.mod_eq_of_lt hn) bytes h

theorem exists_ofFloat (bytes : Bytes) (h : bytes.length = 8) : ∃ bits, bytes = ofFloat bits :=
  exists_word UInt64.ofNat
    (fun n hn => by rw [UInt64.toNat_ofNat']; exact Nat.mod_eq_of_lt hn) bytes h

end Bytes

namespace Writer

theorem byte_eq_raw (v : Int8) : byte v = raw (Bytes.ofByte v) := rfl

theorem short_eq_raw (v : Int16) : short v = raw (Bytes.ofShort v) := rfl

theorem int_eq_raw (v : Int32) : int v = raw (Bytes.ofInt v) := rfl

theorem long_eq_raw (v : Int64) : long v = raw (Bytes.ofLong v) := rfl

end Writer
end ProcWire
