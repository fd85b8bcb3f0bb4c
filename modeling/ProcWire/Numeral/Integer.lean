/-! # Decimal integers

An integer is written as decimal digits, at least one, behind at most one sign;
leading zeros and any length are allowed.  The integers of a width are those whose
value fits it; the value is judged as a whole, so nothing wraps on the way.
-/
namespace ProcWire.Numeral

/-- Whether a character is a decimal digit of ASCII. -/
def isDigit (c : Char) : Bool := '0' ≤ c && c ≤ '9'

/-- The number that a run of digits denotes. -/
def value (digits : List Char) : Nat :=
  digits.foldl (fun n c => n * 10 + (c.toNat - 48)) 0

/-- The number of a text that consists of digits, at least one. -/
def digits? (text : List Char) : Option Nat :=
  if !text.isEmpty && text.all isDigit then some (value text) else none

/-- The integer that a text denotes. -/
def integer? : List Char → Option Int
  | '-' :: rest => (digits? rest).map fun n => -(n : Int)
  | '+' :: rest => (digits? rest).map Int.ofNat
  | text => (digits? text).map Int.ofNat

/-- Whether two's complement of a width holds an integer. -/
def fits (width : Nat) (z : Int) : Bool :=
  let bound : Int := (Nat.pow 2 (width - 1) : Nat)
  decide (-bound ≤ z ∧ z < bound)

/-- The integer that a text denotes, if two's complement of a width holds it. -/
def signed? (width : Nat) (text : List Char) : Option Int :=
  (integer? text).filter (fits width)

/-- The number that a text denotes, if so many bits hold it; only a plus sign may stand in
front. -/
def unsigned? (width : Nat) (text : List Char) : Option Nat :=
  let digits := match text with
    | '+' :: rest => rest
    | text => text
  (digits? digits).filter (· < Nat.pow 2 width)

@[simp] theorem value_nil : value [] = 0 := rfl

theorem value_append_singleton (digits : List Char) (c : Char) :
    value (digits ++ [c]) = value digits * 10 + (c.toNat - 48) := by
  simp [value]

theorem signed?_eq_some_iff {width : Nat} {text : List Char} {z : Int} :
    signed? width text = some z ↔
      integer? text = some z ∧ fits width z = true := by
  simp [signed?, Option.filter_eq_some_iff]

end ProcWire.Numeral
