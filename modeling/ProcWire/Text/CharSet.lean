/-! # Sets of characters

A property of characters is given by the ranges of code points that have it.
-/
namespace ProcWire

/-- A set of characters as ranges of code points, both ends included. -/
abbrev CharSet := List (Nat × Nat)

/-- Whether a character lies in one of the ranges. -/
def CharSet.contains (set : CharSet) (c : Char) : Bool :=
  List.any set fun range => range.1 ≤ c.toNat && c.toNat ≤ range.2

end ProcWire
