import ProcWire.WireType

/-! # Kinds of parameter values

A kind is what the elements of an array must have in common.  It is finer than
the wire type in one place only: a truth value and a single-byte integer share a
tag, yet do not mix.
-/
namespace ProcWire

/-- What sort of value a parameter is. -/
inductive Kind where
  /-- A value told apart by its wire type alone. -/
  | typed (type : WireType)
  /-- A single-byte integer, which goes out under the tag of truth values. -/
  | tinyInt
  /-- The absence of a value. -/
  | missing
  deriving DecidableEq, Repr

/-- The name of a kind. -/
def Kind.name : Kind → String
  | typed type => type.name
  | tinyInt => "tinyint"
  | missing => "null"

end ProcWire
