/-! # Wire types

Every marshalled value opens with a tag byte that names its type.  The server
fixes the numbering.  Tag 3 serves both truth values and single-byte integers,
so the two cannot be told apart on the wire.
-/
namespace ProcWire

/-- The types that have a tag. -/
inductive WireType where
  | null
  | bool
  | short
  | int
  | long
  | float
  | string
  | timestamp
  | decimal
  | varbinary
  | array
  deriving DecidableEq, Repr

namespace WireType

/-- Every wire type, in order of tag, the array type (the only negative tag) last. -/
def all : List WireType :=
  [null, bool, short, int, long, float, string, timestamp, decimal, varbinary, array]

/-- The tag byte. -/
def tag : WireType → Int8
  | null => 1
  | bool => 3
  | short => 4
  | int => 5
  | long => 6
  | float => 8
  | string => 9
  | timestamp => 11
  | decimal => 22
  | varbinary => 25
  | array => -99

/-- The type with a given tag, if there is one. -/
def ofTag? (tag : Int8) : Option WireType := all.find? (·.tag = tag)

/-- The lower-case name, under which the command line knows the type too. -/
def name : WireType → String
  | null => "null"
  | bool => "bool"
  | short => "short"
  | int => "int"
  | long => "long"
  | float => "float"
  | string => "string"
  | timestamp => "timestamp"
  | decimal => "decimal"
  | varbinary => "varbinary"
  | array => "array"

/-- The type with a given name, if there is one. -/
def ofName? (name : String) : Option WireType := all.find? (·.name = name)

/-- The name as error messages show it, with an initial capital. -/
def label (type : WireType) : String := type.name.capitalize

theorem tag_injective {a b : WireType} (h : a.tag = b.tag) : a = b := by
  revert h; cases a <;> cases b <;> decide

/-- The tag determines the type. -/
@[simp] theorem ofTag?_tag (type : WireType) : ofTag? type.tag = some type := by
  cases type <;> decide

theorem ofTag?_eq_some_iff {tag : Int8} {type : WireType} :
    ofTag? tag = some type ↔ type.tag = tag := by
  constructor
  · intro h
    simpa using List.find?_some h
  · rintro rfl
    exact ofTag?_tag type

end WireType

end ProcWire
