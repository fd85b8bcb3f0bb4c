import ProcWire.Text.Hex

/-! # JSON

A small part of JSON, enough for decoded responses: null, integers, strings,
arrays and objects whose members keep their order.  There is one printer.  It
takes a `Layout`, which says what white space goes where; the compact layout has
none, the pretty one starts a line for every element and member.
-/
namespace ProcWire

/-- A JSON text without fractions and truth values. -/
inductive Json where
  | null
  | number (n : Int)
  | string (text : String)
  | array (items : List Json)
  | object (members : List (String × Json))

namespace Json

/-- The white space of a printed text. -/
structure Layout where
  /-- What stands before an element, or before the bracket that closes the last one, at a depth
  of nesting. -/
  gap : Nat → List Char
  /-- What stands between the colon of a member and its value. -/
  afterColon : List Char

/-- No white space. -/
def Layout.compact : Layout := ⟨fun _ => [], []⟩

/-- A line for every element, indented by two blanks for each level. -/
def Layout.pretty : Layout := ⟨fun depth => '\n' :: List.replicate (2 * depth) ' ', [' ']⟩

/-- The digits of an integer, with a minus sign if it is negative. -/
def integer (n : Int) : List Char :=
  if n < 0 then '-' :: Nat.toDigits 10 n.natAbs else Nat.toDigits 10 n.natAbs

/-- The four hexadecimal digits of a control character. -/
def unicodeEscape (c : Char) : List Char :=
  ['\\', 'u', '0', '0', Hex.digit (c.toNat / 16), Hex.digit (c.toNat % 16)]

/-- A character as it stands inside a string literal. -/
def escape (c : Char) : List Char :=
  if c = '"' then ['\\', '"']
  else if c = '\\' then ['\\', '\\']
  else if c = '\x08' then ['\\', 'b']
  else if c = '\x0c' then ['\\', 'f']
  else if c = '\n' then ['\\', 'n']
  else if c = '\r' then ['\\', 'r']
  else if c = '\t' then ['\\', 't']
  else if c.toNat < 0x20 then unicodeEscape c
  else [c]

/-- A string literal. -/
def quote (text : String) : List Char := '"' :: (text.toList.flatMap escape ++ ['"'])

/-- Pieces between brackets, with commas between them. -/
def enclose (layout : Layout) (depth : Nat) (left right : Char) (pieces : List (List Char)) :
    List Char :=
  if pieces.isEmpty then [left, right]
  else
    left :: (layout.gap (depth + 1) ++
      (List.intercalate (',' :: layout.gap (depth + 1)) pieces ++ (layout.gap depth ++ [right])))

mutual

/-- The text of a value at a depth of nesting. -/
def render (layout : Layout) (depth : Nat) : Json → List Char
  | null => ['n', 'u', 'l', 'l']
  | number n => integer n
  | string text => quote text
  | array items => enclose layout depth '[' ']' (renderItems layout (depth + 1) items [])
  | object members => enclose layout depth '\x7b' '\x7d' (renderMembers layout (depth + 1) members [])

/-- The texts of values, behind those in `before`, which are held last first. -/
def renderItems (layout : Layout) (depth : Nat) : List Json → List (List Char) → List (List Char)
  | [], before => before.reverse
  | item :: rest, before => renderItems layout depth rest (render layout depth item :: before)

/-- The texts of members, behind those in `before`, which are held last first. -/
def renderMembers (layout : Layout) (depth : Nat) :
    List (String × Json) → List (List Char) → List (List Char)
  | [], before => before.reverse
  | (name, value) :: rest, before =>
    renderMembers layout depth rest
      ((quote name ++ ':' :: (layout.afterColon ++ render layout depth value)) :: before)

end

/-- The text without white space. -/
def compact (json : Json) : String := String.ofList (render .compact 0 json)

/-- The text with one element to a line. -/
def pretty (json : Json) : String := String.ofList (render .pretty 0 json)

end Json

end ProcWire
