import ProcWire.Text.GraphemeExtend
import ProcWire.Text.Printable

/-! # Quoted text

Error messages and displays quote the text they talk about, so that nothing in it
can be mistaken for the message.  Five characters have an escape of their own; so has
the quotation mark in use; whatever has no visible form of its own is shown by its
number.
-/
namespace ProcWire.Quoted

/-- The hexadecimal digits of a number, at least one. -/
def hexDigits (n : Nat) : List Char := Nat.toDigits 16 n

/-- A character shown by its number. -/
def byNumber (c : Char) : List Char := ['\\', 'u', '\x7b'] ++ hexDigits c.toNat ++ ['\x7d']

/-- Whether a character can be seen alone: it has a visible form, and does not need the character
before it to have one. -/
def isVisible (c : Char) : Bool :=
  Text.isPrintable c && (!Text.isGraphemeExtend c || Text.isHalfwidthSoundMark c)

/-- A character as it stands between quotation marks of a kind. -/
def escape (mark c : Char) : List Char :=
  if c = '\x00' then ['\\', '0']
  else if c = '\t' then ['\\', 't']
  else if c = '\r' then ['\\', 'r']
  else if c = '\n' then ['\\', 'n']
  else if c = '\\' then ['\\', '\\']
  else if c = mark then ['\\', mark]
  else if 0x20 ≤ c.toNat ∧ c.toNat < 0x7F then [c]
  else if isVisible c then [c]
  else byNumber c

/-- A text between double quotation marks. -/
def string (text : List Char) : String :=
  String.ofList ('"' :: (text.flatMap (escape '"') ++ ['"']))

/-- A character between single quotation marks. -/
def char (c : Char) : String := String.ofList ('\'' :: (escape '\'' c ++ ['\'']))

end ProcWire.Quoted
