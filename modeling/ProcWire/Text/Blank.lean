import ProcWire.Text.CharSet

/-! # White space

White space as Unicode counts it: twenty-five characters.
-/
namespace ProcWire

/-- The white-space characters. -/
def blankChars : CharSet := [
  (0x9, 0xd), (0x20, 0x20), (0x85, 0x85), (0xa0, 0xa0), (0x1680, 0x1680), (0x2000, 0x200a),
  (0x2028, 0x2029), (0x202f, 0x202f), (0x205f, 0x205f), (0x3000, 0x3000)]

/-- Whether a character is white space. -/
def Text.isBlank (c : Char) : Bool := blankChars.contains c

end ProcWire
