import ProcWire.Bytes
import ProcWire.Text.Quoted

/-! # Hexadecimal text

Bytes are shown as two lower-case digits each.  Reading accepts either case.  An
odd number of digits is reported before any character that is no digit.
-/
namespace ProcWire.Hex

/-- The lower-case digit of a number below sixteen. -/
def digit (n : Nat) : Char := if n < 10 then Char.ofNat (48 + n) else Char.ofNat (87 + n)

/-- The digits of bytes. -/
def encode (bytes : Bytes) : List Char :=
  bytes.flatMap fun b => [digit (b.toNat / 16), digit (b.toNat % 16)]

/-- The digits of bytes, as a string. -/
def toString (bytes : Bytes) : String := String.ofList (encode bytes)

/-- What keeps a run of ASCII bytes from being hexadecimal text. -/
inductive Fault where
  | oddLength
  | invalidCharacter (byte : UInt8) (position : Nat)
  deriving DecidableEq, Repr

/-- The wording of a fault.  A byte is shown as the character of that number. -/
def Fault.message : Fault → String
  | oddLength => "Odd number of digits"
  | invalidCharacter byte position =>
    s!"Invalid character {Quoted.char (Char.ofNat byte.toNat)} at position {position}"

/-- The number that a digit of either case stands for. -/
def digitValue? (b : UInt8) : Option UInt8 :=
  if 0x30 ≤ b ∧ b ≤ 0x39 then some (b - 0x30)
  else if 0x61 ≤ b ∧ b ≤ 0x66 then some (b - 0x57)
  else if 0x41 ≤ b ∧ b ≤ 0x46 then some (b - 0x37)
  else none

/-- Reads digits in pairs from `position` on; `before` are the bytes already read, last first. -/
def decodePairs (position : Nat) (before : Bytes) : Bytes → Except Fault Bytes
  | high :: low :: rest =>
    match digitValue? high, digitValue? low with
    | some h, some l => decodePairs (position + 2) ((h * 16 + l) :: before) rest
    | none, _ => .error (.invalidCharacter high position)
    | some _, none => .error (.invalidCharacter low (position + 1))
  | _ => .ok before.reverse

/-- The bytes that the digits of a text spell; the text is given by its own bytes. -/
def decode (text : Bytes) : Except Fault Bytes :=
  if text.length % 2 = 1 then .error .oddLength else decodePairs 0 [] text

end ProcWire.Hex
