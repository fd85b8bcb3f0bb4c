import ProcWire.Numeral.Integer

/-! # Scanners

A scanner reads something off the front of a text, or fails.  It is a state monad over
`Option` whose state is the text still to be read, so a choice tries its second branch on
the text as it stood before the first.
-/
namespace ProcWire

/-- Reads something off the front of a text, or fails. -/
abbrev Scanner := StateT (List Char) Option

namespace Scanner
variable {α β : Type}

/-- One character with a property. -/
def satisfy (p : Char → Bool) : Scanner Char := fun text =>
  match text with
  | [] => none
  | c :: rest => if p c then some (c, rest) else none

/-- One given character. -/
def char (c : Char) : Scanner Unit := do
  let _ ← satisfy (· = c)

/-- One of some characters. -/
def oneOf (chars : List Char) : Scanner Char := satisfy (· ∈ chars)

/-- A given run of characters. -/
def literal (chars : List Char) : Scanner Unit := fun text =>
  if text.take chars.length = chars then some ((), text.drop chars.length) else none

/-- The longest run of characters with a property. -/
def takeWhile (p : Char → Bool) : Scanner (List Char) := fun text =>
  some (text.takeWhile p, text.dropWhile p)

/-- The longest run of characters with a property, at least one. -/
def takeWhile1 (p : Char → Bool) : Scanner (List Char) := do
  let run ← takeWhile p
  if run.isEmpty then failure else pure run

/-- Whether a character with a property comes next. -/
def next (p : Char → Bool) : Scanner Bool := fun text => some (text.head?.any p, text)

/-- The end of the text. -/
def done : Scanner Unit := fun text => if text.isEmpty then some ((), text) else none

/-- Exactly so many decimal digits, as a number. -/
def number (count : Nat) : Scanner Nat := fun text =>
  let digits := text.take count
  if digits.length = count && digits.all Numeral.isDigit then
    some (Numeral.value digits, text.drop count)
  else
    none

/-- Runs a scanner until it fails, onto the results in `before`, which are held last first; at
most once for every character of `bound`. -/
def manyOnto (scanner : Scanner α) (bound : List Char) (before : List α) : Scanner (List α) :=
  match bound with
  | [] => pure before.reverse
  | _ :: bound => fun text =>
    match scanner text with
    | some (a, rest) => manyOnto scanner bound (a :: before) rest
    | none => some (before.reverse, text)

/-- Runs a scanner until it fails.  A text bounds the number of runs on it, as long as every run
reads something. -/
def many (scanner : Scanner α) : Scanner (List α) := fun text => manyOnto scanner text [] text

/-- Items with a separator between them, at least one item. -/
def separated1 (separator : Scanner β) (item : Scanner α) : Scanner (List α) := do
  let first ← item
  let others ← many (separator *> item)
  pure (first :: others)

/-- Items with a separator between them, or none. -/
def separated (separator : Scanner β) (item : Scanner α) : Scanner (List α) :=
  separated1 separator item <|> pure []

/-- What a scanner makes of a text that it reads to the end. -/
def whole? (scanner : Scanner α) (text : List Char) : Option α :=
  match scanner text with
  | some (a, []) => some a
  | _ => none

end Scanner

end ProcWire
