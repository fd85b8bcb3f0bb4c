import ProcWire.Calendar.Rfc3339
import ProcWire.Numeral.Binary64
import ProcWire.Toml.Text

/-! # TOML values

Scalars, arrays and inline tables.  Arrays and inline tables nest up to a limit; the
levels still allowed are the recursion's own measure.
-/
namespace ProcWire.Toml
open Scanner

/-- Digits with single underscores between them; the underscores are dropped. -/
def digitRun (isDigit : Char → Bool) : Scanner (List Char) := do
  let first ← satisfy isDigit
  let others ← many (satisfy isDigit <|> (do char '_'; satisfy isDigit))
  pure (first :: others)

/-- An optional sign, as it is written. -/
def sign : Scanner (List Char) := (do let c ← oneOf ['+', '-']; pure [c]) <|> pure []

/-- A decimal integer as it is written, less its underscores.  Zero stands alone. -/
def decimal : Scanner (List Char) := do
  let sign ← sign
  if ← next (· = '0') then
    char '0'
    pure (sign ++ ['0'])
  else
    let digits ← digitRun Numeral.isDigit
    pure (sign ++ digits)

/-- An integer of 64 bits behind the mark of its base. -/
def basedInteger (mark : Char) (base : Nat) (isDigit : Char → Bool) : Scanner Node := do
  literal ['0', mark]
  let digits ← digitRun isDigit
  let n := baseValue base digits
  if n ≤ 0x7FFFFFFFFFFFFFFF then pure (.integer n) else failure

/-- A decimal integer of 64 bits. -/
def decimalInteger : Scanner Node := do
  let text ← decimal
  match Numeral.signed? 64 text with
  | some n => pure (.integer n)
  | none => failure

/-- An integer in base sixteen, eight, two or ten. -/
def integer : Scanner Node :=
  basedInteger 'x' 16 isHexDigit <|>
    basedInteger 'o' 8 (fun c => '0' ≤ c && c ≤ '7') <|>
    basedInteger 'b' 2 (fun c => c = '0' || c = '1') <|>
    decimalInteger

/-- The fraction of a float as it is written, less its underscores. -/
def fraction : Scanner (List Char) := do
  char '.'
  let digits ← digitRun Numeral.isDigit
  pure ('.' :: digits)

/-- The exponent of a float as it is written, less its underscores. -/
def exponent : Scanner (List Char) := do
  let _ ← oneOf ['e', 'E']
  let sign ← sign
  let digits ← digitRun Numeral.isDigit
  pure ('e' :: (sign ++ digits))

/-- A float with a fraction, an exponent or both.  One that is too large is refused; one too far
below zero is negative infinity. -/
def decimalFloat : Scanner Node := do
  let whole ← decimal
  let tail ← exponent <|> (do
    let fraction ← fraction
    let exponent ← exponent <|> pure []
    pure (fraction ++ exponent))
  match Binary64.ofText? (whole ++ tail) with
  | some bits => if bits.toNat = Binary64.infinity then failure else pure (.float bits)
  | none => failure

/-- One of the words for infinity and not-a-number, behind an optional sign. -/
def specialFloat : Scanner Node := do
  let sign ← sign
  let word ← (do literal ['i', 'n', 'f']; pure ['i', 'n', 'f']) <|>
    (do literal ['n', 'a', 'n']; pure ['n', 'a', 'n'])
  match Binary64.ofText? (sign ++ word) with
  | some bits => pure (.float bits)
  | none => failure

/-- A float. -/
def float : Scanner Node := decimalFloat <|> specialFloat

/-- The offset behind a date and time. -/
def offset : Scanner Unit := do
  let mark ← oneOf ['Z', 'z', '+', '-']
  if mark = 'Z' ∨ mark = 'z' then pure () else
    let _ ← Rfc3339.offsetSize

/-- A time of day behind a date, with an optional offset. -/
def timeBehindDate : Scanner Unit := do
  let _ ← oneOf ['T', 't', ' ']
  let _ ← Rfc3339.time
  offset <|> pure ()

/-- A date, a time, or both with or without an offset. -/
def dateTime : Scanner Node :=
  (do
    let _ ← Rfc3339.date
    timeBehindDate <|> pure ()
    pure .dateTime) <|>
  (do
    let _ ← Rfc3339.time
    pure .dateTime)

/-- A truth value. -/
def boolean : Scanner Node :=
  (do literal "true".toList; pure (.boolean true)) <|>
    (do literal "false".toList; pure (.boolean false))

/-- Values between brackets.  Lines may end and comments stand anywhere between the tokens, and a
comma behind the last value does no harm. -/
def array (value : Scanner Node) : Scanner Node := do
  char '['
  let items ← separated (char ',') (do blankLines; let item ← value; blankLines; pure item)
  if items.isEmpty then pure () else char ',' <|> pure ()
  blankLines
  char ']'
  pure (.array items)

/-- A key with its value. -/
def keyValue (value : Scanner Node) : Scanner (List Key × Node) := do
  let keys ← dottedKey
  char '='
  blanks
  let value ← value
  pure (keys, value)

/-- Adds a key with its value to the entries of a table. -/
def insertPair (origin : Origin) (entries : Entries) (pair : List Key × Node) : Option Entries := do
  let key ← pair.1.getLast?
  Entries.insert pair.1.dropLast key pair.2 origin entries

/-- Keys with values between braces, all on one line. -/
def inlineTable (value : Scanner Node) : Scanner Node := do
  char '\x7b'
  let pairs ← separated (char ',') (do let pair ← keyValue value; blanks; pure pair)
  blanks
  char '\x7d'
  match pairs.foldlM (insertPair .inline) [] with
  | some entries => pure (.table .inline entries)
  | none => failure

/-- A value without parts. -/
def scalar : Scanner Node :=
  (do let text ← string; pure (.string text)) <|> dateTime <|> float <|> integer <|> boolean

/-- A value with at most so many levels of arrays and inline tables. -/
def value : Nat → Scanner Node
  | 0 => scalar
  | levels + 1 => array (value levels) <|> inlineTable (value levels) <|> scalar

end ProcWire.Toml
