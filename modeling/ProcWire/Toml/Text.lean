import ProcWire.Text.Scanner
import ProcWire.Toml.Node

/-! # TOML text

White space, comments, strings and keys.  A string stands between double quotes, with
escapes, or between single quotes, without; three quotes of either sort let it run over
several lines.
-/
namespace ProcWire.Toml
open Scanner

/-- Blanks and tabs. -/
def isBlank (c : Char) : Bool := c = ' ' || c = '\t'

/-- What may stand in a line: tabs and everything that is no ASCII control character. -/
def isInline (c : Char) : Bool := c = '\t' || (0x20 ≤ c.toNat && c.toNat ≠ 0x7F)

/-- Blanks and tabs, or nothing. -/
def blanks : Scanner Unit := do
  let _ ← takeWhile isBlank

/-- The end of a line. -/
def newline : Scanner Unit := char '\n' <|> literal ['\r', '\n']

/-- A comment, up to the end of its line. -/
def comment : Scanner Unit := do
  char '#'
  let _ ← takeWhile isInline

/-- What may follow the last token of a line. -/
def lineEnd : Scanner Unit := do
  blanks
  comment <|> pure ()
  newline <|> done

/-- White space, comments and ends of lines. -/
def blankLines : Scanner Unit := do
  let _ ← many ((do let _ ← takeWhile1 isBlank) <|> newline <|> comment)

/-- The value of a hexadecimal digit of either case. -/
def hexValue (c : Char) : Nat :=
  if c.toNat ≤ 0x39 then c.toNat - 0x30
  else if c.toNat ≤ 0x46 then c.toNat - 0x37
  else c.toNat - 0x57

/-- Whether a character is a hexadecimal digit of either case. -/
def isHexDigit (c : Char) : Bool :=
  Numeral.isDigit c || ('a' ≤ c && c ≤ 'f') || ('A' ≤ c && c ≤ 'F')

/-- The number that digits denote in a base. -/
def baseValue (base : Nat) (digits : List Char) : Nat :=
  digits.foldl (fun n c => n * base + hexValue c) 0

/-- A character by so many hexadecimal digits; they must denote a scalar value. -/
def scalarValue (count : Nat) : Scanner Char := fun text =>
  let digits := text.take count
  let code := baseValue 16 digits
  if digits.length = count && digits.all isHexDigit && code.isValidChar then
    some (Char.ofNat code, text.drop count)
  else
    none

/-- The character that an escape stands for. -/
def escaped : Scanner Char := do
  char '\\'
  match ← satisfy fun _ => true with
  | 'b' => pure '\x08'
  | 't' => pure '\t'
  | 'n' => pure '\n'
  | 'f' => pure '\x0c'
  | 'r' => pure '\r'
  | '"' => pure '"'
  | '\\' => pure '\\'
  | 'u' => scalarValue 4
  | 'U' => scalarValue 8
  | _ => failure

/-- A character of a string between double quotes. -/
def basicChar : Scanner Char :=
  satisfy (fun c => isInline c && c ≠ '"' && c ≠ '\\') <|> escaped

/-- A string between double quotes. -/
def basicString : Scanner (List Char) := do
  char '"'
  let text ← many basicChar
  char '"'
  pure text

/-- A string between single quotes. -/
def literalString : Scanner (List Char) := do
  char '\''
  let text ← takeWhile fun c => isInline c && c ≠ '\''
  char '\''
  pure text

/-- The end of a line within a string. -/
def lineBreak : Scanner (List Char) := do
  newline
  pure ['\n']

/-- A backslash at the end of a line, which joins the line to the next character that is no
white space. -/
def lineJoin : Scanner (List Char) := do
  char '\\'
  blanks
  newline
  let _ ← many ((do let _ ← takeWhile1 isBlank) <|> newline)
  pure []

/-- One or two quotes that do not end a string of several lines. -/
def innerQuotes (mark : Char) : Scanner (List Char) := do
  let run ← takeWhile (· = mark)
  if run.isEmpty || run.length > 2 then failure else pure run

/-- The quotes at the end of a string of several lines.  Up to two more than the three that end
it belong to the string. -/
def closingQuotes (mark : Char) : Scanner (List Char) := do
  literal [mark, mark, mark]
  let first ← (do char mark; pure [mark]) <|> pure []
  let second ← (do char mark; pure [mark]) <|> pure []
  pure (first ++ second)

/-- A string of several lines, its pieces read by a scanner of its own. -/
def multilineString (mark : Char) (piece : Scanner (List Char)) : Scanner (List Char) := do
  literal [mark, mark, mark]
  newline <|> pure ()
  let pieces ← many (piece <|> innerQuotes mark)
  let extra ← closingQuotes mark
  pure (pieces.flatten ++ extra)

/-- A string of several lines between double quotes. -/
def basicMultiline : Scanner (List Char) :=
  multilineString '"' <|
    lineJoin <|> (do let c ← basicChar; pure [c]) <|> lineBreak

/-- A string of several lines between single quotes. -/
def literalMultiline : Scanner (List Char) :=
  multilineString '\'' <| takeWhile1 (fun c => isInline c && c ≠ '\'') <|> lineBreak

/-- A string of any sort. -/
def string : Scanner (List Char) :=
  basicMultiline <|> literalMultiline <|> basicString <|> literalString

/-- What a key without quotes consists of. -/
def isBareKeyChar (c : Char) : Bool := c.isAlphanum || c = '_' || c = '-'

/-- A key without dots. -/
def simpleKey : Scanner Key := basicString <|> literalString <|> takeWhile1 isBareKeyChar

/-- The depth at which keys, arrays and inline tables become too deep. -/
def depthLimit : Nat := 80

/-- A key with dots, white space around them. -/
def dottedKey : Scanner (List Key) := do
  let keys ← separated1 (char '.') (do blanks; let key ← simpleKey; blanks; pure key)
  if keys.length < depthLimit then pure keys else failure

end ProcWire.Toml
