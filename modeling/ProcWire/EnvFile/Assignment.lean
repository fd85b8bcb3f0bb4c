import ProcWire.Numeral.Integer
import ProcWire.Text.Alphanumeric
import ProcWire.Text.Blank

/-! # Assignments in an environment file

A line of an environment file gives a name a value, or is empty.  The value may be quoted.
Outside single quotes a dollar sign stands for the value of another name, and a backslash
for the character behind it.  Everything else is malformed.
-/
namespace ProcWire.EnvFile

/-- What the next character of a value means. -/
inductive Phase where
  /-- Itself, unless it opens or closes something. -/
  | text
  /-- The character that a backslash escapes. -/
  | escape
  /-- Itself, up to the closing single quote. -/
  | strong
  /-- Nothing: the value is over, and only blanks and a comment may follow. -/
  | over
  /-- Part of the name behind a dollar sign; the name so far, last character first. -/
  | name (soFar : List Char)
  /-- Part of a name between braces. -/
  | braced (soFar : List Char)

/-- Reads a value.  `valueOf` gives the values of other names, `weak` says whether a double quote is
open, and `output` holds the value so far, last character first. -/
def readValue (valueOf : List Char → List Char) (phase : Phase) (weak : Bool)
    (output : List Char) : List Char → Option (List Char)
  | [] =>
    match phase with
    | .strong | .braced _ => none
    | .name soFar => if weak then none else some ((valueOf soFar.reverse).reverseAux output).reverse
    | .text | .escape | .over => if weak then none else some output.reverse
  | c :: rest =>
    match phase with
    | .over =>
      if c = ' ' ∨ c = '\t' then readValue valueOf .over weak output rest
      else if c = '#' then some output.reverse
      else none
    | .escape =>
      if c = '\\' ∨ c = '\'' ∨ c = '"' ∨ c = '$' ∨ c = ' ' then
        readValue valueOf .text weak (c :: output) rest
      else if c = 'n' then readValue valueOf .text weak ('\n' :: output) rest
      else none
    | .strong =>
      if c = '\'' then readValue valueOf .text weak output rest
      else readValue valueOf .strong weak (c :: output) rest
    | .name soFar =>
      if Text.isAlphanumeric c then readValue valueOf (.name (c :: soFar)) weak output rest
      else if c = '\x7b' ∧ soFar = [] then readValue valueOf (.braced []) weak output rest
      else
        let output := (valueOf soFar.reverse).reverseAux output
        if c = '$' then readValue valueOf (.name []) weak output rest
        else readValue valueOf .text weak (c :: output) rest
    | .braced soFar =>
      if c = '\x7d' then
        readValue valueOf .text weak ((valueOf soFar.reverse).reverseAux output) rest
      else readValue valueOf (.braced (c :: soFar)) weak output rest
    | .text =>
      if c = '$' then readValue valueOf (.name []) weak output rest
      else if c = '"' then readValue valueOf .text (!weak) output rest
      else if c = '\\' then readValue valueOf .escape weak output rest
      else if weak then readValue valueOf .text weak (c :: output) rest
      else if c = '\'' then readValue valueOf .strong weak output rest
      else if c = ' ' ∨ c = '\t' then readValue valueOf .over weak output rest
      else readValue valueOf .text weak (c :: output) rest

/-- The value that a text denotes. -/
def value? (valueOf : List Char → List Char) (text : List Char) : Option (List Char) :=
  readValue valueOf .text false [] text

/-- Whether a name may begin with a character. -/
def isNameStart (c : Char) : Bool := c.isAlpha || c = '_'

/-- Whether a name may go on with a character. -/
def isNameChar (c : Char) : Bool := c.isAlphanum || c = '_' || c = '.'

/-- A name, and what follows it behind white space. -/
def name? (text : List Char) : Option (List Char × List Char) :=
  match text.head? with
  | none => none
  | some c =>
    if isNameStart c then
      some (text.takeWhile isNameChar, (text.dropWhile isNameChar).dropWhile Text.isBlank)
    else none

/-- What follows an equals sign behind white space. -/
def behindEquals? : List Char → Option (List Char)
  | '=' :: rest => some (rest.dropWhile Text.isBlank)
  | _ => none

/-- The name of an assignment, and the text of its value.  The word `export` may stand in front of
the name; where an equals sign follows it, it is the name. -/
def nameAndValue? (text : List Char) : Option (List Char × List Char) := do
  let (name, rest) ← name? text
  match behindEquals? rest with
  | some value => some (name, value)
  | none =>
    if name = "export".toList then do
      let (name, rest) ← name? rest
      let value ← behindEquals? rest
      some (name, value)
    else none

/-- What a line says. -/
inductive Statement where
  | nothing
  | assign (name value : List Char)
  deriving DecidableEq, Repr

/-- What a logical line says, unless it is malformed. -/
def statement? (valueOf : List Char → List Char) (line : List Char) : Option Statement := do
  let text := (line.reverse.dropWhile Text.isBlank).reverse.dropWhile Text.isBlank
  if text.head?.all (· = '#') then some .nothing
  else
    let (name, value) ← nameAndValue? text
    if value.head?.all (· = '#') then some (.assign name [])
    else
      let value ← value? valueOf value
      some (.assign name value)

end ProcWire.EnvFile
