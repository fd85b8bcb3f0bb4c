import ProcWire.Text.Blank
import ProcWire.Text.Utf8

/-! # Logical lines of an environment file

A logical line of an environment file is one or more lines of the file: a quote that
is still open, a backslash, or white space at the very end carries it on to the next.
Reading stops at the first line that is not UTF-8, and a logical line that the file
ends in the middle of is not read at all.
-/
namespace ProcWire.EnvFile

/-- Where a logical line stands between two characters. -/
inductive Quoting where
  /-- Outside quotes; the line may end here. -/
  | outside
  /-- Behind white space outside quotes; a comment may begin here. -/
  | blank
  /-- Behind a backslash outside quotes. -/
  | escape
  /-- Between double quotes, and there behind a backslash. -/
  | weak
  | weakEscape
  /-- Between single quotes, and there behind a backslash. -/
  | strong
  | strongEscape
  deriving DecidableEq, Repr

/-- The state behind a character outside quotes that is no white space. -/
def Quoting.opened (c : Char) : Quoting :=
  if c = '\\' then escape
  else if c = '"' then weak
  else if c = '\'' then strong
  else outside

/-- The state behind a character. -/
def Quoting.next (c : Char) : Quoting → Quoting
  | outside => if Text.isBlank c ∧ c ≠ '\n' ∧ c ≠ '\r' then blank else opened c
  | blank => opened c
  | escape => outside
  | weak => if c = '\\' then weakEscape else if c = '"' then outside else weak
  | weakEscape => weak
  | strong => if c = '\\' then strongEscape else if c = '\'' then outside else strong
  | strongEscape => strong

/-- Where a line of the file leaves the logical line it belongs to. -/
inductive Ending where
  /-- A comment begins behind these characters of the line. -/
  | comment (kept : List Char)
  /-- The line ends in this state. -/
  | state (quoting : Quoting)

/-- Follows a line of the file from a state; `before` are its characters so far, last first. -/
def Ending.of (quoting : Quoting) (before : List Char) : List Char → Ending
  | [] => .state quoting
  | c :: rest =>
    if quoting = .blank ∧ c = '#' then .comment before.reverse
    else of (quoting.next c) (c :: before) rest

/-- The lines of a file, each with the newline that ends it; `before` are the bytes of the current
line so far, last first. -/
def physicalLines (before : Bytes) : Bytes → List Bytes
  | [] => if before.isEmpty then [] else [before.reverse]
  | b :: rest =>
    if b = 0x0A then (b :: before).reverse :: physicalLines [] rest
    else physicalLines (b :: before) rest

/-- A line from its characters, which are held last first, without the newline that ends it, if one
does. -/
def lineOf : List Char → List Char
  | '\n' :: '\r' :: before => before.reverse
  | '\n' :: before => before.reverse
  | before => before.reverse

/-- Whether a line begins with a comment, white space aside. -/
def isComment (line : List Char) : Bool := (line.dropWhile Text.isBlank).head? = some '#'

/-- Joins lines of the file to logical lines.  `before` are the characters of the logical line so
far, last first, and `quoting` is its state.  A logical line that begins with a comment is empty. -/
def join (before : List Char) (quoting : Quoting) : List Bytes → List (List Char)
  | [] => []
  | line :: rest =>
    match Utf8.decode line with
    | .error _ => []
    | .ok chars =>
      if before.isEmpty && isComment chars then [] :: join [] .outside rest
      else
        match Ending.of quoting [] chars with
        | .comment kept => (kept.reverseAux before).reverse :: join [] .outside rest
        | .state .outside => lineOf (chars.reverseAux before) :: join [] .outside rest
        | .state quoting => join (chars.reverseAux before) quoting rest

/-- The logical lines of a file, up to the first that cannot be read.  A byte-order mark in front
is skipped. -/
def logicalLines (content : Bytes) : List (List Char) :=
  let content := if content.take 3 = [0xEF, 0xBB, 0xBF] then content.drop 3 else content
  join [] .outside (physicalLines [] content)

end ProcWire.EnvFile
