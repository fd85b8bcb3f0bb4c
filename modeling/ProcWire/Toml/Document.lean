import ProcWire.Toml.Value

/-! # Reading TOML documents

A document is read in two steps.  Its lines are read one after another, each a header, a
key with a value, or empty.  Then the lines are applied in order to an empty table: a
header says which table the keys behind it belong to.
-/
namespace ProcWire.Toml
open Scanner

/-- A line of a document. -/
inductive Line where
  | empty
  | table (path : List Key)
  /-- A header that opens another table in an array of tables. -/
  | element (path : List Key)
  | pair (keys : List Key) (value : Node)

/-- The header of a table. -/
def tableHeader : Scanner Line := do
  char '['
  let path ← dottedKey
  char ']'
  pure (.table path)

/-- The header of another table in an array of tables. -/
def elementHeader : Scanner Line := do
  literal ['[', '[']
  let path ← dottedKey
  literal [']', ']']
  pure (.element path)

/-- A key with a value. -/
def pairLine : Scanner Line := do
  let (keys, value) ← keyValue (value (depthLimit - 1))
  pure (.pair keys value)

/-- What a line holds besides white space and a comment. -/
def lineContent : Scanner Line := elementHeader <|> tableHeader <|> pairLine <|> pure .empty

/-- A line of a document with its end. -/
def line : Scanner Line := do
  blanks
  let content ← lineContent
  lineEnd
  pure content

/-- The lines of a text.  A byte-order mark in front is skipped. -/
def lines : Scanner (List Line) := do
  char '\uFEFF' <|> pure ()
  many (do
    if ← next (fun _ => true) then line else failure)

/-- A document being built: its entries, and the path of the table that keys go to. -/
structure Builder where
  entries : Entries := []
  current : List Key := []

/-- Applies a line. -/
def Builder.apply (builder : Builder) : Line → Option Builder
  | .empty => some builder
  | .table path => do
    let key ← path.getLast?
    let entries ← Entries.openTable path.dropLast key builder.entries
    some ⟨entries, path⟩
  | .element path => do
    let key ← path.getLast?
    let entries ← Entries.openElement path.dropLast key builder.entries
    some ⟨entries, path⟩
  | .pair keys value => do
    let change (origin : Origin) (entries : Entries) : Option Entries :=
      insertPair origin entries (keys, value)
    let entries ← Entries.descend .implied change builder.current .header builder.entries
    some { builder with entries := entries }

/-- The entries of a document, if the text is one. -/
def parse? (text : List Char) : Option Entries := do
  let lines ← lines.whole? text
  let builder ← lines.foldlM Builder.apply {}
  some builder.entries

end ProcWire.Toml
