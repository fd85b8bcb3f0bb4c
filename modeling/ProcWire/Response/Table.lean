import ProcWire.Limits
import ProcWire.Stream.Reader

/-! # Result tables

A response carries result tables.  A table has columns, each a type tag and a
name, and rows.  Rows stay opaque: each is the block of bytes between its length
prefix and the next.  A tag that names no type is kept as it is.
-/
namespace ProcWire

/-- A column of a result table: its type tag, known or not, and its name. -/
structure Column where
  tag : Int8
  name : String
  deriving DecidableEq, Repr

/-- A result table. -/
structure Table where
  statusCode : Int8
  columns : List Column
  rows : List Bytes
  deriving DecidableEq, Repr

namespace Table

/-- Pairs column types with column names; there must be as many of one as of the other. -/
def ofParts (statusCode : Int8) (types : List Int8) (names : List String) (rows : List Bytes) :
    Except WireError Table :=
  if types.length = names.length then
    .ok ⟨statusCode, List.zipWith Column.mk types names, rows⟩
  else
    .error (.protocol (.columnMismatch types.length names.length))

/-- The type tags, one for each column. -/
def columnTags (table : Table) : List Int8 := table.columns.map Column.tag

/-- The names, one for each column. -/
def columnNames (table : Table) : List String := table.columns.map Column.name

/-- The type of a column, unless there is no such column or its tag names no type. -/
def columnType? (table : Table) (index : Nat) : Option WireType :=
  table.columns[index]?.bind fun column => WireType.ofTag? column.tag

/-- The position of the first column with a name. -/
def columnIndex? (table : Table) (name : String) : Option Nat :=
  table.columns.findIdx? (·.name = name)

/-- A row by its position. -/
def row? (table : Table) (index : Nat) : Option Bytes := table.rows[index]?

theorem columnTags_of_ofParts {statusCode : Int8} {types : List Int8} {names : List String}
    {rows : List Bytes} {table : Table} (h : ofParts statusCode types names rows = .ok table) :
    table.columnTags = types ∧ table.columnNames = names ∧ table.rows = rows ∧
      table.statusCode = statusCode := by
  unfold ofParts at h
  split at h
  · rename_i hlen
    obtain rfl := Except.ok.inj h
    refine ⟨?_, ?_, rfl, rfl⟩
    · simp only [columnTags, List.map_zipWith]
      clear h
      induction types generalizing names with
      | nil => rfl
      | cons t types ih => cases names <;> simp_all
    · simp only [columnNames, List.map_zipWith]
      clear h
      induction types generalizing names with
      | nil => cases names <;> simp_all
      | cons t types ih => cases names <;> simp_all
  · contradiction

/-- The bytes of a row whose length is known.  A stream that ends before they do is a framing
error that tells how much was there. -/
def readPayload (length : Nat) : Reader Bytes := fun stream =>
  let row := stream.take length
  if row.length = length then (.ok row, stream.drop length)
  else (.error (.framing length row.length), [])

/-- Reads one row: a length, which must be neither negative nor above the limit, and so many
bytes. -/
def readRow (limits : Limits) : Reader Bytes := do
  let length ← Reader.int
  if length < 0 then
    Transfer.fail (.protocol (.negativeLength "row" length))
  else if length.toNatClampNeg > limits.fieldLength then
    Transfer.fail (.limitExceeded "row" length.toNatClampNeg limits.fieldLength)
  else
    readPayload length.toNatClampNeg

/-- Reads one table.  The total length and the metadata length in front are skipped: what
follows describes itself. -/
def read (limits : Limits) : Reader Table := do
  let _totalLength ← Reader.int
  let _metadataLength ← Reader.int
  let statusCode ← Reader.byte
  let columnCount ← Reader.short
  if columnCount < 0 then
    Transfer.fail (.protocol (.negativeColumnCount columnCount))
  else
    let types ← Transfer.times columnCount.toNatClampNeg Reader.byte
    let names ← Transfer.times columnCount.toNatClampNeg (Reader.string limits.fieldLength)
    let rowCount ← Reader.int
    if rowCount < 0 then
      Transfer.fail (.protocol (.negativeRowCount rowCount))
    else
      let rows ← Transfer.times rowCount.toNatClampNeg (readRow limits)
      Transfer.lift (ofParts statusCode types names rows)

end Table

end ProcWire
