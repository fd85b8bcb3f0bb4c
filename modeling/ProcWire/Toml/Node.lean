/-! # TOML documents

A document is a tree of tables, arrays and scalars.  What may still be added to a
table depends on where it came from, so a table remembers its `Origin`.  A header
may fill in a table that only the headers of its children have implied so far; a dotted
key may extend what other dotted keys or headers of children have begun; an inline table
is complete as it stands.  Everything else defines a key twice, and is refused.
-/
namespace ProcWire.Toml

/-- A key, unquoted. -/
abbrev Key := List Char

/-- How a table came into a document. -/
inductive Origin where
  /-- Written between braces. -/
  | inline
  /-- Opened by a header of its own, or the document itself. -/
  | header
  /-- Passed through on the way to a header further down. -/
  | implied
  /-- Passed through on the way to a dotted key. -/
  | dotted
  deriving DecidableEq, Repr

/-- Whether a table was never written for its own sake. -/
def Origin.isImplicit : Origin → Bool
  | implied | dotted => true
  | inline | header => false

/-- A part of a document.  Times and dates are told apart from other values and no more. -/
inductive Node where
  | string (text : List Char)
  | integer (n : Int)
  | float (bits : UInt64)
  | boolean (b : Bool)
  | dateTime
  | array (items : List Node)
  | table (origin : Origin) (entries : List (Key × Node))
  /-- The tables of an array of tables, each opened by a header. -/
  | tables (items : List (List (Key × Node)))

/-- The entries of a table, in the order in which their keys were first met. -/
abbrev Entries := List (Key × Node)

namespace Entries

/-- Changes the entry of a key, or makes one.  The change may be refused. -/
def upsert (key : Key) (change : Option Node → Option Node) : Entries → Option Entries
  | [] => (change none).map fun node => [(key, node)]
  | (k, node) :: rest =>
    if k = key then (change (some node)).map fun node => (k, node) :: rest
    else (upsert key change rest).map ((k, node) :: ·)

/-- Changes the last of the tables in an array of tables. -/
def changeLast (change : Entries → Option Entries) : List Entries → Option (List Entries)
  | [] => none
  | [entries] => (change entries).map ([·])
  | entries :: rest => (changeLast change rest).map (entries :: ·)

/-- Changes the table at the end of a path, making tables on the way where there are none.
`fresh` is the origin of those. -/
def descend (fresh : Origin) (change : Origin → Entries → Option Entries) :
    List Key → Origin → Entries → Option Entries
  | [], origin, entries => change origin entries
  | key :: path, _, entries =>
    upsert key (fun
      | none => (descend fresh change path fresh []).map (.table fresh)
      | some (.table origin inner) =>
        if origin = .inline || (fresh = .dotted && !origin.isImplicit) then none
        else (descend fresh change path origin inner).map (.table origin)
      | some (.tables items) => (changeLast (descend fresh change path .header) items).map .tables
      | some _ => none) entries

/-- Adds a key with a value to the table at the end of a path of dotted keys.  That table must be
a dotted one exactly if there is a path, and must not have the key yet. -/
def insert (path : List Key) (key : Key) (value : Node) : Origin → Entries → Option Entries :=
  descend .dotted (fun origin entries =>
    if decide (origin = .dotted) == path.isEmpty then none
    else upsert key (fun present => if present.isSome then none else some value) entries) path

/-- Opens the table of a header. -/
def openTable (path : List Key) (key : Key) : Entries → Option Entries :=
  descend .implied (fun _ => upsert key fun
    | none => some (.table .header [])
    | some (.table .implied entries) => some (.table .header entries)
    | some _ => none) path .header

/-- Opens another table in the array of tables of a header. -/
def openElement (path : List Key) (key : Key) : Entries → Option Entries :=
  descend .implied (fun _ => upsert key fun
    | none => some (.tables [[]])
    | some (.tables items) => some (.tables (items ++ [[]]))
    | some _ => none) path .header

/-- The value of a key. -/
def get? (entries : Entries) (key : Key) : Option Node :=
  (entries.find? (·.1 = key)).map Prod.snd

end Entries

end ProcWire.Toml
