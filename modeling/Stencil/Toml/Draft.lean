import Stencil.Toml.Basic

/-!
# Drafts of TOML documents

A document is drafted line by line. A draft remembers how its tables have come about, because that decides
which lines may still add to them: no key is given twice, no table is opened twice, and dotted keys add only
to tables that dotted keys have made.
-/
namespace Stencil.Toml

inductive Origin where
  /-- By the header of a table within it. -/
  | implied
  /-- By a dotted key. -/
  | dotted
  /-- By a header of its own, or as the whole document. -/
  | opened
  deriving DecidableEq, Repr

inductive Node where
  | value (v : Toml)
  | table (origin : Origin) (entries : List (String × Node))
  /-- An array of tables: those that are finished, last one first, and the one that may grow. -/
  | tables (finished : List Toml) (last : List (String × Node))

namespace Node

mutual

def finish : Node → Toml
  | value v => v
  | table _ entries => .table (finishEntries entries)
  | tables finished last => .array ((.table (finishEntries last) :: finished).reverse)

def finishEntries : List (String × Node) → List (String × Toml)
  | [] => []
  | (key, node) :: rest => (key, node.finish) :: finishEntries rest

end

/-- Changes the table at the end of a path below a table. Tables that are missing are put in. A dotted path
does not lead through tables that have been opened; an array of tables stands for its last table. -/
def change? (isDotted : Bool) (f : Origin → Table Node → Option (Table Node)) :
    List String → Origin → Table Node → Option (Table Node)
  | [], origin, entries => f origin entries
  | key :: path, _, entries =>
    match Table.get? key entries with
    | none =>
      let origin := if isDotted then .dotted else .implied
      (change? isDotted f path origin []).map fun inner =>
        Table.insert key (table origin inner) entries
    | some (table origin inner) =>
      if isDotted ∧ origin = .opened then none
      else (change? isDotted f path origin inner).map fun inner =>
        Table.insert key (table origin inner) entries
    | some (tables finished last) =>
      (change? isDotted f path .opened last).map fun last =>
        Table.insert key (tables finished last) entries
    | some (value _) => none

/-- Gives a key its value. The table that a dotted key leads to was made by dotted keys. -/
def assign? (key : List String) (v : Toml) (origin : Origin) (entries : Table Node) :
    Option (Table Node) := do
  let name ← key.getLast?
  let path := key.dropLast
  let put (origin : Origin) (entries : Table Node) : Option (Table Node) :=
    if (origin = .dotted ↔ path = []) ∨ (Table.get? name entries).isSome then none
    else some (Table.insert name (value v) entries)
  change? true put path origin entries

def ofPairs? (pairs : List (List String × Toml)) : Option Toml := do
  let entries ← pairs.foldlM (fun entries (key, v) => assign? key v .opened entries) []
  return .table (finishEntries entries)

end Node

structure Draft where
  root : Table Node
  /-- Path of the table to which keys are added. -/
  header : List String

namespace Draft

def empty : Draft := ⟨[], []⟩

def assign? (d : Draft) (key : List String) (v : Toml) : Option Draft :=
  (Node.change? false (Node.assign? key v) d.header .opened d.root).map fun root =>
    { d with root := root }

/-- Puts a node in the place of another, or of none, at the end of a path, which becomes the header. -/
def openWith? (d : Draft) (path : List String) (f : Option Node → Option Node) : Option Draft := do
  let name ← path.getLast?
  let put (_ : Origin) (entries : Table Node) : Option (Table Node) :=
    (f (Table.get? name entries)).map fun node => Table.insert name node entries
  let root ← Node.change? false put path.dropLast .opened d.root
  return ⟨root, path⟩

def openTable? (d : Draft) (path : List String) : Option Draft :=
  d.openWith? path fun
    | none => some (.table .opened [])
    | some (.table .implied entries) => some (.table .opened entries)
    | some _ => none

def openItem? (d : Draft) (path : List String) : Option Draft :=
  d.openWith? path fun
    | none => some (.tables [] [])
    | some (.tables finished last) => some (.tables (.table (Node.finishEntries last) :: finished) [])
    | some _ => none

def finish (d : Draft) : Table Toml := Node.finishEntries d.root

end Draft

end Stencil.Toml
