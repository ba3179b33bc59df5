import Stencil.Decimal.Numeral
import Stencil.Engine.Resolver
import Stencil.Text.Search
import Stencil.Value.Json

/-!
# Stores

A resolver over a tree of values and a table of templates, both held in memory. In a path, the entries of a
map are found by their keys and the items of a list by their indices.
-/
namespace Stencil

structure Store where
  data : Table Value
  templates : Table String

namespace Store

def empty : Store := ⟨[], []⟩

/-- The store of a JSON object; other JSON has no data. -/
def ofJson (json : Json) : Store :=
  match Value.ofJson? json with
  | some (.map entries) => ⟨entries, []⟩
  | _ => empty

def descend? : List String → Value → Option Value
  | [], v => some v
  | key :: rest, .map entries => (Table.get? key entries).bind (descend? rest)
  | key :: rest, .list items =>
    (Decimal.unsigned? 64 key.toList).bind fun i => (items[i]?).bind (descend? rest)
  | _, _ => none

/-- The value at a path; there is none at the empty path. -/
def resolve? (s : Store) : List String → Option Value
  | [] => none
  | key :: rest => (Table.get? key s.data).bind (descend? rest)

def template? (s : Store) (name : String) : Option Value :=
  (Table.get? name s.templates).map .snippet

/-- Puts a value at a path below some entries. Maps on the way are kept; other values give way to maps. -/
def put (value : Value) : List String → Table Value → Table Value
  | [], entries => entries
  | [key], entries => Table.insert key value entries
  | key :: rest, entries =>
    let inner := match Table.get? key entries with
      | some (.map inner) => inner
      | _ => []
    Table.insert key (.map (put value rest inner)) entries

def keyPath (key : String) : List String :=
  (Text.splitAll ['.'] key.toList).map String.ofList

/-- Sets the value of a key; dots lead into maps. -/
def set (s : Store) (key : String) (value : Value) : Store :=
  { s with data := put value (keyPath key) s.data }

def setTemplate (s : Store) (name body : String) : Store :=
  { s with templates := Table.insert name body s.templates }

def resolver (s : Store) : Resolver where
  resolve path _ := s.resolve? path
  template name _ := s.template? name

end Store

end Stencil
