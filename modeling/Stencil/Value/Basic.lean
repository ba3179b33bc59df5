import Stencil.Table

/-!
# Values

What tags stand for and filters work on: text, lists, maps from keys to values, and snippets, which are
templates still to be rendered. Numbers and truth values are carried as text. An absent value is `none`
wherever one may be absent.
-/
namespace Stencil

inductive Value where
  | text (s : String)
  | list (items : List Value)
  | map (entries : List (String × Value))
  | snippet (template : String)
  deriving Repr, Inhabited

namespace Value

mutual

/-- The text of a value. Lists stand in brackets and maps in braces; nothing is quoted. -/
def display : Value → String
  | text s => s
  | snippet s => s
  | list items => "[" ++ displayItems items ++ "]"
  | map entries => "\x7b" ++ displayEntries entries ++ "\x7d"

def displayItems : List Value → String
  | [] => ""
  | [v] => v.display
  | v :: rest => v.display ++ "," ++ displayItems rest

def displayEntries : List (String × Value) → String
  | [] => ""
  | [(k, v)] => k ++ ":" ++ v.display
  | (k, v) :: rest => k ++ ":" ++ v.display ++ "," ++ displayEntries rest

end

def displayOr : Option Value → String
  | some v => v.display
  | none => ""

def asText? : Value → Option String
  | text s => some s
  | snippet s => some s
  | _ => none

def isEmpty : Value → Bool
  | text s => s.isEmpty
  | snippet s => s.isEmpty
  | list items => items.isEmpty
  | map entries => entries.isEmpty

def kind : Value → String
  | text _ => "STRING"
  | list _ => "LIST"
  | map _ => "OBJECT"
  | snippet _ => "CHUNK"

def kindOr : Option Value → String
  | some v => v.kind
  | none => "NULL"

end Value

end Stencil
