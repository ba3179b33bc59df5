import Stencil.Json.Basic
import Stencil.Value.InlineList

/-!
# Values and JSON

A JSON value becomes a value: numbers and truth values become text, null becomes no value, and nothing
that is null stays in a list or a map. In the other direction text and snippets become strings.
-/
namespace Stencil.Value

mutual

def ofJson? : Json → Option Value
  | .null => none
  | .bool b => some (text (if b then "true" else "false"))
  | .int n => some (text (toString n))
  | .float x => some (text (Json.floatText x))
  | .string s => some (text s)
  | .array items => some (list (ofJsonItems items))
  | .object members => some (map (ofJsonMembers members))

def ofJsonItems : List Json → List Value
  | [] => []
  | j :: rest =>
    match ofJson? j with
    | some v => v :: ofJsonItems rest
    | none => ofJsonItems rest

def ofJsonMembers : List (String × Json) → List (String × Value)
  | [] => []
  | (k, j) :: rest =>
    match ofJson? j with
    | some v => (k, v) :: ofJsonMembers rest
    | none => ofJsonMembers rest

end

mutual

def toJson : Value → Json
  | text s => .string s
  | snippet s => .string s
  | list items => .array (toJsonItems items)
  | map entries => .object (toJsonMembers entries)

def toJsonItems : List Value → List Json
  | [] => []
  | v :: rest => v.toJson :: toJsonItems rest

def toJsonMembers : List (String × Value) → List (String × Json)
  | [] => []
  | (k, v) :: rest => (k, v.toJson) :: toJsonMembers rest

end

end Stencil.Value
