import Stencil.Decimal.Layout
import Stencil.Table
import Stencil.Text.Hex

/-!
# JSON values

The data model and its compact text. Members of objects stand in the order of their keys. Whole numbers
within 64 bits are kept apart from floating-point numbers.
-/
namespace Stencil

inductive Json where
  | null
  | bool (b : Bool)
  | int (n : Int)
  | float (x : Float)
  | string (s : String)
  | array (items : List Json)
  | object (members : List (String × Json))
  deriving Inhabited

namespace Json

/-- A floating-point number always shows a point or an exponent. The exponent appears where the first
digit stands below the fifth place after the point or above the fifteenth power of ten. -/
def floatText (x : Float) : String :=
  let (digits, exponent) := Decimal.shortest .even x
  let length := Decimal.digitCount digits
  let leading := (length : Int) + exponent - 1
  Decimal.signOf x ++
    if digits = 0 then "0.0"
    else if -5 ≤ leading ∧ leading ≤ 15 then
      Decimal.plain digits exponent ++ (if 0 ≤ exponent then ".0" else "")
    else
      Decimal.positional digits (length - 1) ++ "e"
        ++ (if leading < 0 then toString leading else "+" ++ toString leading)

def escapeChar (c : Char) : List Char :=
  if c = '"' then ['\\', '"']
  else if c = '\\' then ['\\', '\\']
  else if c = '\n' then ['\\', 'n']
  else if c = '\r' then ['\\', 'r']
  else if c = '\t' then ['\\', 't']
  else if c = '\x08' then ['\\', 'b']
  else if c = '\x0c' then ['\\', 'f']
  else if c.toNat < 0x20 then
    ['\\', 'u', '0', '0', Text.hexDigit (c.toNat / 16), Text.hexDigit (c.toNat % 16)]
  else [c]

def quote (s : String) : String :=
  "\"" ++ String.ofList (s.toList.flatMap escapeChar) ++ "\""

mutual

def compact : Json → String
  | null => "null"
  | bool b => if b then "true" else "false"
  | int n => toString n
  | float x => floatText x
  | string s => quote s
  | array items => "[" ++ compactItems items ++ "]"
  | object members => "\x7b" ++ compactMembers members ++ "\x7d"

def compactItems : List Json → String
  | [] => ""
  | [j] => j.compact
  | j :: rest => j.compact ++ "," ++ compactItems rest

def compactMembers : List (String × Json) → String
  | [] => ""
  | [(k, j)] => quote k ++ ":" ++ j.compact
  | (k, j) :: rest => quote k ++ ":" ++ j.compact ++ "," ++ compactMembers rest

end

def indentation (level : Nat) : String := String.ofList (List.replicate (2 * level) ' ')

mutual

/-- The text of a value with one item or member on a line, indented by two blanks for each level. -/
def pretty (level : Nat) : Json → String
  | array (j :: rest) =>
    "[\n" ++ prettyItems (level + 1) (j :: rest) ++ "\n" ++ indentation level ++ "]"
  | object (m :: rest) =>
    "\x7b\n" ++ prettyMembers (level + 1) (m :: rest) ++ "\n" ++ indentation level ++ "\x7d"
  | j => j.compact

def prettyItems (level : Nat) : List Json → String
  | [] => ""
  | [j] => indentation level ++ j.pretty level
  | j :: rest => indentation level ++ j.pretty level ++ ",\n" ++ prettyItems level rest

def prettyMembers (level : Nat) : List (String × Json) → String
  | [] => ""
  | [(k, j)] => indentation level ++ quote k ++ ": " ++ j.pretty level
  | (k, j) :: rest =>
    indentation level ++ quote k ++ ": " ++ j.pretty level ++ ",\n" ++ prettyMembers level rest

end

end Json

end Stencil
