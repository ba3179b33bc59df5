import Stencil.Decimal.Numeral
import Stencil.Text.Hex

/-!
# TOML numbers

Single underscores may stand between digits. Decimal numbers begin with no zero that could be left out.
Integers are those of 64 bits in two's complement.
-/
namespace Stencil.Toml

/-- Reads digits with underscores between them; the digits alone, and the rest. -/
def readDigits? (isDigit : Char → Bool) : List Char → Option (List Char × List Char)
  | [] => none
  | c :: rest =>
    if isDigit c then
      match rest with
      | '_' :: more => (readDigits? isDigit more).map fun (digits, after) => (c :: digits, after)
      | d :: more =>
        if isDigit d then
          (readDigits? isDigit (d :: more)).map fun (digits, after) => (c :: digits, after)
        else some ([c], d :: more)
      | [] => some ([c], [])
    else none

def readSign : List Char → Bool × List Char
  | '-' :: rest => (true, rest)
  | '+' :: rest => (false, rest)
  | s => (false, s)

def readWhole? : List Char → Option (List Char × List Char)
  | '0' :: rest => some (['0'], rest)
  | s => readDigits? Char.isDigit s

def readBase? (base : Nat) (s : List Char) : Option (Int × List Char) := do
  let (digits, rest) ← readDigits? (fun c => (Text.hexValue? c).any (· < base)) s
  let n := digits.foldl (fun n c => base * n + (Text.hexValue? c).getD 0) 0
  if n < Nat.pow 2 63 then some (n, rest) else none

def readInteger? (s : List Char) : Option (Int × List Char) :=
  match s with
  | '0' :: 'x' :: rest => readBase? 16 rest
  | '0' :: 'o' :: rest => readBase? 8 rest
  | '0' :: 'b' :: rest => readBase? 2 rest
  | _ => do
    let (negative, rest) := readSign s
    let (digits, rest) ← readWhole? rest
    let n := Decimal.natOfDigits digits
    if negative then if n ≤ Nat.pow 2 63 then some (-(n : Int), rest) else none
    else if n < Nat.pow 2 63 then some (n, rest)
    else none

def readExponent? : List Char → Option (Option Int × List Char)
  | [] => some (none, [])
  | c :: rest =>
    if c = 'e' ∨ c = 'E' then do
      let (down, rest) := readSign rest
      let (digits, rest) ← readDigits? Char.isDigit rest
      let e := Decimal.natOfDigits digits
      some (some (if down then -(e : Int) else e), rest)
    else some (none, c :: rest)

/-- Reads a number with a point or an exponent. A positive number beyond the range of doubles is refused. -/
def readDecimal? (negative : Bool) (s : List Char) : Option (Float × List Char) := do
  let (whole, rest) ← readWhole? s
  let (places, rest) ← match rest with
    | '.' :: more => readDigits? Char.isDigit more
    | _ => some ([], rest)
  let (exponent, rest) ← readExponent? rest
  if places = [] ∧ exponent = none then none
  else
    let x := Decimal.ofDecimal (Decimal.natOfDigits (whole ++ places))
      (exponent.getD 0 - places.length)
    if x.isInf ∧ !negative then none else some (Decimal.negateIf negative x, rest)

def readFloat? (s : List Char) : Option (Float × List Char) :=
  match readSign s with
  | (negative, 'i' :: 'n' :: 'f' :: rest) => some (Decimal.negateIf negative (1.0 / 0.0), rest)
  | (negative, 'n' :: 'a' :: 'n' :: rest) => some (Decimal.negateIf negative (0.0 / 0.0), rest)
  | (negative, rest) => readDecimal? negative rest

end Stencil.Toml
