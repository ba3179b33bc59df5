import Stencil.Decimal.Binary64

/-!
# Reading numerals

Whole numerals are a sign, which may be missing, and ASCII digits; they are read within the bounds of their
kind or not at all. Floating-point numerals may have a point, with a digit on one side of it at least, and
an exponent, or be one of the words for infinity and for what is not a number.
-/
namespace Stencil.Decimal

def natOfDigits (s : List Char) : Nat := s.foldl (fun n c => 10 * n + (c.toNat - '0'.toNat)) 0

def natural? (s : List Char) : Option Nat :=
  if s ≠ [] ∧ s.all Char.isDigit then some (natOfDigits s) else none

/-- Reads a numeral with an optional sign of either kind. -/
def integer? : List Char → Option Int
  | '-' :: s => (natural? s).map fun n => -(n : Int)
  | '+' :: s => (natural? s).map Int.ofNat
  | s => (natural? s).map Int.ofNat

def signed? (bits : Nat) (s : List Char) : Option Int :=
  (integer? s).filter fun n => -(Int.pow 2 (bits - 1)) ≤ n ∧ n < Int.pow 2 (bits - 1)

/-- Reads a natural number of `bits` bits; a minus sign is refused. -/
def unsigned? (bits : Nat) (s : List Char) : Option Nat :=
  (natural? (match s with
    | '+' :: rest => rest
    | _ => s)).filter fun n => n < Nat.pow 2 bits

/-- Reads the part of a floating-point numeral from its exponent mark on. -/
def exponentPart? : List Char → Option Int
  | [] => some 0
  | c :: s => if c = 'e' ∨ c = 'E' then integer? s else none

def magnitude? (s : List Char) : Option Float :=
  let word := String.ofList (s.map Char.toLower)
  if word == "inf" || word == "infinity" then some (1.0 / 0.0)
  else if word == "nan" then some (0.0 / 0.0)
  else
    let whole := s.takeWhile Char.isDigit
    let rest := s.dropWhile Char.isDigit
    let (places, tail) := match rest with
      | '.' :: r => (r.takeWhile Char.isDigit, r.dropWhile Char.isDigit)
      | _ => ([], rest)
    if whole = [] ∧ places = [] then none
    else (exponentPart? tail).map fun e =>
      ofDecimal (natOfDigits (whole ++ places)) (e - places.length)

def float? : List Char → Option Float
  | '-' :: s => (magnitude? s).map fun x => -x
  | '+' :: s => magnitude? s
  | s => magnitude? s

end Stencil.Decimal
