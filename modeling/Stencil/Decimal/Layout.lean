import Stencil.Decimal.Shortest

/-!
# Writing decimals

Decimals in positional notation, with a fixed number of places, and in scientific notation. Fixed places
are rounded from the exact value of the double, a tie to the even digit.
-/
namespace Stencil.Decimal

def zeros (n : Nat) : String := String.ofList (List.replicate n '0')

/-- Writes `units / 10 ^ places` with that many places. -/
def positional (units places : Nat) : String :=
  let digits := (toString units).toList
  if places = 0 then String.ofList digits
  else
    let padded := List.replicate (places + 1 - digits.length) '0' ++ digits
    String.ofList (padded.take (padded.length - places)) ++ "."
      ++ String.ofList (padded.drop (padded.length - places))

def plain (digits : Nat) (exponent : Int) : String :=
  if 0 ≤ exponent then
    if digits = 0 then "0" else toString digits ++ zeros exponent.toNat
  else positional digits (-exponent).toNat

def signOf (x : Float) : String := if isNegative x then "-" else ""

def fixed (x : Float) (places : Nat) : String :=
  positional (roundHalfEven (numerator x * Nat.pow 10 places) (denominator x)) places

def scientificParts (x : Float) (places : Nat) : String × Int :=
  if significand x = 0 then (positional 0 places, 0)
  else
    let e := leadingExponent (numerator x) (denominator x)
    let shift := (places : Int) - e
    let n := roundHalfEven (numerator x * Nat.pow 10 shift.toNat) (denominator x * Nat.pow 10 (-shift).toNat)
    if Nat.pow 10 (places + 1) ≤ n then (positional (n / 10) places, e + 1) else (positional n places, e)

/-- The shortest text of a double that reads back, never with an exponent. -/
def shortestPlain (x : Float) : String :=
  if x.isNaN then "NaN"
  else if x.isInf then signOf x ++ "inf"
  else
    let (digits, exponent) := shortest .up x
    signOf x ++ plain digits exponent

end Stencil.Decimal
