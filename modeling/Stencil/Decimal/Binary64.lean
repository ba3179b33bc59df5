/-!
# Double-precision numbers

A finite double is its sign and the exact value `significand · 2 ^ exponent`. In the other direction a ratio
of natural numbers is rounded to the nearest double, a tie to the even significand.
-/
namespace Stencil.Decimal

def isNegative (x : Float) : Bool := x.toBits.toNat / Nat.pow 2 63 == 1

def biasedExponent (x : Float) : Nat := x.toBits.toNat / Nat.pow 2 52 % Nat.pow 2 11

def fraction (x : Float) : Nat := x.toBits.toNat % Nat.pow 2 52

def significand (x : Float) : Nat :=
  if biasedExponent x = 0 then fraction x else Nat.pow 2 52 + fraction x

def exponent (x : Float) : Int :=
  if biasedExponent x = 0 then -1074 else (biasedExponent x : Int) - 1075

def numerator (x : Float) : Nat := significand x * Nat.pow 2 (exponent x).toNat

def denominator (x : Float) : Nat := Nat.pow 2 (-exponent x).toNat

/-- The quotient rounded to a natural number, a tie to the even one. -/
def roundHalfEven (num den : Nat) : Nat :=
  let q := num / den
  let twice := 2 * (num % den)
  if den < twice ∨ (twice = den ∧ q % 2 = 1) then q + 1 else q

/-- The exponent of the double nearest to `num / den`: that of a significand of 53 bits, or the least one. -/
def scaleOf (num den : Nat) : Int :=
  let e : Int := (num.log2 : Int) - den.log2 - 52
  let e := if num * Nat.pow 2 (-e).toNat < den * Nat.pow 2 e.toNat * Nat.pow 2 52 then e - 1 else e
  max e (-1074)

/-- The double nearest to `num / den`, infinity if that is too large. -/
def ofRatio (num den : Nat) : Float :=
  if num = 0 then 0
  else
    let e := scaleOf num den
    let q := roundHalfEven (num * Nat.pow 2 (-e).toNat) (den * Nat.pow 2 e.toNat)
    let bits := (e + 1074).toNat * Nat.pow 2 52 + q
    Float.ofBits (min bits (2047 * Nat.pow 2 52)).toUInt64

/-- Number of decimal digits; zero has one. -/
def digitCount (n : Nat) : Nat := (Nat.toDigits 10 n).length

/-- The double nearest to `digits · 10 ^ exponent`. Far outside the range of doubles no power is computed. -/
def ofDecimal (digits : Nat) (exponent : Int) : Float :=
  let top := (digitCount digits : Int) + exponent
  if digits = 0 ∨ top < -330 then 0
  else if 310 < top then Float.ofBits (2047 * Nat.pow 2 52).toUInt64
  else ofRatio (digits * Nat.pow 10 exponent.toNat) (Nat.pow 10 (-exponent).toNat)

def negateIf (negative : Bool) (x : Float) : Float := if negative then -x else x

/-- The natural number that a finite double's magnitude exceeds by less than one. -/
def wholePart (x : Float) : Nat := numerator x / denominator x

def isWhole (x : Float) : Bool := x.isFinite && numerator x % denominator x == 0

/-- The remainder of a division that truncates, with the sign of the dividend; the remainder is always a
double. -/
def remainder (x y : Float) : Float :=
  if x.isFinite && y.isFinite && significand y != 0 then
    let n := numerator x * denominator y
    let d := numerator y * denominator x
    negateIf (isNegative x) (ofRatio (n % d) (denominator x * denominator y))
  else if x.isFinite && y.isInf then x
  else 0.0 / 0.0

/-- Truncated to an integer within bounds; what is not a number gives zero. -/
def toIntClamped (x : Float) (least greatest : Int) : Int :=
  if x.isNaN then 0
  else if x.isInf then (if isNegative x then least else greatest)
  else
    let n : Int := if isNegative x then -(wholePart x : Int) else wholePart x
    max least (min greatest n)

end Stencil.Decimal
