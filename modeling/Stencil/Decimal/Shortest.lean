import Stencil.Decimal.Binary64

/-!
# Shortest decimals

The shortest decimal that reads back as a given double, and of those the nearest. Every real between the
two points halfway to the neighbouring doubles reads back; the two points themselves do if the significand
is even. On each decimal grid, from the coarsest on, the grid points next to the double are tried.
-/
namespace Stencil.Decimal

/-- What becomes of a double halfway between the two nearest decimals of the shortest length. -/
inductive Tie where
  | up
  | even
  deriving DecidableEq, Repr

def leadingExponent (num den : Nat) : Int :=
  if den ≤ num then (digitCount (num / den) : Int) - 1
  else -(digitCount ((den + num - 1) / num - 1) : Int)

/-- The interval of reals that read back, over the denominator `den`: the double itself and how far the
interval reaches down and up. -/
structure Interval where
  num : Nat
  den : Nat
  down : Nat
  up : Nat
  closed : Bool

def intervalOf (x : Float) : Interval :=
  let scale := Nat.pow 2 (exponent x).toNat
  let narrow := fraction x == 0 && 1 < biasedExponent x
  { num := 4 * numerator x, den := 4 * denominator x
    down := if narrow then scale else 2 * scale
    up := 2 * scale
    closed := significand x % 2 == 0 }

/-- The multiple of `10 ^ k` next to the double that reads back, as a number of units. -/
def Interval.unitsAt? (i : Interval) (tie : Tie) (k : Int) : Option Nat :=
  let shift := Nat.pow 10 (-k).toNat
  let unit := i.den * Nat.pow 10 k.toNat
  let num := i.num * shift
  let below := num / unit
  let within (distance reach : Nat) : Bool :=
    if i.closed then distance ≤ reach else distance < reach
  let toBelow := num - below * unit
  let toAbove := (below + 1) * unit - num
  let belowHits := 0 < below && within toBelow (i.down * shift)
  let aboveHits := within toAbove (i.up * shift)
  match belowHits, aboveHits with
  | true, false => some below
  | false, true => some (below + 1)
  | true, true =>
    if toBelow < toAbove then some below
    else if toAbove < toBelow then some (below + 1)
    else if tie = .even ∧ below % 2 = 0 then some below
    else some (below + 1)
  | false, false => none

/-- Tries grids of `10 ^ k` and finer, at most so many. -/
def Interval.search (i : Interval) (tie : Tie) : Nat → Int → Nat × Int
  | 0, k => (0, k)
  | tries + 1, k =>
    match i.unitsAt? tie k with
    | some n => (n, k)
    | none => i.search tie tries (k - 1)

def stripZeros : Nat → Nat × Int → Nat × Int
  | 0, d => d
  | fuel + 1, (n, k) => if n ≠ 0 ∧ n % 10 = 0 then stripZeros fuel (n / 10, k + 1) else (n, k)

/-- Digits and exponent of the shortest decimal of a finite double's magnitude. Seventeen digits always
suffice. -/
def shortest (tie : Tie) (x : Float) : Nat × Int :=
  if significand x = 0 then (0, 0)
  else
    let i := intervalOf x
    stripZeros 17 (i.search tie 18 (leadingExponent i.num i.den))

end Stencil.Decimal
