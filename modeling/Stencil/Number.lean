import Stencil.Decimal.Layout
import Stencil.Decimal.Numeral
import Stencil.Text.Blank

/-!
# Numbers

Integers of 64 bits and finite doubles. Arithmetic on integers is exact where the result is an integer of
64 bits and goes on in doubles where it is not.
-/
namespace Stencil

inductive Number where
  | int (n : Int)
  | float (x : Float)
  deriving Inhabited

inductive Operator where
  | add | sub | mul | div | rem | pow
  deriving DecidableEq, Repr

namespace Operator

def ofChar? : Char → Option Operator
  | '+' => some add
  | '-' => some sub
  | '*' => some mul
  | '/' => some div
  | '%' => some rem
  | '^' => some pow
  | _ => none

def sign : Operator → Char
  | add => '+'
  | sub => '-'
  | mul => '*'
  | div => '/'
  | rem => '%'
  | pow => '^'

theorem ofChar?_sign (op : Operator) : ofChar? op.sign = some op := by
  cases op <;> rfl

theorem eq_sign_of_ofChar? {c : Char} {op : Operator} (h : ofChar? c = some op) : c = op.sign := by
  unfold ofChar? at h
  split at h <;> cases h <;> rfl

end Operator

namespace Number

def fits (n : Int) : Bool := -(Int.pow 2 63) ≤ n && n < Int.pow 2 63

/-- Reads an integer, or a finite double if the text has a point or an exponent or is too large. -/
def parse? (text : String) : Option Number :=
  let s := Text.trim text.toList
  let whole := if '.' ∈ s ∨ 'e' ∈ s ∨ 'E' ∈ s then none else Decimal.signed? 64 s
  match whole with
  | some n => some (int n)
  | none => ((Decimal.float? s).filter Float.isFinite).map float

def toFloat : Number → Float
  | int n => Decimal.negateIf (n < 0) (Decimal.ofRatio n.natAbs 1)
  | float x => x

/-- A power within 64 bits; no large power is computed. -/
def power? (a : Int) (e : Nat) : Option Int :=
  if a.natAbs ≤ 1 then some (if e = 0 then 1 else if e % 2 = 1 then a else a * a)
  else if 64 ≤ e then none
  else some (Int.pow a e)

/-- The exact result, if it is an integer: division truncates, and a remainder has the sign of the
dividend. -/
def exactResult? (op : Operator) (a b : Int) : Option Int :=
  match op with
  | .add => some (a + b)
  | .sub => some (a - b)
  | .mul => some (a * b)
  | .div => if b = 0 then none else some (a.tdiv b)
  | .rem => if b = 0 ∨ (a = -(Int.pow 2 63) ∧ b = -1) then none else some (a.tmod b)
  | .pow => if 0 ≤ b ∧ b < Int.pow 2 32 then power? a b.toNat else none

def approximate? (op : Operator) (a b : Float) : Option Number :=
  let x := match op with
    | .add => a + b
    | .sub => a - b
    | .mul => a * b
    | .div => a / b
    | .rem => Decimal.remainder a b
    | .pow => a.pow b
  if x.isFinite then some (float x) else none

def combine? (op : Operator) (a b : Number) : Option Number :=
  match a, b with
  | int m, int n =>
    match (exactResult? op m n).filter fits with
    | some r => some (int r)
    | none =>
      if n = 0 ∧ (op = .div ∨ op = .rem) then none else approximate? op a.toFloat b.toFloat
  | _, _ => approximate? op a.toFloat b.toFloat

/-- The text of a number. A whole double below `10 ^ 15` shows one place after the point, any other the
fewest digits that read back. -/
def display : Number → String
  | int n => toString n
  | float x =>
    if Decimal.isWhole x && x.abs < 1e15 then Decimal.signOf x ++ Decimal.fixed x 1
    else Decimal.shortestPlain x

end Number

end Stencil
