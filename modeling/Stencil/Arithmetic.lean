import Stencil.Number
import Stencil.Text.Blank

/-!
# Arithmetic expressions

Expressions over numerals, the input `x` and other variables, with parentheses. `^` binds tighter than
`*`, `/` and `%`, which bind tighter than `+` and `-`; a sign binds tighter than `^`. `^` associates to
the right, the others to the left.
-/
namespace Stencil.Arithmetic

open Stencil.Text

inductive Expr where
  | number (n : Number)
  | input
  | var (name : String)
  | negate (e : Expr)
  | binary (op : Operator) (left right : Expr)
  deriving Inhabited

namespace Expr

/-- The variables in the order of their first appearance, after those already met. -/
def names (met : List String) : Expr → List String
  | var name => if name ∈ met then met else met ++ [name]
  | negate e => e.names met
  | binary _ left right => right.names (left.names met)
  | _ => met

/-- The value for a given input, where `value?` gives the values of the other variables. -/
def eval? (input : Number) (value? : String → Option Number) : Expr → Option Number
  | number n => some n
  | .input => some input
  | var name => value? name
  | negate e => (e.eval? input value?).bind (Number.combine? .sub (.int 0))
  | binary op left right =>
    (left.eval? input value?).bind fun a => (right.eval? input value?).bind (Number.combine? op a)

end Expr

abbrev Reader := List Char → Option (Expr × List Char)

def skipBlanks (s : List Char) : List Char := s.dropWhile isAsciiBlank

def operator? (ops : List Operator) (s : List Char) : Option (Operator × List Char) :=
  match skipBlanks s with
  | c :: rest => ((Operator.ofChar? c).filter (· ∈ ops)).map fun op => (op, rest)
  | [] => none

/-- Goes on after a left operand, from left to right, for at most so many operators. -/
def operations (ops : List Operator) (operand : Reader) :
    Nat → Expr → List Char → Option (Expr × List Char)
  | 0, left, s => some (left, s)
  | steps + 1, left, s =>
    match operator? ops s with
    | none => some (left, s)
    | some (op, rest) =>
      (operand rest).bind fun (right, tail) =>
        operations ops operand steps (.binary op left right) tail

def leftward (ops : List Operator) (operand : Reader) : Reader := fun s =>
  (operand s).bind fun (left, rest) => operations ops operand rest.length left rest

def sums (factor : Reader) : Reader := leftward [.add, .sub] (leftward [.mul, .div, .rem] factor)

def isNameStart (c : Char) : Bool := c.isAlpha || c == '_'

def isNameChar (c : Char) : Bool := c.isAlphanum || c == '_'

def variableOf (name : List Char) : Expr :=
  if name = ['x'] then .input else .var (String.ofList name)

/-- Reads a numeral, a variable with or without a dollar sign, or what `inner` reads in parentheses. -/
def atom (inner : Reader) : Reader := fun s =>
  match skipBlanks s with
  | [] => none
  | c :: rest =>
    if c = '(' then
      (inner rest).bind fun (e, after) =>
        match skipBlanks after with
        | ')' :: tail => some (e, tail)
        | _ => none
    else if c.isDigit ∨ c = '.' then
      let isPart (d : Char) : Bool := d.isDigit || d == '.'
      (Number.parse? (String.ofList (c :: rest.takeWhile isPart))).map fun n =>
        (.number n, rest.dropWhile isPart)
    else if c = '$' then some (variableOf (rest.takeWhile isNameChar), rest.dropWhile isNameChar)
    else if isNameStart c then
      some (variableOf (c :: rest.takeWhile isNameChar), rest.dropWhile isNameChar)
    else none

mutual

/-- Reads a power; so many powers and signs may be open at once. -/
def power : Nat → Reader
  | 0, _ => none
  | depth + 1, s =>
    (signed depth s).bind fun (base, rest) =>
      match operator? [.pow] rest with
      | none => some (base, rest)
      | some (op, rest') =>
        (power depth rest').map fun (e, tail) => (.binary op base e, tail)

def signed : Nat → Reader
  | 0, _ => none
  | depth + 1, s =>
    match operator? [.add, .sub] s with
    | some (.sub, rest) => (signed depth rest).map fun (e, tail) => (.negate e, tail)
    | some (_, rest) => signed depth rest
    | none => atom (sums (power depth)) s

end

/-- So many powers, signs and parentheses may be open at once; a parenthesis counts twice. -/
def maxNesting : Nat := 256

def parse? (text : String) : Option Expr :=
  match sums (power maxNesting) text.toList with
  | some (e, rest) => if skipBlanks rest = [] then some e else none
  | none => none

/-- The value of an expression for an input; the variables take the given values in the order of their
first appearance. -/
def evaluate? (text : String) (input : Number) (values : List (Option Number)) : Option Number :=
  (parse? text).bind fun e =>
    let names := e.names []
    e.eval? input fun name => (names.idxOf? name).bind fun slot => (values[slot]?).join

end Stencil.Arithmetic
