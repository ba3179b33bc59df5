import Stencil.Arithmetic

/-!
# Formulas

Expressions as they are written. An operand stands in parentheses where it binds less tightly than its place asks
for, and nowhere else. The value of a formula is that of its parts, from the leaves up.
-/
namespace Stencil.Arithmetic

open Stencil.Text

def isLiteralChar (c : Char) : Bool := c.isDigit || c == '.'

structure Literal where
  chars : List Char
  valid : ∀ c ∈ chars, isLiteralChar c = true
  value : Number
  parses : Number.parse? (String.ofList chars) = some value

/-- The name of a variable. Behind a dollar sign it may begin with a digit or be empty. -/
structure Variable where
  chars : List Char
  valid : ∀ c ∈ chars, isNameChar c = true

def Variable.name (v : Variable) : String := String.ofList v.chars

inductive Formula where
  | literal (l : Literal)
  | var (v : Variable)
  | sign (negative : Bool) (operand : Formula)
  | binary (op : Operator) (left right : Formula)

inductive Rank where
  | sum
  | product
  | power
  | signed
  | atom
  deriving DecidableEq, Repr

namespace Rank

def level : Rank → Nat
  | sum => 0
  | product => 1
  | power => 2
  | signed => 3
  | atom => 4

def looser : Rank → Rank
  | sum => sum
  | product => sum
  | power => product
  | signed => power
  | atom => signed

theorem level_looser (rank : Rank) : rank.looser.level = rank.level - 1 := by
  cases rank <;> rfl

theorem level_injective {rank rank' : Rank} (h : rank.level = rank'.level) : rank = rank' := by
  cases rank <;> cases rank' <;> first | rfl | cases h

/-- What passes to the next looser rank passes to all looser ones. -/
theorem descend {P : Rank → Prop} (hlooser : ∀ rank, P rank → P rank.looser) {own place : Rank} (h : P own)
    (hlevel : place.level ≤ own.level) : P place := by
  induction hsteps : own.level - place.level generalizing own with
  | zero =>
    obtain rfl := level_injective (show own.level = place.level by omega)
    exact h
  | succ steps ih =>
    have hlevel' := level_looser own
    exact ih (hlooser own h) (by omega) (by omega)

theorem level_le_atom (rank : Rank) : rank.level ≤ atom.level := by
  cases rank <;> decide

def joined : Operator → Rank
  | .add | .sub => sum
  | .mul | .div | .rem => product
  | .pow => power

/-- What an operator asks of its left operand: sums and products associate to the left. -/
def left : Operator → Rank
  | .add | .sub => sum
  | .mul | .div | .rem => product
  | .pow => signed

/-- What an operator asks of its right operand: powers associate to the right. -/
def right : Operator → Rank
  | .add | .sub => product
  | .mul | .div | .rem => power
  | .pow => power

end Rank

inductive Token where
  | literal (l : Literal)
  | var (v : Variable)
  | operator (op : Operator)
  | opening
  | closing

/-- The tokens of an operand, in parentheses if it binds less tightly than its place asks for. -/
def enclose (place own : Rank) (tokens : List Token) : List Token :=
  if own.level < place.level then .opening :: (tokens ++ [.closing]) else tokens

def nestingIn (place own : Rank) (nesting : Nat) : Nat :=
  if own.level < place.level then nesting + 2 else nesting

namespace Formula

def rank : Formula → Rank
  | literal _ => .atom
  | var _ => .atom
  | sign _ _ => .signed
  | binary op _ _ => .joined op

def tokens : Formula → List Token
  | literal l => [.literal l]
  | var v => [.var v]
  | sign negative e =>
    .operator (if negative then .sub else .add) :: enclose .signed e.rank e.tokens
  | binary op left right =>
    enclose (.left op) left.rank left.tokens ++
      .operator op :: enclose (.right op) right.rank right.tokens

/-- How many powers, signs and parentheses are open at once. A number or a variable stands for a power and its
base; sums and products of any length add nothing. -/
def nesting : Formula → Nat
  | literal _ => 2
  | var _ => 2
  | sign _ e => nestingIn .signed e.rank e.nesting + 1
  | binary op left right =>
    max (nestingIn (.left op) left.rank left.nesting)
      (nestingIn (.right op) right.rank right.nesting + if op = .pow then 1 else 0)

end Formula

namespace Formula

def names : Formula → List String
  | literal _ => []
  | var v => if v.name = "x" then [] else [v.name]
  | sign _ e => e.names
  | binary _ left right => left.names ++ right.names

/-- The value of a variable, where the names take the values in the order of their first appearance. -/
def assigned (e : Formula) (values : List (Option Number)) (name : String) : Option Number :=
  (e.names.eraseDups.idxOf? name).bind fun slot => (values[slot]?).join

section Value

variable (input : Number) (assigned? : String → Option Number)

/-- The value of a formula from the leaves up; `x` is the input. -/
def value? : Formula → Option Number
  | literal l => some l.value
  | var v => if v.name = "x" then some input else assigned? v.name
  | sign false e => e.value?
  | sign true e => e.value?.bind (Number.combine? .sub (.int 0))
  | binary op left right => left.value?.bind fun a => right.value?.bind (Number.combine? op a)

def parts : Formula → List Formula
  | literal l => [literal l]
  | var v => [var v]
  | sign negative e => sign negative e :: e.parts
  | binary op left right => binary op left right :: (left.parts ++ right.parts)

/-- A variable without a value, or an operation on values that gives nothing. -/
def Stuck : Formula → Prop
  | literal _ => False
  | var v => v.name ≠ "x" ∧ assigned? v.name = none
  | sign negative e =>
    negative = true ∧ ∃ a, e.value? input assigned? = some a ∧ Number.combine? .sub (.int 0) a = none
  | binary op left right =>
    ∃ a b, left.value? input assigned? = some a ∧ right.value? input assigned? = some b ∧
      Number.combine? op a b = none

/-- A formula has no value exactly if one of its parts is stuck. -/
theorem value?_eq_none_iff (e : Formula) :
    e.value? input assigned? = none ↔ ∃ p ∈ e.parts, p.Stuck input assigned? := by
  induction e with
  | literal l => simp [value?, parts, Stuck]
  | var v =>
    simp only [value?, parts, Stuck, List.mem_singleton, exists_eq_left]
    split <;> simp_all
  | sign negative e ih =>
    simp only [parts, List.mem_cons, or_and_right, exists_or, exists_eq_left]
    rw [← ih]
    cases negative with
    | false => simp [value?, Stuck]
    | true => cases h : e.value? input assigned? <;> simp [value?, Stuck, h]
  | binary op left right ihleft ihright =>
    simp only [parts, List.mem_cons, List.mem_append, or_and_right, exists_or, exists_eq_left]
    rw [← ihleft, ← ihright]
    cases hl : left.value? input assigned? with
    | none => simp [value?, hl]
    | some a => cases hr : right.value? input assigned? <;> simp [value?, Stuck, hl, hr]

end Value

def expr : Formula → Expr
  | literal l => .number l.value
  | var v => variableOf v.chars
  | sign negative e => if negative then .negate e.expr else e.expr
  | binary op left right => .binary op left.expr right.expr

theorem variableOf_eq (v : Variable) :
    variableOf v.chars = if v.name = "x" then .input else .var v.name := by
  have hx : v.chars = ['x'] ↔ v.name = "x" := by
    rw [Variable.name, ← String.toList_inj, String.toList_ofList]
    rfl
  rw [variableOf]
  simp only [hx]
  rfl

theorem eval?_expr (e : Formula) (input : Number) (assigned? : String → Option Number) :
    e.expr.eval? input assigned? = e.value? input assigned? := by
  induction e with
  | literal l => rfl
  | var v =>
    rw [expr, variableOf_eq, value?]
    split <;> rfl
  | sign negative e ih =>
    cases negative with
    | false => exact ih
    | true => exact congrArg (Option.bind · _) ih
  | binary op left right ihleft ihright => rw [expr, Expr.eval?, ihleft, ihright, value?]

/-- The names that are met in an expression are those of the formula in the order of their first appearance. -/
theorem names_expr (e : Formula) (met : List String) :
    e.expr.names met = met ++ (e.names.removeAll met).eraseDups := by
  induction e generalizing met with
  | literal l => simp [expr, Expr.names, names, List.removeAll]
  | var v =>
    rw [expr, variableOf_eq, names]
    split
    · simp [Expr.names, List.removeAll]
    · rw [Expr.names]
      split <;> simp_all [List.removeAll, List.eraseDups_cons]
  | sign negative e ih => cases negative <;> exact ih met
  | binary op left right ihleft ihright =>
    -- what is met before the right operand is what had been met and the names of the left one
    have hremove : right.names.removeAll (met ++ (left.names.removeAll met).eraseDups) =
        (right.names.removeAll met).removeAll (left.names.removeAll met) := by
      simp only [List.removeAll, List.filter_filter]
      refine List.filter_congr fun name _ => ?_
      by_cases hmet : name ∈ met <;> simp [hmet]
    have happend : (left.names ++ right.names).removeAll met =
        left.names.removeAll met ++ right.names.removeAll met := List.filter_append ..
    rw [expr, Expr.names, ihleft, ihright, names, happend, List.eraseDups_append, hremove, List.append_assoc]

end Formula

end Stencil.Arithmetic
