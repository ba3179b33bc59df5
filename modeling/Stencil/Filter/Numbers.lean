import Stencil.Arithmetic
import Stencil.Engine.Run
import Stencil.Format
import Stencil.Tag.Invocation
import Stencil.Tag.Reference
import Stencil.Text.Search

/-!
# Filters on numbers

Arithmetic, and formats. Values that are no numbers stay as they are.
-/
namespace Stencil.Filter

open Stencil.Text Stencil.Tag

def quickCalculate (v : Value) (call : Invocation) : Value :=
  match trim (call.rawArguments.getD "").toList with
  | [] => v
  | c :: rest =>
    let result := do
      let op ← Operator.ofChar? c
      let a ← Number.parse? v.display
      let b ← Number.parse? (String.ofList rest)
      Number.combine? op a b
    match result with
    | some n => .text n.display
    | none => v

def settledArgument (settle : Value → Run Value) (argument : String) : Run String :=
  let s := trim argument.toList
  if s.head?.any isSigil then do return (← settle (referenced (String.ofList s))).display
  else return String.ofList s

/-- The format among the arguments after the first, and the other ones. -/
def formatAndRest : List String → Option String × List String
  | [] => (none, [])
  | a :: rest => if '%' ∈ a.toList then (some a, rest) else (none, a :: rest)

def formatted (format value : String) : String :=
  match Format.format format value with
  | .ok text => text
  | .error fault => fault.annotation format value

/-- Evaluates the expression in the first argument. A format may follow, and the values of variables. -/
def calculate (settle : Value → Run Value) (v : Value) (call : Invocation) : Run Value :=
  match call.callArguments with
  | [] => return v
  | expression :: rest => do
    let (format, values) := formatAndRest rest
    let numbers ← values.mapM fun a => do return Number.parse? (← settledArgument settle a)
    match Number.parse? v.display with
    | none => return v
    | some x =>
      match Arithmetic.evaluate? expression x numbers with
      | none =>
        .notice (.notArithmetic expression)
        return v
      | some n =>
        return .text (match format with
          | some f => formatted f n.display
          | none => n.display)

/-- The format between the parentheses. Double quotes around it are dropped, and so are the backslashes
before double quotes within. -/
def formatOf (raw : String) : String :=
  match trim raw.toList with
  | '"' :: d :: rest =>
    if (d :: rest).getLast? = some '"' then
      String.ofList (replaceAll ['\\', '"'] ['"'] (d :: rest).dropLast)
    else raw
  | _ => raw

def sprintf (input : Option Value) (call : Invocation) : Option Value :=
  call.rawArguments.map fun raw => .text (formatted (formatOf raw) (Value.displayOr input))

end Stencil.Filter
