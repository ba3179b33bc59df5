import Stencil.Tag.Arguments

/-!
# Invocations

One filter of a chain: a bare name, a call with arguments in parentheses, or a regular-expression literal.
-/
namespace Stencil.Tag

open Stencil.Text

inductive Form where
  | bare
  | call
  | regex
  deriving DecidableEq, Repr

structure Invocation where
  name : String
  /-- The arguments of a call; the filter's own text in the other forms. -/
  arguments : List String
  /-- The text between the parentheses of a call. -/
  rawArguments : Option String
  form : Form
  /-- The filter as it is written. -/
  text : String
  deriving DecidableEq, Repr

namespace Invocation

def splitHead (s : List Char) : List Char × List Char :=
  s.span fun c => c ≠ '(' ∧ c ≠ '/'

/-- Reads a filter. What comes first, a slash or a parenthesis, decides the form. -/
def ofChars (s : List Char) : Invocation :=
  let text := trim s
  let (head, tail) := splitHead text
  match tail with
  | '(' :: rest =>
    { name := String.ofList (trim head)
      arguments := callArguments tail
      rawArguments := some <| String.ofList <| match closing '(' ')' 0 true rest with
        | some (inside, _) => inside
        | none => rest
      form := .call
      text := String.ofList text }
  | '/' :: _ =>
    { name := String.ofList (trim head)
      arguments := [String.ofList text]
      rawArguments := none
      form := .regex
      text := String.ofList text }
  | _ =>
    { name := String.ofList text
      arguments := [String.ofList text]
      rawArguments := none
      form := .bare
      text := String.ofList text }

def parse (text : String) : Invocation := ofChars text.toList

def callArguments (i : Invocation) : List String :=
  match i.form with
  | .call => i.arguments
  | _ => []

def argument? (i : Invocation) (index : Nat) : Option String := i.callArguments[index]?

end Invocation

end Stencil.Tag
