import Stencil.Tag.Expression

/-!
# Conditional includes

The shorthand `(condition)template` for including a template when a condition holds. A condition becomes
an ordinary tag whose filter chain makes the test:

    (~x)           ~x|ondefined(+template):
    (!x)           ~x|ondefined():+template
    (~x == text)   ~x|onmatch(/^text$/,+template)nomatch()
    (~x == ~y)     ~y|onmatch(/^current text of x$/,+template)nomatch()
    (~x =~ /re/)   ~x|onmatch(/re/,+template)nomatch()

`!=` and `!~` exchange the two outputs of `onmatch`.
-/
namespace Stencil.Tag

open Stencil.Text Stencil.Unicode

inductive ConditionError where
  | missingCondition (body : String)
  | missingTemplate (body : String)
  | malformedCondition (condition : String)
  | expectedRegex (operator condition : String)
  deriving DecidableEq, Repr

namespace ConditionError

def message : ConditionError → String
  | missingCondition body => "missing parenthesized condition in \"" ++ body ++ "\""
  | missingTemplate body => "missing template name in \"" ++ body ++ "\""
  | malformedCondition condition => "malformed condition \"" ++ condition ++ "\""
  | expectedRegex operator condition =>
    "expected /regex/ after " ++ operator ++ " in \"" ++ condition ++ "\""

def annotation (e : ConditionError) : String := "[includeIf syntax error: " ++ e.message ++ "]"

end ConditionError

/-- The test of a conditional include. Names are paths without a sigil. -/
inductive Condition where
  | defined (name : String)
  | undefined (name : String)
  | equals (negated : Bool) (name literal : String)
  /-- Compares the current texts of two names. -/
  | same (negated : Bool) (left right : String)
  | matchesRegex (negated : Bool) (name regex : String)
  deriving DecidableEq, Repr

structure ConditionalInclude where
  condition : Condition
  template : String
  deriving DecidableEq, Repr

inductive Comparison where
  | equal
  | notEqual
  | regex
  | notRegex
  deriving DecidableEq, Repr

namespace Comparison

def symbol : Comparison → String
  | equal => "=="
  | notEqual => "!="
  | regex => "=~"
  | notRegex => "!~"

def isNegated : Comparison → Bool
  | notEqual | notRegex => true
  | _ => false

def ofStart? : List Char → Option Comparison
  | '=' :: '=' :: _ => some equal
  | '!' :: '=' :: _ => some notEqual
  | '=' :: '~' :: _ => some regex
  | '!' :: '~' :: _ => some notRegex
  | _ => none

def find? : List Char → Option (List Char × Comparison × List Char)
  | [] => none
  | c :: rest =>
    match ofStart? (c :: rest) with
    | some op => some ([], op, rest.drop 1)
    | none => (find? rest).map fun (before, op, after) => (c :: before, op, after)

end Comparison

/-- Whether a text after its sigil uses the shorthand. -/
def isConditional (sigil : Char) (body : List Char) : Bool :=
  if sigil = '+' then (trimStart body).head? == some '('
  else if sigil = '.' ∨ sigil = '^' then (dropStart? "includeIf(".toList body).isSome
  else false

def dropSigil : List Char → List Char
  | '~' :: rest => rest
  | '$' :: rest => rest
  | s => s

/-- The name in a reference, which must be a path of letters, digits and `_`, `.`, `-`. -/
def nameOf? (reference : List Char) : Option String :=
  let name := trim (dropSigil reference)
  if name ≠ [] ∧ name.all fun c => isAlphanumeric c || c == '_' || c == '.' || c == '-' then
    some (String.ofList name)
  else none

def startsReference : List Char → Bool
  | '~' :: _ => true
  | '$' :: _ => true
  | _ => false

def unquote (s : List Char) : List Char :=
  let between (quote : Char) : Option (List Char) :=
    match s with
    | c :: d :: rest =>
      if c = quote ∧ (d :: rest).getLast? = some quote then some (d :: rest).dropLast else none
    | _ => none
  match between '"', between '\'' with
  | some inside, _ => inside
  | none, some inside => inside
  | none, none => s

def Condition.parse (s : List Char) : Except ConditionError Condition :=
  let malformed := ConditionError.malformedCondition (String.ofList s)
  let nameOrElse (reference : List Char) : Except ConditionError String :=
    match nameOf? reference with
    | some name => .ok name
    | none => .error malformed
  match s, Comparison.find? (s.drop 1), Comparison.find? s with
  | '!' :: rest, none, _ => (nameOrElse (trim rest)).map .undefined
  | _, _, none => (nameOrElse s).map .defined
  | _, _, some (before, op, after) => do
    let left := trim before
    let right := trim after
    if !startsReference left then
      throw malformed
    let name ← nameOrElse left
    match op with
    | .regex | .notRegex =>
      match right with
      | '/' :: rest =>
        if (cut '/' false rest).isSome then
          return .matchesRegex op.isNegated name (String.ofList right)
        else throw (.expectedRegex op.symbol (String.ofList s))
      | _ => throw (.expectedRegex op.symbol (String.ofList s))
    | .equal | .notEqual =>
      if startsReference right then
        return .same op.isNegated name (← nameOrElse right)
      else if right = [] then
        throw malformed
      else return .equals op.isNegated name (String.ofList (unquote right))

def ConditionalInclude.parse (body : String) : Except ConditionError ConditionalInclude :=
  let text := trim body.toList
  match (dropStart? "includeIf".toList text).getD text with
  | '(' :: rest =>
    match closing '(' ')' 0 true rest with
    | none => .error (.missingCondition body)
    | some (inside, after) =>
      let template := match trim after with
        | '.' :: name => trim name
        | name => name
      if template = [] then .error (.missingTemplate body)
      else (Condition.parse (trim inside)).map fun c => ⟨c, String.ofList template⟩
  | _ => .error (.missingCondition body)

/-- Writes a text as the pattern that matches it: ASCII other than letters, digits, blanks and angle
brackets gets a backslash. -/
def escapeLiteral (s : List Char) : List Char :=
  s.flatMap fun c =>
    if c.isAlphanum || c == ' ' || c == '<' || c == '>' || 128 ≤ c.toNat then [c] else ['\\', c]

def exactly (literal : String) : String :=
  "/^" ++ String.ofList (escapeLiteral literal.toList) ++ "$/"

namespace ConditionalInclude

/-- The name whose current text the condition compares with. -/
def comparesWith? (i : ConditionalInclude) : Option String :=
  match i.condition with
  | .same _ left _ => some left
  | _ => none

def matchTag (negated : Bool) (subject literal include_ : String) : String :=
  if negated then "~" ++ subject ++ "|onmatch(" ++ literal ++ ",)nomatch(" ++ include_ ++ ")"
  else "~" ++ subject ++ "|onmatch(" ++ literal ++ "," ++ include_ ++ ")nomatch()"

/-- The ordinary tag that stands for a conditional include, with its sigil. `current` is the text of the
name it compares with. -/
def tag (i : ConditionalInclude) (current : String) : String :=
  let include_ := "+" ++ i.template
  match i.condition with
  | .defined name => "~" ++ name ++ "|ondefined(" ++ include_ ++ "):"
  | .undefined name => "~" ++ name ++ "|ondefined():" ++ include_
  | .equals negated name literal => matchTag negated name (exactly literal) include_
  | .same negated _ right => matchTag negated right (exactly current) include_
  | .matchesRegex negated name regex => matchTag negated name regex include_

end ConditionalInclude

end Stencil.Tag
