import Stencil.Filter.Lists
import Stencil.Filter.Texts

/-!
# Filters with patterns

Substitution, choosing by the first test that matches, and splitting.
-/
namespace Stencil.Filter

open Stencil.Text Stencil.Tag

/-- Substitutes in the text of a value. Without the delimiters nothing happens; a pattern that cannot be
compiled leaves a remark after the text. -/
def substitute (v : Value) (call : Invocation) : Value :=
  let text := v.display
  match (Pattern.Directive.parseSubstitution call.text).bind (·.substitute text.toList) with
  | .ok out => .text (String.ofList out)
  | .error (.missingDelimiter _) => v
  | .error fault => .text (text ++ fault.annotation)

def patternOf (text : String) : Except Pattern.DirectiveFault Pattern :=
  (Pattern.Directive.parseMatch text).bind Pattern.Directive.compile

theorem length_drop_one_lt (test : String) (rest : List String) :
    (rest.drop 1).length < (test :: rest).length := by
  rw [List.length_drop, List.length_cons]
  omega

/-- The output of the first test that matches. Without a subject no test matches; the fallback is always
reached. -/
def firstMatch (subject : Option (List Char)) : List String → Run Value
  | [] => return .text ""
  | test :: rest =>
    let output := referenced (rest.headD "")
    if test = fallbackMark then return output
    else
      match subject with
      | none => firstMatch subject (rest.drop 1)
      | some s =>
        match patternOf test with
        | .ok p => if p.isMatch s then return output else firstMatch subject (rest.drop 1)
        | .error fault => do
          .notice (.badTest test fault)
          firstMatch subject (rest.drop 1)
termination_by tests => tests.length
decreasing_by all_goals exact length_drop_one_lt test rest

def onMatch (input : Option Value) (call : Invocation) : Run Value :=
  firstMatch (input.map fun v => v.display.toList) call.callArguments

/-- Splits the text of a value at blanks, at a text, or at the matches of a pattern between slashes. -/
def split (v : Value) (call : Invocation) : Run Value :=
  let s := v.display.toList
  let delimiter := (call.argument? 0).getD ""
  let limit := limitOf (call.argument? 1)
  if trim delimiter.toList = [] then return textList (words limit s)
  else if delimiter.toList.head? = some '/' then
    match patternOf delimiter with
    | .ok p => return textList (p.split s (if limit = 0 then none else some limit))
    | .error fault => do
      .notice (.badSplit fault)
      return v
  else return textList (splitUpTo delimiter.toList limit s)

end Stencil.Filter
