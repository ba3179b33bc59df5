import Stencil.Pattern.Replacement
import Stencil.Text.Escape

/-!
# Directives

Patterns between slashes, with flags after the last slash: `/pattern/flags` for a match, and
`s/pattern/replacement/flags` for a substitution.
-/
namespace Stencil.Pattern

open Stencil.Text

structure Directive where
  pattern : String
  replacement : Option String
  isGlobal : Bool
  ignoreCase : Bool
  multiLine : Bool
  dotAll : Bool
  deriving DecidableEq, Repr

inductive DirectiveFault where
  | missingDelimiter (text : String)
  | pattern (pattern : String) (fault : Fault)
  deriving DecidableEq, Repr

namespace DirectiveFault

def message : DirectiveFault → String
  | missingDelimiter text => "missing closing delimiter in regex literal '" ++ text ++ "'"
  | pattern p fault => "invalid regex /" ++ p ++ "/: " ++ fault.report p

/-- The text that takes the place of the result, or that follows it. -/
def annotation : DirectiveFault → String
  | missingDelimiter text => "[REGEX " ++ text ++ " Error: missing closing delimiter]"
  | pattern p fault => "[REGEX " ++ p ++ " Error: " ++ fault.summary ++ "]"

end DirectiveFault

namespace Directive

def isFlag (c : Char) : Bool := c == 'g' || c == 'i' || c == 'm' || c == 's'

/-- A directive whose flags are the letters at the very end of `tail`. -/
def withFlags (pattern : List Char) (replacement : Option (List Char)) (tail : List Char) : Directive :=
  let flags := tail.reverse.takeWhile isFlag
  ⟨String.ofList pattern, replacement.map String.ofList, 'g' ∈ flags, 'i' ∈ flags, 'm' ∈ flags,
    's' ∈ flags⟩

/-- Reads a substitution; the letter before the first slash may be missing. -/
def parseSubstitution (text : String) : Except DirectiveFault Directive :=
  let s := trim text.toList
  let parsed := do
    let inner ← (dropStart? ['s', '/'] s).or (dropStart? ['/'] s)
    let (pattern, rest) ← cut '/' false inner
    let (replacement, tail) ← cut '/' false rest
    return withFlags pattern (some replacement) tail
  match parsed with
  | some d => .ok d
  | none => .error (.missingDelimiter (String.ofList s))

/-- Reads a match; text that does not begin with a slash is a pattern without flags. -/
def parseMatch (text : String) : Except DirectiveFault Directive :=
  match trim text.toList with
  | '/' :: rest =>
    match cut '/' false rest with
    | some (pattern, tail) => .ok (withFlags pattern none tail)
    | none => .error (.missingDelimiter (String.ofList ('/' :: rest)))
  | pattern => .ok (withFlags pattern none [])

def settings (d : Directive) : Settings :=
  { Settings.standard with
    ignoreCase := d.ignoreCase, multiLine := d.multiLine, dotAll := d.dotAll }

def compile (d : Directive) : Except DirectiveFault Pattern :=
  match Pattern.compile d.settings d.pattern with
  | .ok p => .ok p
  | .error fault => .error (.pattern d.pattern fault)

def substitute (d : Directive) (input : List Char) : Except DirectiveFault (List Char) := do
  let p ← d.compile
  let parts := Replacement.parts (Replacement.toPlain (d.replacement.getD "").toList)
  let ms := if d.isGlobal then p.all input else (p.find? input 0).toList
  return Replacement.changeCase
    (replaceMatches input (fun m => Replacement.expand p input m parts) 0 ms)

end Directive

end Stencil.Pattern
