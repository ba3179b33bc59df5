import Stencil.Text.Escape
import Stencil.Value.Basic

/-!
# Inline lists

Lists written as text: `[a,b,[c,d]]`. A backslash keeps the next character from separating or closing.
-/
namespace Stencil.Value

open Stencil.Text

/-- Lists nest this deep; what is nested deeper stays text. -/
def maxInlineDepth : Nat := 32

/-- The text between an opening bracket, which has been read, and the bracket that closes it, if that is
the end of the text. `depth` counts the brackets that are open within. -/
def untilLast? : Nat → List Char → Option (List Char)
  | _, [] => none
  | _, ['\\'] => none
  | depth, '\\' :: c :: rest => (untilLast? depth rest).map fun s => '\\' :: c :: s
  | depth, c :: rest =>
    if c = '[' then (untilLast? (depth + 1) rest).map (c :: ·)
    else if c = ']' then
      match depth with
      | 0 => if rest.isEmpty then some [] else none
      | d + 1 => (untilLast? d rest).map (c :: ·)
    else (untilLast? depth rest).map (c :: ·)

def splitItems : Nat → List Char → List Char × List (List Char)
  | _, [] => ([], [])
  | _, ['\\'] => (['\\'], [])
  | depth, '\\' :: c :: rest =>
    let (item, items) := splitItems depth rest
    ('\\' :: c :: item, items)
  | depth, c :: rest =>
    if c = ',' ∧ depth = 0 then
      let (item, items) := splitItems depth rest
      ([], item :: items)
    else
      let (item, items) := splitItems
        (if c = '[' then depth + 1 else if c = ']' then depth - 1 else depth) rest
      (c :: item, items)

def inlineItems? (s : List Char) : Option (List (List Char)) :=
  match trim s with
  | '[' :: rest =>
    (untilLast? 0 rest).map fun inside =>
      if (trim inside).isEmpty then []
      else
        let (item, items) := splitItems 0 inside
        item :: items
  | _ => none

/-- The value of an item, in which lists may nest so many levels deep. -/
def ofInlineItem : Nat → List Char → Value
  | 0, raw => text (String.ofList (unescape ']' (unescape ',' (trim raw))))
  | levels + 1, raw =>
    match inlineItems? raw with
    | some items => list (items.map (ofInlineItem levels))
    | none => text (String.ofList (unescape ']' (unescape ',' (trim raw))))

def parseInlineList? (s : String) : Option (List Value) :=
  (inlineItems? s.toList).map fun items => items.map (ofInlineItem (maxInlineDepth - 1))

def toList? : Value → Option (List Value)
  | list items => some items
  | text s => parseInlineList? s
  | _ => none

end Stencil.Value
