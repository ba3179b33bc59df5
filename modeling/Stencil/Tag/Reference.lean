import Stencil.Unicode.Letter
import Stencil.Value.Basic

/-!
# References

Text that begins with a sigil refers to a tag. Where a default value or the output of a filter is such
text, it stands for the tag it names.
-/
namespace Stencil.Tag

open Stencil.Unicode

def isSigil (c : Char) : Bool := c == '~' || c == '$' || c == '+' || c == '^' || c == '.'

/-- Whether a text begins with a sigil and something that can begin a reference: a letter, an underscore,
or the condition of an include. `$5` and `.5` are no references. -/
def isReference : List Char → Bool
  | c :: d :: _ => (c == '+' && d == '(') || (isSigil c && (isAlphabetic d || d == '_'))
  | _ => false

/-- The value that a text stands for: a reference becomes the snippet of its tag, and a backslash before
one is dropped and keeps it text. -/
def referenced (s : String) : Value :=
  let chars := s.toList
  if isReference chars then .snippet ("\x7b" ++ s ++ "\x7d")
  else match chars with
    | '\\' :: rest => if isReference rest then .text (String.ofList rest) else .text s
    | _ => .text s

end Stencil.Tag
