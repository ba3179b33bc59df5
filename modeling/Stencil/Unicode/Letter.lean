import Stencil.Unicode.Category
import Stencil.Unicode.LetterTable

/-!
# Letters and digits

The classes of characters that names and words are made of, as edition 17.0 of the standard has them. The
sets of patterns are those of edition 16.0, so that each class here is the earlier one with what changed.
ASCII is decided without a table.
-/
namespace Stencil.Unicode

def isLetterCategory : Category → Bool
  | .lu | .ll | .lt | .lm | .lo | .nl => true
  | _ => false

def isAlphabetic (c : Char) : Bool :=
  if c.toNat < 128 then c.isAlpha
  else isLetterCategory (.ofChar c) || otherAlphabetic.contains c || laterAlphabetic.contains c

/-- Decimal digits, letter numbers and other numbers. -/
def isNumeric (c : Char) : Bool :=
  if c.toNat < 128 then c.isDigit
  else match Category.ofChar c with
    | .nd | .nl | .no => true
    | _ => laterNumeric.contains c

def isAlphanumeric (c : Char) : Bool := isAlphabetic c || isNumeric c

def isCased (c : Char) : Bool :=
  if c.toNat < 128 then c.isAlpha
  else
    let earlier := match Category.ofChar c with
      | .lu | .ll | .lt => true
      | _ => otherLowercase.contains c || otherUppercase.contains c
    earlier != laterCased.contains c

def isCaseIgnorable (c : Char) : Bool :=
  match Category.ofChar c with
  | .mn | .me | .cf | .lm | .sk => true
  | _ => otherCaseIgnorable.contains c || laterCaseIgnorable.contains c

end Stencil.Unicode
