import Stencil.Pattern.Term
import Stencil.Unicode.Category
import Stencil.Unicode.LetterTable

/-!
# Conditions on places

What a pattern may ask of a place between two characters: that it is an end of the text or of a line, or
that words begin or end there.
-/
namespace Stencil.Pattern

open Stencil.Unicode

/-- Conditions on a place between two characters. Lines end with a line feed, and also with a carriage
return where that is asked for. -/
inductive Look where
  | textStart
  | textEnd
  | lineStart (carriageReturns : Bool)
  | lineEnd (carriageReturns : Bool)
  | word (kind : Anchor) (unicode : Bool)
  deriving DecidableEq, Repr

def wordSet : CharSet :=
  .unions [Category.set [.lu, .ll, .lt, .lm, .lo, .nl, .mn, .mc, .me, .nd, .pc], otherAlphabetic,
    .ofRanges [(0x200C, 0x200D)]]

def isAsciiWord (c : Char) : Bool := c.isAlphanum || c == '_'

def isWord (unicode : Bool) (c : Char) : Bool :=
  isAsciiWord c || (unicode && 128 ≤ c.toNat && wordSet.contains c)

/-- Whether a condition holds between two characters; one is missing at each end of the text. -/
def Look.holds (before after : Option Char) : Look → Bool
  | textStart => before.isNone
  | textEnd => after.isNone
  | lineStart carriageReturns =>
    before.isNone || before == some '\n'
      || (carriageReturns && before == some '\r' && after != some '\n')
  | lineEnd carriageReturns =>
    after.isNone || (carriageReturns && after == some '\r')
      || (after == some '\n' && !(carriageReturns && before == some '\r'))
  | word kind unicode =>
    let left := before.any (isWord unicode)
    let right := after.any (isWord unicode)
    match kind with
    | .wordBoundary => left != right
    | .notWordBoundary => left == right
    | .wordStart => !left && right
    | .wordEnd => left && !right
    | .wordStartHalf => !left
    | .wordEndHalf => !right
    | _ => false

end Stencil.Pattern
