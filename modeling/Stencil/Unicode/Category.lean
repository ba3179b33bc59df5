import Stencil.Unicode.CategoryTable
import Stencil.Unicode.CharSet

/-!
# General categories

Every code point has one of thirty general categories.
-/
namespace Stencil.Unicode

/-- A general category, by its short name in the standard. -/
inductive Category where
  | lu | ll | lt | lm | lo | mn | mc | me | nd | nl | no | pc | pd | ps | pe | pi | pf | po
  | sm | sc | sk | so | zs | zl | zp | cc | cf | cs | co | cn
  deriving DecidableEq, Repr

namespace Category

def all : List Category :=
  [.lu, .ll, .lt, .lm, .lo, .mn, .mc, .me, .nd, .nl, .no, .pc, .pd, .ps, .pe, .pi, .pf, .po,
    .sm, .sc, .sk, .so, .zs, .zl, .zp, .cc, .cf, .cs, .co, .cn]

def shortName : Category → String
  | lu => "Lu" | ll => "Ll" | lt => "Lt" | lm => "Lm" | lo => "Lo" | mn => "Mn" | mc => "Mc"
  | me => "Me" | nd => "Nd" | nl => "Nl" | no => "No" | pc => "Pc" | pd => "Pd" | ps => "Ps"
  | pe => "Pe" | pi => "Pi" | pf => "Pf" | po => "Po" | sm => "Sm" | sc => "Sc" | sk => "Sk"
  | so => "So" | zs => "Zs" | zl => "Zl" | zp => "Zp" | cc => "Cc" | cf => "Cf" | cs => "Cs"
  | co => "Co" | cn => "Cn"

def ofShortName? (name : String) : Option Category := all.find? (·.shortName == name)

/-- The runs of the table: first code point and category. -/
def runs : Array (Nat × Category) :=
  ((CharSet.words categoryTable).map fun word =>
    let digits := word.takeWhile fun c => Text.isHexDigit c && !c.isUpper
    (Text.ofHex digits,
      (ofShortName? (String.ofList (word.drop digits.length))).getD .cn)).toArray

def ofCode (n : Nat) : Category :=
  (runs.getD (upTo (fun i => (runs.getD i (0, .cn)).1) n 0 runs.size - 1) (0, .cn)).2

def ofChar (c : Char) : Category := ofCode c.toNat

def set (categories : List Category) : CharSet :=
  let ends := (runs.toList.drop 1).map (·.1) ++ [maxCode + 1]
  .ofRanges <| (runs.toList.zip ends).filterMap fun ((start, category), stop) =>
    if category ∈ categories then some (start, stop - 1) else none

end Category

end Stencil.Unicode
