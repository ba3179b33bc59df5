/-!
# Ordinals

The suffix that makes an English ordinal of a number.
-/
namespace Stencil.Text

/-- By the last digit, except that numbers ending in 11, 12 and 13 take `th`. -/
def ordinalSuffix (n : Int) : String :=
  let ones := n.natAbs % 10
  let tens := n.natAbs / 10 % 10
  if tens = 1 then "th"
  else if ones = 1 then "st"
  else if ones = 2 then "nd"
  else if ones = 3 then "rd"
  else "th"

end Stencil.Text
