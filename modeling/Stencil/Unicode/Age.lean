import Stencil.Unicode.AgeTable
import Stencil.Unicode.CharSet

/-!
# Ages of characters

The edition of the standard with which each character was assigned.
-/
namespace Stencil.Unicode

def editions : List String :=
  ["1.1", "2.0", "2.1", "3.0", "3.1", "3.2", "4.0", "4.1", "5.0", "5.1", "5.2", "6.0", "6.1", "6.2",
    "6.3", "7.0", "8.0", "9.0", "10.0", "11.0", "12.0", "12.1", "13.0", "14.0", "15.0", "15.1", "16.0"]

/-- The two loose names of an edition, such as `6.0` and `v60`. -/
def editionNames (edition : String) : List String :=
  [edition, "v" ++ String.ofList (edition.toList.filter (· != '.'))]

/-- The runs of the table: first code point and edition. -/
def ageRuns : List (Nat × String) :=
  (CharSet.pairs ageTable).map fun (start, edition) => (Text.ofHex start.toList, edition)

def assignedBy (chosen : List String) : CharSet :=
  .ofRanges <| (ageRuns.zip ((ageRuns.drop 1).map (·.1) ++ [maxCode + 1])).filterMap
    fun ((start, edition), stop) => if edition ∈ chosen then some (start, stop - 1) else none

/-- The characters that were assigned when an edition appeared: its own and those of the editions before
it. -/
def ageSet? (name : String) : Option CharSet :=
  match editions.span fun edition => name ∉ editionNames edition with
  | (_, []) => none
  | (earlier, edition :: _) => some (assignedBy (earlier ++ [edition]))

end Stencil.Unicode
