import Stencil.Unicode.Case
import Stencil.Unicode.CharSet

/-!
# Sets closed under case folding

The characters that differ in case only from one in a set.
-/
namespace Stencil.Unicode.CharSet

/-- Adds to a set all characters that have the same simple case folding as one in it. -/
def closeCase (s : CharSet) : CharSet :=
  let pairs := foldPairs.toList
  let touched := pairs.filter fun (code, image) => s.containsCode code || s.containsCode image
  let images := ofRanges (touched.map fun (_, image) => (image, image))
  let related := pairs.filter fun (_, image) => images.containsCode image
  unions [s, images, ofRanges (related.map fun (code, _) => (code, code))]

def closeAsciiCase (s : CharSet) : CharSet :=
  let letters := (List.range 26).flatMap fun i =>
    if s.containsCode (0x41 + i) || s.containsCode (0x61 + i) then
      [(0x41 + i, 0x41 + i), (0x61 + i, 0x61 + i)]
    else []
  s.union (ofRanges letters)

end Stencil.Unicode.CharSet
