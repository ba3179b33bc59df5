import Stencil.Unicode.BreakTable

/-!
# Text segmentation

The classes by which the ends of grapheme clusters, words and sentences are found.
-/
namespace Stencil.Unicode

/-- Syllables of Hangul without a final consonant: the first of each row of 28. -/
def openSyllables : CharSet :=
  .ofRanges ((List.range 399).map fun i => (0xAC00 + 28 * i, 0xAC00 + 28 * i))

def closedSyllables : CharSet :=
  .ofRanges ((List.range 399).map fun i => (0xAC00 + 28 * i + 1, 0xAC00 + 28 * i + 27))

def entrySet? (entries : List PropertyEntry) (name : String) : Option CharSet :=
  (entries.find? (name ∈ ·.names)).map PropertyEntry.set

def graphemeSet? (name : String) : Option CharSet :=
  if name = "lv" then some openSyllables
  else if name = "lvt" then some closedSyllables
  else entrySet? graphemeEntries name

def wordClassSet? (name : String) : Option CharSet := entrySet? wordEntries name

def sentenceSet? (name : String) : Option CharSet := entrySet? sentenceEntries name

end Stencil.Unicode
