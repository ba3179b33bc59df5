import Stencil.Unicode.CaseTable
import Stencil.Unicode.Letter

/-!
# Case mapping

The full mappings to upper and lower case, which may give several characters for one, and simple case
folding, under which two characters are equal when they differ in case only.
-/
namespace Stencil.Unicode

def CaseRun.pairs (r : CaseRun) : List (Nat × Nat) :=
  (List.range ((r.last - r.first) / r.step + 1)).map fun i =>
    (r.first + r.step * i, r.image + r.step * i)

def casePairs (runs : Array CaseRun) : Array (Nat × Nat) :=
  ((runs.toList.flatMap CaseRun.pairs).mergeSort fun x y => x.1 ≤ y.1).toArray

def upperPairs : Array (Nat × Nat) := casePairs upperRuns

def lowerPairs : Array (Nat × Nat) := casePairs lowerRuns

def foldPairs : Array (Nat × Nat) := casePairs foldRuns

def image? (pairs : Array (Nat × Nat)) (n : Nat) : Option Nat :=
  let (code, image) := pairs.getD (upTo (fun i => (pairs.getD i (0, 0)).1) n 0 pairs.size - 1) (0, 0)
  if code = n then some image else none

def upperChar (c : Char) : List Char :=
  if c.toNat < 128 then [c.toUpper]
  else match image? upperPairs c.toNat with
    | some n => [Char.ofNat n]
    | none =>
      match upperSpecials.find? (·.1 == c.toNat) with
      | some (_, codes) => codes.map Char.ofNat
      | none => [c]

/-- Capital i with a dot is the one character whose lower-case form is two characters. -/
def lowerChar (c : Char) : List Char :=
  if c.toNat < 128 then [c.toLower]
  else if c = 'İ' then ['i', '\u0307']
  else [((image? lowerPairs c.toNat).map Char.ofNat).getD c]

def upper (s : List Char) : List Char := s.flatMap upperChar

/-- Whether the first character that is not case-ignorable is cased. -/
def casedNext (s : List Char) : Bool :=
  match s.dropWhile isCaseIgnorable with
  | c :: _ => isCased c
  | [] => false

/-- Lower case of a text of which `behind` has been read, nearest character first. A capital sigma that
ends a word has a form of its own. -/
def lowerFrom (behind : List Char) : List Char → List Char
  | [] => []
  | c :: rest =>
    (if c = 'Σ' then (if casedNext behind && !casedNext rest then ['ς'] else ['σ'])
      else lowerChar c) ++ lowerFrom (c :: behind) rest

def lower (s : List Char) : List Char := lowerFrom [] s

def uppercase (s : String) : String := String.ofList (upper s.toList)

def lowercase (s : String) : String := String.ofList (lower s.toList)

end Stencil.Unicode
