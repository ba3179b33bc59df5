import Stencil.Text.Hex

/-!
# Sets of characters

A set of code points is kept as ascending ranges that neither overlap nor touch. Membership is a binary
search.
-/
namespace Stencil.Unicode

def maxCode : Nat := 0x10FFFF

def isSurrogate (n : Nat) : Bool := 0xD800 ≤ n && n ≤ 0xDFFF

/-- The number of indices below `hi` whose key is at most `n`, for keys in ascending order, given that the
keys of all indices below `lo` are: a binary search. -/
def upTo (key : Nat → Nat) (n lo hi : Nat) : Nat :=
  if _h : lo < hi then
    let mid := (lo + hi) / 2
    if key mid ≤ n then upTo key n (mid + 1) hi else upTo key n lo mid
  else lo
termination_by hi - lo

/-- A set of code points: inclusive ranges in ascending order. -/
structure CharSet where
  ranges : Array (Nat × Nat)
  deriving DecidableEq, Repr

namespace CharSet

/-- Joins a range with those after it, given in ascending order of their starts, that overlap or touch
it, and so on. -/
def joinFrom (a b : Nat) : List (Nat × Nat) → List (Nat × Nat)
  | [] => [(a, b)]
  | (c, d) :: rest => if c ≤ b + 1 then joinFrom a (max b d) rest else (a, b) :: joinFrom c d rest

def join : List (Nat × Nat) → List (Nat × Nat)
  | [] => []
  | (a, b) :: rest => joinFrom a b rest

/-- The set of all code points in some ranges, which may come in any order. -/
def ofRanges (ranges : List (Nat × Nat)) : CharSet :=
  let proper := ranges.filter fun (a, b) => a ≤ b
  ⟨(join (proper.mergeSort fun x y => x.1 ≤ y.1)).toArray⟩

def empty : CharSet := ⟨#[]⟩

def full : CharSet := ⟨#[(0, maxCode)]⟩

def single (c : Char) : CharSet := ⟨#[(c.toNat, c.toNat)]⟩

def containsCode (s : CharSet) (n : Nat) : Bool :=
  match upTo (fun i => (s.ranges.getD i (0, 0)).1) n 0 s.ranges.size with
  | 0 => false
  | i + 1 => n ≤ (s.ranges.getD i (0, 0)).2

def contains (s : CharSet) (c : Char) : Bool := s.containsCode c.toNat

def single? (s : CharSet) : Option Nat :=
  match s.ranges.toList with
  | [(a, b)] => if a = b then some a else none
  | _ => none

def union (s t : CharSet) : CharSet := ofRanges (s.ranges.toList ++ t.ranges.toList)

def unions (sets : List CharSet) : CharSet :=
  ofRanges (sets.flatMap fun s => s.ranges.toList)

def gaps (start : Nat) : List (Nat × Nat) → List (Nat × Nat)
  | [] => if start ≤ maxCode then [(start, maxCode)] else []
  | (a, b) :: rest => if start < a then (start, a - 1) :: gaps (b + 1) rest else gaps (b + 1) rest

/-- The code points outside a set, surrogates among them. -/
def complement (s : CharSet) : CharSet := ⟨(gaps 0 s.ranges.toList).toArray⟩

def trim (s : CharSet) : CharSet :=
  .ofRanges <| s.ranges.toList.map fun (a, b) =>
    (if isSurrogate a then 0xE000 else a, if isSurrogate b then 0xD7FF else b)

def inter (s t : CharSet) : CharSet := (s.complement.union t.complement).complement

def diff (s t : CharSet) : CharSet := (s.inter t.complement).trim

def symmDiff (s t : CharSet) : CharSet := (s.union t).diff (s.inter t)

def after (n : Nat) : Nat := if n = 0xD7FF then 0xE000 else n + 1

def before (n : Nat) : Nat := if n = 0xE000 then 0xD7FF else n - 1

/-- What lies between ranges, from the end of a range on. Where a range ends right before the surrogates and
the next one begins right after them, no character lies between them, and these two are taken for it. -/
def between (stop : Nat) : List (Nat × Nat) → List (Nat × Nat)
  | [] => if stop < maxCode then [(after stop, maxCode)] else []
  | (a, b) :: rest =>
    (min (after stop) (before a), max (after stop) (before a)) :: between b rest

/-- The characters outside a set, as a pattern that negates the set takes them. -/
def negate (s : CharSet) : CharSet :=
  match s.ranges.toList with
  | [] => full
  | (a, b) :: rest => ⟨((if 0 < a then [(0, before a)] else []) ++ between b rest).toArray⟩

def size (s : CharSet) : Nat := s.ranges.foldl (fun n (a, b) => n + (b + 1 - a)) 0

def words (table : String) : List (List Char) :=
  let (current, done) := table.toList.foldr
    (fun c (current, done) =>
      if c == ' ' || c == '\n' then
        ([], if current.isEmpty then done else current :: done)
      else (c :: current, done))
    ([], [])
  if current.isEmpty then done else current :: done

def pairs (table : String) : List (String × String) :=
  (words table).map fun word =>
    (String.ofList (word.takeWhile (· != ':')), String.ofList ((word.dropWhile (· != ':')).drop 1))

/-- Reads a table of code points and ranges `a-b` in hexadecimal. -/
def ofTable (table : String) : CharSet :=
  ⟨((words table).map fun word =>
      let first := word.takeWhile (· != '-')
      match word.dropWhile (· != '-') with
      | _ :: last => (Text.ofHex first, Text.ofHex last)
      | [] => (Text.ofHex first, Text.ofHex first)).toArray⟩

end CharSet

end Stencil.Unicode
