/-!
# Memory of words

The states of a choice among words. Words that begin alike share the states of what they have in common. A
word that ends where others go on is preferred to those that come after it, which therefore do not share
states with those before it.
-/
namespace Stencil.Pattern

def segments {α : Type} : List (List α) → List (List (List α))
  | [] => [[]]
  | [] :: rest => [] :: segments rest
  | word :: rest =>
    match segments rest with
    | first :: others => (word :: first) :: others
    | [] => [[word]]

/-- Leaves out the words that end at once and are not the first to do so, as long as no other word came. -/
def dropRepeatedEnds {α : Type} : List (List α) → List (List α)
  | [] :: rest => [] :: rest.dropWhile List.isEmpty
  | words => words

/-- What is left of the words by their first items, each item in the place where it first occurs. -/
def byFirst {α : Type} [DecidableEq α] (words : List (List α)) : List (List (List α)) :=
  let firsts := (words.filterMap List.head?).eraseDups
  firsts.map fun a => (words.filter fun word => word.head? = some a).map (·.drop 1)

/-- The states that words take from a common place on, and the bytes that these take more than states do. Words
are at most `depth` items long. -/
def wordStates {α : Type} [DecidableEq α] : Nat → List (List α) → Nat × Nat
  | 0, _ => (0, 0)
  | depth + 1, words =>
    let parts := segments (dropRepeatedEnds words)
    let filled := parts.filter (!·.isEmpty)
    let groups := filled.map byFirst
    let own := groups.map fun g => if g.length ≤ 1 then 0 else 8 * g.length
    let inner := groups.flatten.filter (·.any (!·.isEmpty)) |>.map (wordStates depth)
    (1 + filled.length + (inner.map (·.1)).sum,
      4 * (filled.length + (parts.length - 1)) + own.sum + (inner.map (·.2)).sum)

end Stencil.Pattern
