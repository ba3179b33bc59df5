import Stencil.Pattern.Memory.Sets
import Stencil.Pattern.Memory.Words
import Stencil.Pattern.Node

/-!
# Memory of patterns

A pattern is compiled twice: once to read forwards, with states that save the ends of groups, and once to
read backwards. It is refused if either automaton takes too much memory. Long lists of words do without.
-/
namespace Stencil.Pattern

namespace Node

def startsWith (l : Look) : Node → Bool
  | look m => m == l
  | empty | oneOf _ => false
  | capture _ body => body.startsWith l
  | seq a b => a.startsWith l || (a.isEmpty && b.startsWith l)
  | either a b => a.startsWith l && b.startsWith l
  | repetition least _ _ body => 0 < least && body.startsWith l

def endsWith (l : Look) : Node → Bool
  | look m => m == l
  | empty | oneOf _ => false
  | capture _ body => body.endsWith l
  | seq a b => b.endsWith l || (b.isEmpty && a.endsWith l)
  | either a b => a.endsWith l && b.endsWith l
  | repetition least _ _ body => 0 < least && body.endsWith l

def word? (n : Node) : Option (List UInt8) :=
  if n.parts.isEmpty then none
  else (n.parts.mapM char?).map fun codes => Text.utf8 (codes.map Char.ofNat)

end Node

/-- A part of an automaton that was added: the tally after it, and whether it ends where the automaton
divides, so that what comes next takes one way on more. -/
structure Added where
  tally : Tally
  divides : Bool

namespace Added

def andThen (a : Added) (next : Tally → Option Added) : Option Added :=
  if a.divides then
    match a.tally.addWays 1 with
    | some t => next t
    | none => none
  else next a.tally

def close (a : Added) (states ways : Nat) (divides : Bool) : Option Added :=
  match a.tally.addStates states (Tally.wayOnSize * (ways + if a.divides then 1 else 0)) with
  | some t => some ⟨t, divides⟩
  | none => none

end Added

def addPlain (states : Nat) (t : Tally) : Option Added :=
  (t.addStates states 0).map fun t => ⟨t, false⟩

def addCopies (part : Tally → Option Added) : Nat → Added → Option Added
  | 0, a => some a
  | n + 1, a =>
    match a.andThen part with
    | some a => addCopies part n a
    | none => none

def addExactly (part : Tally → Option Added) : Nat → Tally → Option Added
  | 0, t => addPlain 1 t
  | n + 1, t =>
    match part t with
    | some a => addCopies part n a
    | none => none

/-- Adds up to `n` more copies of a part, each of which may be left out with those after it. -/
def addOptional (part : Tally → Option Added) : Nat → Added → Option Added
  | 0, a => a.close 0 0 false
  | n + 1, a =>
    match (a.close 1 2 false).bind fun a => part a.tally with
    | some a => addOptional part n a
    | none => none

def addUnbounded (part : Tally → Option Added) (consumes : Bool) : Nat → Tally → Option Added
  | 0, t =>
    if consumes then ((t.addStates 1 0).bind part).bind (·.close 0 1 true)
    else (part t).bind (·.close 3 4 false)
  | 1, t => (part t).bind (·.close 1 1 true)
  | n + 2, t =>
    match addExactly part (n + 1) t with
    | some a => (a.andThen part).bind (·.close 1 1 true)
    | none => none

def addRepeated (part : Tally → Option Added) (consumes : Bool) (least : Nat) :
    Option Nat → Tally → Option Added
  | none, t => addUnbounded part consumes least t
  | some most, t =>
    if least = 0 ∧ most = 1 then ((t.addStates 1 0).bind part).bind (·.close 1 2 false)
    else if least = most then addExactly part least t
    else
      ((addExactly part least t).bind fun a =>
        (a.tally.addStates 1 0).map fun t => { a with tally := t }).bind (addOptional part (most - least))

/-- Ends a branch of a choice: the first state of the choice leads to the branch, and the branch to the last
state. These two states come after the second branch. What is no branch, which has the number zero, stays as
it is. -/
def endBranch (number : Nat) (a : Added) : Option Added :=
  if number = 0 then some a else a.close (if number = 2 then 2 else 0) 1 false

def addWords (backward : Bool) (words : List (List UInt8)) (t : Tally) : Option Added :=
  let words := if backward then words.map List.reverse else words
  let depth := words.foldl (fun n word => max n word.length) 0
  let (states, more) := wordStates depth words
  (t.addStates (states + 1) more).map fun t => ⟨t, false⟩

/-- Adds the states of a node, which may be a branch of a choice or the rest of its branches: `number` is the
number of its first branch, or zero. -/
def Node.add (backward : Bool) : Node → Nat → Tally → Option Added
  | .empty, number, t | .look _, number, t => (addPlain 1 t).bind (endBranch number)
  | .oneOf s, number, t =>
    ((addSet backward s t).map fun t => ⟨t, false⟩).bind (endBranch number)
  | .capture _ body, number, t =>
    (if backward then body.add backward 0 t
    else ((t.addStates 1 0).bind (body.add backward 0)).bind (·.close 1 0 false)).bind
      (endBranch number)
  | .seq a b, number, t =>
    (if backward then
      match b.add backward 0 t with
      | some added => added.andThen (a.add backward 0)
      | none => none
    else
      match a.add backward 0 t with
      | some added => added.andThen (b.add backward 0)
      | none => none).bind (endBranch number)
  | .either a b, number, t =>
    match if number = 0 then (Node.either a b).branches.mapM Node.word? else none with
    | some words => addWords backward words t
    | none =>
      match a.add backward (max number 1) t with
      | some added => b.add backward (max number 1 + 1) added.tally
      | none => none
  | .repetition least most _ body, number, t =>
    (addRepeated (body.add backward 0) (!body.isNullable && !body.isHopeless) least most t).bind
      (endBranch number)

/-- Adds what comes before a pattern: nothing to speak of if each match is at an end of the text, and else a
loop that skips bytes. -/
def addStart (anchored : Bool) : Option Tally :=
  if anchored then Tally.none.addStates 1 0
  else Tally.none.addStates 3 (Tally.arcSize + 2 * Tally.wayOnSize)

def Node.fitsForward (n : Node) : Bool :=
  (((addStart (n.startsWith .textStart)).bind ((Node.capture 0 n).add false 0)).bind
    (·.close 1 0 false)).isSome

def Node.fitsBackward (n : Node) : Bool :=
  (((addStart (n.endsWith .textEnd)).bind (n.add true 0)).bind (·.close 1 0 false)).isSome

/-- From so many words on, a choice among words takes no automaton. -/
def wordListSize : Nat := 3000

def Node.isWordList (n : Node) : Bool :=
  let bs := n.branches
  wordListSize ≤ bs.length && bs.all (·.word?.isSome)

def Node.fits (n : Node) : Bool := n.isWordList || n.fitsForward && n.fitsBackward

end Stencil.Pattern
