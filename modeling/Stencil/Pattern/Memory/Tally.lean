import Stencil.Pattern.Fault

/-!
# Tallies of memory

A compiled pattern is an automaton that reads bytes. Its states are counted as they are added, and so are
the bytes that they take, until there are too many.
-/
namespace Stencil.Pattern

/-- States so far, and the bytes that they take. -/
structure Tally where
  states : Nat
  bytes : Nat
  deriving DecidableEq, Repr

namespace Tally

def none : Tally := ⟨0, 0⟩

def stateSize : Nat := 32

def arcSize : Nat := 8

/-- Bytes that each way on takes from a state where the automaton divides. -/
def wayOnSize : Nat := 4

def addBytes (t : Tally) (n : Nat) : Option Tally :=
  if maxSize < t.bytes + n then Option.none else some ⟨t.states, t.bytes + n⟩

/-- Adds some states which take some bytes more than states do. -/
def addStates (t : Tally) (n more : Nat) : Option Tally :=
  (Tally.mk (t.states + n) t.bytes).addBytes (stateSize * n + more)

def addWays (t : Tally) (n : Nat) : Option Tally := t.addBytes (wayOnSize * n)

end Tally

end Stencil.Pattern
