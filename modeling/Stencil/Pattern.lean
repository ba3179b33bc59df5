import Stencil.Pattern.Meaning
import Stencil.Pattern.Memory
import Stencil.Pattern.Reader
import Stencil.Pattern.Search

/-!
# Patterns

Regular expressions with leftmost matches, of which the first alternative is preferred. Places are counted
in characters.
-/
namespace Stencil

structure Pattern where
  program : Pattern.Program
  names : List (String × Nat)

namespace Pattern

/-- Compiles a pattern, unless it is malformed or takes too much memory. -/
def compile (settings : Settings) (text : String) : Except Fault Pattern := do
  let t ← Term.parse text.toList
  let (node, _) ← Node.ofTerm settings t
  if !node.fits then .error .tooLarge
  else return ⟨.ofNode node, t.names⟩

/-- A match: its ends, and the slots that were saved, the latest first. -/
structure Match where
  start : Nat
  stop : Nat
  slots : List (Nat × Nat)
  deriving DecidableEq, Repr

namespace Match

def slot? (m : Match) (slot : Nat) : Option Nat := (m.slots.find? (·.1 == slot)).map (·.2)

def group? (m : Match) (index : Nat) : Option (Nat × Nat) := do
  let start ← m.slot? (2 * index)
  let stop ← m.slot? (2 * index + 1)
  return (start, stop)

end Match

def between (text : List Char) (start stop : Nat) : List Char := (text.drop start).take (stop - start)

def Match.groupText (m : Match) (text : List Char) (index : Nat) : List Char :=
  match m.group? index with
  | some (start, stop) => between text start stop
  | none => []

def find? (p : Pattern) (text : List Char) (start : Nat) : Option Match := do
  let slots ← search p.program text start
  let m : Match := ⟨0, 0, slots⟩
  let (start, stop) ← m.group? 0
  return ⟨start, stop, slots⟩

def isMatch (p : Pattern) (text : List Char) : Bool := (p.find? text 0).isSome

/-- All matches from `start` on. An empty match where the last one ended does not count; the search then
goes on one character later. -/
def allFrom (p : Pattern) (text : List Char) : Nat → Nat → Option Nat → List Match
  | 0, _, _ => []
  | fuel + 1, start, last =>
    match p.find? text start with
    | none => []
    | some m =>
      if m.start = m.stop ∧ last = some m.stop then
        match p.find? text (start + 1) with
        | none => []
        | some m => m :: p.allFrom text fuel m.stop (some m.stop)
      else m :: p.allFrom text fuel m.stop (some m.stop)

def all (p : Pattern) (text : List Char) : List Match := p.allFrom text (text.length + 2) 0 none

/-- Puts `f m` in the place of each match `m`; the text before `place` is left out. -/
def replaceMatches (text : List Char) (f : Match → List Char) : Nat → List Match → List Char
  | place, [] => text.drop place
  | place, m :: rest => between text place m.start ++ f m ++ replaceMatches text f m.stop rest

/-- The parts of a text between matches, from `place` on. -/
def splitMatches (text : List Char) : Nat → List Match → List (List Char)
  | place, [] => [text.drop place]
  | place, m :: rest => between text place m.start :: splitMatches text m.stop rest

/-- Splits a text at the first `limit - 1` matches, or at all matches where there is no limit. -/
def split (p : Pattern) (text : List Char) (limit : Option Nat) : List (List Char) :=
  let ms := p.all text
  splitMatches text 0 (match limit with
    | some n => ms.take (n - 1)
    | none => ms)

end Pattern

end Stencil
