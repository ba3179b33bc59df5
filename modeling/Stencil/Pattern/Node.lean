import Stencil.Pattern.Look

/-!
# Nodes of patterns

A pattern with its flags resolved: sets of characters, conditions on places, groups that are saved,
sequences, choices and repetitions. `sequence` and `choice` bring nodes to a normal form: sequences and
choices hang to the right and hold no further ones as their first parts, characters that stand for
themselves are joined to words, choices among characters are sets, and what all branches of a choice begin
with stands in front of it.
-/
namespace Stencil.Pattern

open Stencil.Unicode

/-- A pattern with its flags resolved. A character that stands for itself is a set of one. -/
inductive Node where
  | empty
  | oneOf (s : CharSet)
  | look (l : Look)
  | capture (index : Nat) (body : Node)
  | seq (first second : Node)
  | either (first second : Node)
  | repetition (least : Nat) (most : Option Nat) (greedy : Bool) (body : Node)
  deriving DecidableEq, Repr

namespace Node

def isEmpty : Node → Bool
  | empty | look _ => true
  | oneOf _ => false
  | capture _ body => body.isEmpty
  | seq a b | either a b => a.isEmpty && b.isEmpty
  | repetition _ most _ body => body.isEmpty || most == some 0

def isNullable : Node → Bool
  | empty | look _ => true
  | oneOf _ => false
  | capture _ body => body.isNullable
  | seq a b => a.isNullable && b.isNullable
  | either a b => a.isNullable || b.isNullable
  | repetition least _ _ body => least == 0 || body.isNullable

/-- Whether a node holds an empty set where the shortest match is asked for, so that none can be told. -/
def isHopeless : Node → Bool
  | empty | look _ => false
  | oneOf s => s.ranges.isEmpty
  | capture _ body | repetition _ _ _ body => body.isHopeless
  | seq a b | either a b => a.isHopeless || b.isHopeless

def char? : Node → Option Nat
  | oneOf s => s.single?
  | _ => none

def parts : Node → List Node
  | seq a b => a :: b.parts
  | empty => []
  | n => [n]

def branches : Node → List Node
  | either a b => a :: b.branches
  | n => [n]

def ofParts : List Node → Node
  | [] => empty
  | [n] => n
  | n :: rest => seq n (ofParts rest)

def ofBranches : List Node → Node
  | [] => empty
  | [n] => n
  | n :: rest => either n (ofBranches rest)

def sequence (ns : List Node) : Node := ofParts (ns.flatMap parts)

/-- Joins the characters that stand for themselves to the words that they make; each other part stands
alone. -/
def words : List Node → List (List Node)
  | [] => []
  | n :: rest =>
    match words rest with
    | (m :: word) :: others =>
      if n.char?.isSome && m.char?.isSome then (n :: m :: word) :: others
      else [n] :: (m :: word) :: others
    | others => [n] :: others

/-- The set of branches all of which are single characters, or all of which are other sets. -/
def unionOf? (bs : List Node) : Option CharSet :=
  let sets := bs.filterMap fun
    | oneOf s => some s
    | _ => none
  if sets.length = bs.length ∧ (bs.all (·.char?.isSome) ∨ bs.all (·.char?.isNone)) then
    some (.unions sets)
  else none

/-- A choice of which no branch is a choice itself. Choices among sets are sets. -/
def choiceOf (bs : List Node) : Node :=
  match bs with
  | [n] => n
  | _ =>
    match unionOf? bs with
    | some s => oneOf s
    | none => ofBranches bs

def commonStart {α : Type} [DecidableEq α] : List α → List α → List α
  | a :: s, b :: t => if a = b then a :: commonStart s t else []
  | _, _ => []

/-- What all branches begin with, where each branch has several words or other parts. -/
def sharedStart (bs : List (List (List Node))) : List (List Node) :=
  match bs with
  | [] => []
  | b :: rest => if (b :: rest).all (2 ≤ ·.length) then rest.foldl commonStart b else []

def choice (ns : List Node) : Node :=
  let bs := ns.flatMap branches
  if bs.length ≤ 1 ∨ (unionOf? bs).isSome then choiceOf bs
  else
    let split := bs.map fun b => words b.parts
    let shared := sharedStart split
    if shared.isEmpty then ofBranches bs
    else
      let ends := split.map fun b => ofParts (b.drop shared.length).flatten
      sequence (shared.flatten ++ [choiceOf (ends.flatMap branches)])

/-- A repetition. What matches the empty text only is not repeated. -/
def repeated (least : Nat) (most : Option Nat) (greedy : Bool) (body : Node) : Node :=
  let (least, most) :=
    if body.isEmpty then (min least 1, some (min (most.getD 1) 1)) else (least, most)
  if least = 0 ∧ most = some 0 then empty
  else if least = 1 ∧ most = some 1 then body
  else repetition least most greedy body

end Node

end Stencil.Pattern
