import Stencil.Pattern.Node

/-!
# Programs

A pattern as instructions for a machine that follows several threads at once. Where a thread splits, its
first way is preferred.
-/
namespace Stencil.Pattern

open Stencil.Unicode

/-- An instruction; unless it says otherwise, a thread goes on with the next one. -/
inductive Instruction where
  /-- Takes a character of the set. -/
  | oneOf (s : CharSet)
  | look (l : Look)
  /-- Saves the place. -/
  | save (slot : Nat)
  | split (first second : Nat)
  | jump (target : Nat)
  | accept
  deriving Repr, Inhabited

abbrev Program := Array Instruction

namespace Node

def length : Node → Nat
  | empty => 0
  | oneOf _ | look _ => 1
  | capture _ body => body.length + 2
  | seq a b => a.length + b.length
  | either a b => a.length + b.length + 2
  | repetition least most _ body =>
    match most with
    | some most => least * body.length + (most - least) * (body.length + 1)
    | none => if least = 0 then body.length + 2 else least * body.length + 1

def copies (n length base : Nat) (code : Nat → List Instruction) : List Instruction :=
  (List.range n).flatMap fun i => code (base + i * length)

def fork (greedy : Bool) (body after : Nat) : Instruction :=
  if greedy then .split body after else .split after body

/-- The code of a node, placed at `base`. What may match the empty text is repeated as one or more times,
optionally, which keeps the order of preference. -/
def code (base : Nat) : Node → List Instruction
  | empty => []
  | oneOf s => [.oneOf s]
  | look l => [.look l]
  | capture index body => .save (2 * index) :: body.code (base + 1) ++ [.save (2 * index + 1)]
  | seq a b =>
    a.code base ++ b.code (base + a.length)
  | either a b =>
    let start := base + 1 + a.length + 1
    .split (base + 1) start :: a.code (base + 1) ++ .jump (start + b.length) :: b.code start
  | repetition least most greedy body =>
    let length := body.length
    match most with
    | some most =>
      let start := base + least * length
      let stop := start + (most - least) * (length + 1)
      copies least length base body.code
        ++ copies (most - least) (length + 1) start
          fun at_ => fork greedy (at_ + 1) stop :: body.code (at_ + 1)
    | none =>
      if least = 0 then
        if body.isNullable then
          fork greedy (base + 1) (base + length + 2)
            :: body.code (base + 1) ++ [fork greedy (base + 1) (base + length + 2)]
        else fork greedy (base + 1) (base + length + 2) :: body.code (base + 1) ++ [.jump base]
      else
        let last := base + (least - 1) * length
        copies least length base body.code ++ [fork greedy last (last + length + 1)]

end Node

/-- The program of a node: it saves the ends of the match in the first two slots. -/
def Program.ofNode (n : Node) : Program := ((Node.capture 0 n).code 0 ++ [Instruction.accept]).toArray

end Stencil.Pattern
