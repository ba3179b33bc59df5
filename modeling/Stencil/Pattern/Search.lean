import Stencil.Pattern.Program

/-!
# Searching with a program

A machine reads the text once. At each place it holds threads in order of preference, at most one for each
instruction; threads that started earlier come first. A thread that accepts ends those after it.
-/
namespace Stencil.Pattern

/-- A thread: its next instruction, and the slots that it saved, the latest first. -/
structure Thread where
  pc : Nat
  slots : List (Nat × Nat)

/-- Follows threads, in order of preference, to instructions that take a character or accept. `seen` marks
the instructions that a thread has come to at this place already. Each instruction adds two threads at most,
once. -/
def follow (p : Program) (before after : Option Char) (place : Nat) :
    Nat → List Thread → Array Bool → List Thread
  | 0, _, _ => []
  | _ + 1, [], _ => []
  | fuel + 1, t :: rest, seen =>
    if seen.getD t.pc true then follow p before after place fuel rest seen
    else
      let seen := seen.setIfInBounds t.pc true
      match p[t.pc]? with
      | some (.jump target) => follow p before after place fuel ({ t with pc := target } :: rest) seen
      | some (.split first second) =>
        follow p before after place fuel ({ t with pc := first } :: { t with pc := second } :: rest) seen
      | some (.save slot) =>
        follow p before after place fuel (⟨t.pc + 1, (slot, place) :: t.slots⟩ :: rest) seen
      | some (.look l) =>
        follow p before after place fuel
          (if l.holds before after then ⟨t.pc + 1, t.slots⟩ :: rest else rest) seen
      | some _ => t :: follow p before after place fuel rest seen
      | none => follow p before after place fuel rest seen

/-- The threads that take a character, and the slots of the first thread that accepts, which ends the threads
after it. -/
def advance (p : Program) (next : Option Char) :
    List Thread → List Thread × Option (List (Nat × Nat))
  | [] => ([], none)
  | t :: rest =>
    match p[t.pc]? with
    | some .accept => ([], some t.slots)
    | some (.oneOf s) =>
      let (threads, found) := advance p next rest
      if next.any s.contains then (⟨t.pc + 1, t.slots⟩ :: threads, found) else (threads, found)
    | _ => advance p next rest

/-- Reads the text from a place on. A new thread starts at each place until one has accepted. -/
def scan (p : Program) (before : Option Char) (place : Nat) (threads : List Thread)
    (best : Option (List (Nat × Nat))) (text : List Char) : Option (List (Nat × Nat)) :=
  let started := if best.isNone then threads ++ [⟨0, []⟩] else threads
  let ready := follow p before text.head? place (started.length + 2 * p.size + 1) started
    (Array.replicate p.size false)
  let (threads, found) := advance p text.head? ready
  let best := found.or best
  match text with
  | [] => best
  | c :: rest =>
    if threads.isEmpty && best.isSome then best else scan p (some c) (place + 1) threads best rest

/-- Slots of the leftmost match that starts at or after a place; of several the preferred one. -/
def search (p : Program) (text : List Char) (start : Nat) : Option (List (Nat × Nat)) :=
  if text.length < start then none
  else
    let before := if start = 0 then none else text[start - 1]?
    scan p before start [] none (text.drop start)

end Stencil.Pattern
