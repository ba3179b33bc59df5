import Std.Data.HashMap
import Stencil.Pattern.Memory.Tally
import Stencil.Unicode.ByteRanges

/-!
# Memory of sets

The states that a set of characters takes. States that do the same are shared as far as they are remembered:
a memory has so many slots, the slot of a state follows from what it does, and a later state takes the slot
of an earlier one.
-/
namespace Stencil.Pattern

open Stencil.Unicode

structure Arc where
  range : ByteRange
  target : Nat
  deriving DecidableEq, Repr

def mix (hash : UInt64) (n : Nat) : UInt64 := (hash ^^^ n.toUInt64) * 1099511628211

def mixStart : UInt64 := 14695981039346656037

/-- States by what they do, at most one for each slot. -/
structure Remembered (α : Type) where
  slots : Std.HashMap Nat (α × Nat)

namespace Remembered

def none {α : Type} : Remembered α := ⟨∅⟩

def find? {α : Type} [DecidableEq α] (r : Remembered α) (slot : Nat) (what : α) : Option Nat :=
  match r.slots[slot]? with
  | some (known, state) => if known = what then some state else Option.none
  | Option.none => Option.none

def insert {α : Type} (r : Remembered α) (slot : Nat) (what : α) (state : Nat) : Remembered α :=
  ⟨r.slots.insert slot (what, state)⟩

end Remembered

def arcSlot (arc : Arc) : Nat :=
  let hash := mix (mix (mix mixStart arc.target) arc.range.first.toNat) arc.range.last.toNat
  hash.toNat % 1000

def addBackward : List ByteRange → Nat → Remembered Arc → Tally → Option (Remembered Arc × Tally)
  | [], _, known, t => (t.addWays 1).map fun t => (known, t)
  | range :: rest, target, known, t =>
    let arc : Arc := ⟨range, target⟩
    let slot := arcSlot arc
    match known.find? slot arc with
    | some state => addBackward rest state known t
    | none =>
      match t.addStates 1 0 with
      | some t' => addBackward rest t.states (known.insert slot arc t.states) t'
      | none => none

def addAllBackward (target : Nat) :
    List (List ByteRange) → Remembered Arc → Tally → Option Tally
  | [], _, t => some t
  | s :: rest, known, t =>
    match addBackward s target known t with
    | some (known, t) => addAllBackward target rest known t
    | none => none

/-- A state that is open: the ranges that lead on, and the last one, whose target is not known yet. -/
structure OpenState where
  arcs : Array Arc
  last : Option ByteRange

def OpenState.close (o : OpenState) (target : Nat) : OpenState :=
  match o.last with
  | some range => ⟨o.arcs.push ⟨range, target⟩, none⟩
  | none => o

def stateSlot (arcs : Array Arc) : Nat :=
  let hash := arcs.foldl
    (fun hash arc =>
      mix (mix (mix hash arc.range.first.toNat) arc.range.last.toNat) arc.target) mixStart
  hash.toNat % 10000

/-- The state of a set that is being added: known states, open states with the deepest one first, and the
tally. -/
structure Growth where
  known : Remembered (Array Arc)
  opened : List OpenState
  tally : Tally

namespace Growth

def settle (g : Growth) (arcs : Array Arc) : Option (Nat × Growth) :=
  let slot := stateSlot arcs
  match g.known.find? slot arcs with
  | some state => some (state, g)
  | none =>
    (g.tally.addStates 1 (Tally.arcSize * arcs.size)).map fun t =>
      (g.tally.states, { g with known := g.known.insert slot arcs g.tally.states, tally := t })

/-- Closes the open states but the first `keep + 1`, and the last range of the deepest one that stays. -/
def closeTo (keep target : Nat) (g : Growth) : List OpenState → Option Growth
  | [] => some { g with opened := [] }
  | o :: rest =>
    if keep + 1 ≤ rest.length then
      match g.settle (o.close target).arcs with
      | some (state, g) => closeTo keep state g rest
      | none => none
    else some { g with opened := o.close target :: rest }

/-- How many of the open states a sequence passes by the same ranges. -/
def sharedWith : List ByteRange → List OpenState → Nat
  | range :: rest, o :: others => if o.last = some range then sharedWith rest others + 1 else 0
  | _, _ => 0

def openAll (sequence : List ByteRange) (opened : List OpenState) : List OpenState :=
  match sequence, opened with
  | range :: rest, o :: others =>
    rest.foldl (fun opened range => ⟨#[], some range⟩ :: opened) ({ o with last := some range } :: others)
  | _, opened => opened

def addAll (target : Nat) : List (List ByteRange) → Growth → Option Tally
  | [], g =>
    match g.closeTo 0 target g.opened with
    | some g =>
      match g.opened with
      | o :: _ => (g.settle o.arcs).map fun (_, g) => g.tally
      | [] => some g.tally
    | none => none
  | s :: rest, g =>
    let shared := sharedWith s g.opened.reverse
    match g.closeTo shared target g.opened with
    | some g => addAll target rest { g with opened := openAll (s.drop shared) g.opened }
    | none => none

end Growth

def codeWidth (n : Nat) : Nat :=
  if n < 0x80 then 1 else if n < 0x800 then 2 else if n < 0x10000 then 3 else 4

/-- Adds the states of a set. A single character takes a state for each byte, and a set within ASCII takes
two states. -/
def addSet (backward : Bool) (s : CharSet) (t : Tally) : Option Tally :=
  match s.single? with
  | some n => t.addStates (codeWidth n) 0
  | none =>
    if s.ranges.all fun (_, b) => b < 0x80 then
      t.addStates 2 (Tally.arcSize * s.ranges.size)
    else if backward then
      match t.addStates 2 0 with
      | some t' => addAllBackward (t.states + 1) s.byteSequences .none t'
      | none => none
    else
      match t.addStates 1 0 with
      | some t' => Growth.addAll t.states s.byteSequences ⟨.none, [⟨#[], none⟩], t'⟩
      | none => none

end Stencil.Pattern
