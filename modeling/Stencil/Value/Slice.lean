import Stencil.Decimal.Numeral
import Stencil.Text.Search
import Stencil.Value.InlineList

/-!
# Slices

A slice `start:stop:step` picks items at regular distances. Each part is a word of 64 bits and may be
missing; negative bounds count from the end.
-/
namespace Stencil

structure Slice where
  startWord : Option Int64
  stopWord : Option Int64
  stepWord : Option Int64
  deriving DecidableEq, Repr

namespace Slice

def start (s : Slice) : Option Int := s.startWord.map Int64.toInt

def stop (s : Slice) : Option Int := s.stopWord.map Int64.toInt

def step (s : Slice) : Option Int := s.stepWord.map Int64.toInt

def reverse : Slice := ⟨none, none, some (-1)⟩

/-- Reads a bound: an integer of 64 bits, or a floating-point numeral without its fraction. -/
def index? (part : List Char) : Option Int64 :=
  let t := Text.trim part
  if t = [] then none
  else
    ((Decimal.signed? 64 t).or
      ((Decimal.float? t).map fun x =>
        Decimal.toIntClamped x (-(Int.pow 2 63)) (Int.pow 2 63 - 1))).map Int64.ofInt

def ofParts (parts : List (List Char)) : Slice :=
  let part (i : Nat) : Option Int64 := parts[i]?.bind index?
  ⟨part 0, part 1, part 2⟩

/-- Reads one argument with colons, or up to three arguments. -/
def parse (arguments : List String) : Slice :=
  match arguments with
  | [single] =>
    if ':' ∈ single.toList then ofParts (Text.splitUpTo [':'] 3 single.toList)
    else ofParts [single.toList]
  | _ => ofParts (arguments.map String.toList)

/-- A slice fitted to a length: first index, the index it stops before, and step. -/
structure Bounds where
  startWord : Int64
  stopWord : Int64
  stepWord : Int64
  deriving DecidableEq, Repr

namespace Bounds

def start (b : Bounds) : Int := b.startWord.toInt

def stop (b : Bounds) : Int := b.stopWord.toInt

def step (b : Bounds) : Int := b.stepWord.toInt

end Bounds

/-- A bound as an index. A negative one has the length added and is at least zero. -/
def fromEnd (len i : Int64) : Int64 := if i < 0 then max (i + len) 0 else i

def stepOrOne (s : Slice) : Int64 := s.stepWord.getD 1

/-- The first index, which is at most the length and going down at most that of the last item. -/
def startWithin (s : Slice) (len : Int64) : Int64 :=
  let start := min (match s.startWord with
    | some i => fromEnd len i
    | none => if s.stepOrOne < 0 then len - 1 else 0) len
  if s.stepOrOne < 0 ∧ len ≤ start then len - 1 else start

def stopWithin (s : Slice) (len : Int64) : Int64 :=
  min (match s.stopWord with
    | some i => fromEnd len i
    | none => if s.stepOrOne < 0 then -1 else len) len

/-- A step of zero, or one that leads away from `stop`, leaves nothing. -/
def bounds (s : Slice) (length : Nat) : Bounds :=
  let len := Int64.ofNat length
  let start := s.startWithin len
  let stop := s.stopWithin len
  if s.stepOrOne = 0 then ⟨start, start, 1⟩
  else if (0 < s.stepOrOne ∧ stop < start) ∨ (s.stepOrOne < 0 ∧ start < stop) then
    ⟨start, start, s.stepOrOne⟩
  else ⟨start, stop, s.stepOrOne⟩

def checkedAdd? (i step : Int64) : Option Int64 :=
  let sum := i.toInt + step.toInt
  if Int64.minValue.toInt ≤ sum ∧ sum ≤ Int64.maxValue.toInt then some (Int64.ofInt sum) else none

theorem toInt_of_checkedAdd? {i step next : Int64} (h : checkedAdd? i step = some next) :
    next.toInt = i.toInt + step.toInt := by
  rw [checkedAdd?] at h
  split at h
  · next hfits =>
    obtain rfl := Option.some.inj h
    exact Int64.toInt_ofInt_of_le hfits.1 (Int.lt_of_le_of_lt hfits.2 (by decide))
  · simp at h

theorem checkedAdd?_eq_none {i step : Int64} (h : checkedAdd? i step = none) :
    i.toInt + step.toInt < Int64.minValue.toInt ∨ Int64.maxValue.toInt < i.toInt + step.toInt := by
  rw [checkedAdd?] at h
  split at h
  · simp at h
  · omega

def Before (stop step i : Int64) : Prop := (0 < step ∧ i < stop) ∨ (step < 0 ∧ stop < i)

instance (stop step i : Int64) : Decidable (Before stop step i) :=
  inferInstanceAs (Decidable ((0 < step ∧ i < stop) ∨ (step < 0 ∧ stop < i)))

/-- The indices from `i` on that lie before `stop`, as long as they are words. -/
def stride (stop step i : Int64) : List Int64 :=
  if _h : Before stop step i then
    i :: match _hn : checkedAdd? i step with
      | some next => stride stop step next
      | none => []
  else []
termination_by (if 0 < step then stop.toInt - i.toInt else i.toInt - stop.toInt).toNat
decreasing_by
  have hnext := toInt_of_checkedAdd? _hn
  rcases _h with ⟨hstep, hi⟩ | ⟨hstep, hi⟩ <;>
    simp only [Int64.lt_iff_toInt_lt, Int64.toInt_zero] at hstep hi ⊢ <;> split <;> omega

def apply {α : Type} (s : Slice) (items : List α) : List α :=
  let b := s.bounds items.length
  if b.stepWord = 1 then (items.drop b.start.toNat).take (b.stop.toNat - b.start.toNat)
  else
    let array := items.toArray
    (stride b.stopWord b.stepWord b.startWord).filterMap fun i =>
      if 0 ≤ i then array[i.toInt.toNat]? else none

end Slice

/-- The slice of a list, of a text that is an inline list, or of the characters of any other text. -/
def Value.slice (s : Slice) (v : Value) : Value :=
  match v.toList?, v with
  | some items, _ => .list (s.apply items)
  | none, .text t => .text (String.ofList (s.apply t.toList))
  | none, _ => v

end Stencil
