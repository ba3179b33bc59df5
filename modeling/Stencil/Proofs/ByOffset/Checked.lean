import Stencil.Proofs.Offsets

/-!
# Reading by byte offsets

The readers of tags know a place in a text by what lies ahead of it. Here a place is a byte offset, as it is where a
text is kept as bytes. What lies ahead is then a slice, which faults past the end and inside a character, and a loop is
made of rounds, each of which has to move on.
-/
namespace Stencil.ByOffset

open Stencil.Text

inductive Fault where
  /-- A slice out of order, past the end or through a character. -/
  | slice
  /-- A number below zero. -/
  | underflow
  /-- A loop that stays where it is. -/
  | stuck
  deriving DecidableEq, Repr

abbrev Checked := Except Fault

def minus (m n : Nat) : Checked Nat := if n ≤ m then pure (m - n) else throw .underflow

theorem minus_of_le {m n : Nat} (h : n ≤ m) : minus m n = pure (m - n) := if_pos h

def ahead (text : String) (pos : Nat) : Checked (List Char) :=
  match splitAtByte pos text.toList with
  | some (_, rest) => pure rest
  | none => throw .slice

def sliceFrom (text : String) (start : Nat) : Checked String := do
  return String.ofList (← ahead text start)

def slice (text : String) (start stop : Nat) : Checked String :=
  match (splitAtByte stop text.toList).bind fun (front, _) => splitAtByte start front with
  | some (_, piece) => pure (String.ofList piece)
  | none => throw .slice

/-- The items of a list between two places, which fault as a slice of a text does. -/
def range {α : Type} (items : List α) (start stop : Nat) : Checked (List α) :=
  if start ≤ stop ∧ stop ≤ items.length then pure ((items.drop start).take (stop - start)) else throw .slice

def item {α : Type} (items : List α) (i : Nat) : Checked α :=
  match items[i]? with
  | some a => pure a
  | none => throw .slice

section Lists

variable {α : Type} {items : List α} {start stop : Nat}

theorem range_of_le (hstart : start ≤ stop) (hstop : stop ≤ items.length) :
    range items start stop = pure ((items.drop start).take (stop - start)) := if_pos ⟨hstart, hstop⟩

theorem range_front (hstop : stop ≤ items.length) : range items 0 stop = pure (items.take stop) :=
  range_of_le (Nat.zero_le stop) hstop

theorem range_back (hstart : start ≤ items.length) : range items start items.length = pure (items.drop start) := by
  rw [range_of_le hstart (Nat.le_refl _), List.take_of_length_le (Nat.le_of_eq List.length_drop)]

theorem item_of_lt {i : Nat} (h : i < items.length) : item items i = pure items[i] := by
  rw [item, List.getElem?_eq_getElem h]

theorem item_of_drop {a : α} {rest : List α} (h : items.drop start = a :: rest) : item items start = pure a := by
  rw [item, ← List.head?_drop, h]
  rfl

end Lists

section Slices

variable {text : String} {rest piece after : List Char}

@[simp] theorem ahead_offsetOf (h : rest <:+ text.toList) : ahead text (offsetOf text rest) = pure rest := by
  obtain ⟨front, -, hsplit⟩ := splitAtByte_offsetOf h
  rw [ahead, hsplit]

theorem sliceFrom_offsetOf (h : rest <:+ text.toList) :
    sliceFrom text (offsetOf text rest) = pure (String.ofList rest) := by
  rw [sliceFrom, ahead_offsetOf h]
  rfl

theorem slice_offsetOf (h : piece ++ after <:+ text.toList) :
    slice text (offsetOf text (piece ++ after)) (offsetOf text after) = pure (String.ofList piece) := by
  obtain ⟨front, hfront⟩ := h
  have hbehind : text.toList = front ++ piece ++ after := by rw [List.append_assoc, hfront]
  rw [slice, offsetOf_of_append hbehind, offsetOf_of_append hfront.symm, hbehind, splitAtByte_append]
  simp only [Option.bind_some, splitAtByte_append]

theorem slice_front (htext : text.toList = piece ++ rest) :
    slice text 0 (offsetOf text rest) = pure (String.ofList piece) := by
  have hwhole : piece ++ rest <:+ text.toList := htext ▸ List.suffix_rfl
  have h := slice_offsetOf hwhole
  rwa [← htext, offsetOf_toList] at h

/-- There is a slice exactly from one boundary of a character to another one at the same place or further on. -/
theorem exists_slice_iff {start stop : Nat} :
    (∃ s, slice text start stop = pure s) ↔ start ≤ stop ∧ IsBoundary text start ∧ IsBoundary text stop := by
  constructor
  · rintro ⟨s, h⟩
    rw [slice] at h
    split at h
    · next front' piece hsplit =>
      obtain ⟨⟨front, rest⟩, hfront, hpiece⟩ := Option.bind_eq_some_iff.mp hsplit
      obtain ⟨htext, rfl⟩ := splitAtByte_eq_some_iff.mp hfront
      obtain ⟨hfront', rfl⟩ := splitAtByte_eq_some_iff.mp hpiece
      have hbehind : text.toList = front' ++ (piece ++ rest) := by rw [htext, hfront', List.append_assoc]
      have hle := byteLength_le_of_prefix (hfront' ▸ List.prefix_append front' piece)
      exact ⟨hle, isBoundary_of_append hbehind, isBoundary_of_append htext⟩
    · cases h
  · rintro ⟨hle, hstart, hstop⟩
    obtain ⟨s, hs, rfl⟩ := hstart.exists_offsetOf
    obtain ⟨t, ht, rfl⟩ := hstop.exists_offsetOf
    have hlength : t.length ≤ s.length :=
      Nat.not_lt.mp fun hlt => Nat.not_lt.mpr hle ((offsetOf_lt_iff ht hs).mpr hlt)
    obtain ⟨piece, rfl⟩ := List.suffix_of_suffix_length_le ht hs hlength
    exact ⟨_, slice_offsetOf hs⟩

end Slices

def CharAt (text : String) (offset : Nat) (c : Char) : Prop :=
  ∃ front rest, text.toList = front ++ c :: rest ∧ byteLength front = offset

theorem charAt_iff {text : String} {offset : Nat} {c : Char} :
    CharAt text offset c ↔ ((splitAtByte offset text.toList).bind fun (_, rest) => rest.head?) = some c := by
  simp only [Option.bind_eq_some_iff, Prod.exists, splitAtByte_eq_some_iff, List.head?_eq_some_iff]
  constructor
  · rintro ⟨front, rest, htext, hoffset⟩
    exact ⟨front, c :: rest, ⟨htext, hoffset⟩, rest, rfl⟩
  · rintro ⟨front, -, ⟨htext, hoffset⟩, rest, rfl⟩
    exact ⟨front, rest, htext, hoffset⟩

instance (text : String) (offset : Nat) (c : Char) : Decidable (CharAt text offset c) :=
  decidable_of_iff' _ charAt_iff

theorem CharAt.mem {text : String} {offset : Nat} {c : Char} (h : CharAt text offset c) : c ∈ text.toList := by
  obtain ⟨front, rest, htext, -⟩ := h
  simp [htext]

theorem charAt_offsetOf {text : String} {c : Char} {rest : List Char} (h : c :: rest <:+ text.toList) :
    CharAt text (offsetOf text (c :: rest)) c := by
  obtain ⟨front, hfront⟩ := h
  exact ⟨front, rest, hfront.symm, (offsetOf_of_append hfront.symm).symm⟩

theorem CharAt.isBoundary_next {text : String} {offset : Nat} {c : Char} (h : CharAt text offset c) :
    IsBoundary text (offset + c.utf8Size) := by
  obtain ⟨front, rest, htext, rfl⟩ := h
  refine isBoundary_iff.mpr ⟨front ++ [c], rest, by rw [htext, List.append_assoc]; rfl, ?_⟩
  rw [byteLength_append]
  rfl

inductive Round (σ ρ : Type) where
  | again (pos : Nat) (state : σ)
  | done (result : ρ)

section Loops

variable {σ ρ : Type}

/-- Runs rounds over a text until one ends the loop. The others have to move on, within the text. -/
def loop (text : String) (round : Nat → σ → Checked (Round σ ρ)) (pos : Nat) (state : σ) : Checked ρ := do
  match ← round pos state with
  | .done result => return result
  | .again next state' =>
    if _h : pos < next ∧ pos < text.utf8ByteSize then loop text round next state' else throw .stuck
termination_by text.utf8ByteSize - pos

variable {text : String} {round : Nat → σ → Checked (Round σ ρ)} {pos next : Nat} {state state' : σ}

theorem loop_done {result : ρ} (h : round pos state = pure (.done result)) :
    loop text round pos state = pure result := by
  rw [loop, h, pure_bind]

theorem loop_again (h : round pos state = pure (.again next state')) (hnext : pos < next)
    (hpos : pos < text.utf8ByteSize) : loop text round pos state = loop text round next state' := by
  rw [loop, h, pure_bind]
  exact dif_pos ⟨hnext, hpos⟩

/-- A round that reads at least one character moves on. -/
theorem loop_past {c : Char} {s rest t : List Char}
    (h : round (offsetOf text s) state = pure (.again (offsetOf text t) state')) (hs : s <:+ text.toList)
    (hrest : c :: rest <:+ s) (ht : t <:+ rest) :
    loop text round (offsetOf text s) state = loop text round (offsetOf text t) state' := by
  have hlength : t.length < s.length := Nat.lt_of_le_of_lt ht.length_le hrest.length_le
  have hne : s ≠ [] := by
    rintro rfl
    simp at hlength
  have hsuffix := ht.trans ((List.suffix_cons c rest).trans hrest)
  exact loop_again h (offsetOf_lt hs hsuffix hlength) (offsetOf_lt_size hs hne)

end Loops

end Stencil.ByOffset
