import Mathlib.Algebra.Group.Nat.Even
import Mathlib.Data.List.Infix
import Mathlib.Order.Bounds.Basic
import Stencil.Proofs.ByOffset.Bytes
import Stencil.Text.Search

/-!
# Unescaped marks by byte offsets

The scan for a mark goes from one occurrence to the next. At each of them it counts the backslashes right before it, back
to where their run begins, which may lie before the place where the scan has started. It finds the least offset from
there on at which the mark is not escaped.
-/
namespace Stencil.ByOffset

open Stencil.Text

def runBefore (text : String) (offset : Nat) : Nat :=
  (((bytes text.toList).take offset).reverse.takeWhile (· == '\\')).length

/-- A character that begins at an offset and is not escaped. -/
structure FreeAt (text : String) (offset : Nat) (c : Char) : Prop where
  char : CharAt text offset c
  even : Even (runBefore text offset)

instance (text : String) (offset : Nat) (c : Char) : Decidable (FreeAt text offset c) :=
  decidable_of_iff (CharAt text offset c ∧ Even (runBefore text offset)) ⟨fun h => ⟨h.1, h.2⟩, fun h => ⟨h.1, h.2⟩⟩

section Escapes

variable {text : String} {before rest : List Char} {c : Char} (htext : text.toList = before ++ rest)
include htext

theorem runBefore_append : runBefore text (byteLength before) = (before.reverse.takeWhile (· == '\\')).length := by
  have hclass (c : Char) (hc : (c == '\\') = true) : c.toNat < 128 := by
    obtain rfl := beq_iff_eq.mp hc
    decide
  rw [runBefore, htext, bytes_append, ← length_bytes, List.take_left, takeWhile_reverse_bytes hclass]

theorem even_runBefore_iff : Even (runBefore text (byteLength before)) ↔ escapedAfter before.reverse = false := by
  rw [runBefore_append htext, escapedAfter, Nat.even_iff, beq_eq_false_iff_ne]
  omega

/-- An offset from a place on at which a character is not escaped, seen from that place. -/
theorem freeAt_iff {offset : Nat} (hoffset : byteLength before ≤ offset) :
    FreeAt text offset c ↔ ∃ x y, rest = x ++ c :: y ∧ byteLength before + byteLength x = offset ∧
      escapedPast (escapedAfter before.reverse) x = false := by
  constructor
  · rintro ⟨⟨front, y, hfront, rfl⟩, heven⟩
    obtain ⟨x, rfl⟩ := prefix_of_byteLength_le (htext ▸ List.prefix_append before rest)
      (hfront ▸ List.prefix_append front (c :: y)) hoffset
    rw [even_runBefore_iff hfront, escapedAfter_reverse_append] at heven
    rw [htext, List.append_assoc, List.append_cancel_left_eq] at hfront
    exact ⟨x, y, hfront, (byteLength_append before x).symm, heven⟩
  · rintro ⟨x, y, rfl, rfl, hfree⟩
    rw [← List.append_assoc] at htext
    rw [← byteLength_append]
    rw [← escapedAfter_reverse_append] at hfree
    exact ⟨⟨before ++ x, y, htext, rfl⟩, (even_runBefore_iff htext).mpr hfree⟩

end Escapes

/-- One round of the scan: the next occurrence of the mark ends it, unless it is escaped. -/
def freeRound (text : String) (mark : Char) (search : Nat) : Unit → Checked (Round Unit (Option Nat))
  | () =>
    match splitAtByte search text.toList with
    | none => pure (.done none)
    | some (_, rest) =>
      match breakAt? [mark] rest with
      | none => pure (.done none)
      | some (skipped, _) =>
        let found := search + byteLength skipped
        if runBefore text found % 2 = 1 then pure (.again (found + mark.utf8Size) ()) else pure (.done (some found))

def nextFree (text : String) (mark : Char) (start : Nat) : Checked (Option Nat) :=
  loop text (freeRound text mark) start ()

section Scan

variable {text : String} {mark : Char}

theorem breakAt?_mark {skipped rest after : List Char} (h : breakAt? [mark] rest = some (skipped, after)) :
    rest = skipped ++ mark :: after ∧ mark ∉ skipped := by
  refine ⟨by simpa using eq_of_breakAt? h, fun hmem => not_infix_of_breakAt? (by simp) h ?_⟩
  exact (List.singleton_infix_iff mark skipped).mpr hmem

theorem cut_of_notMem {s : List Char} (h : mark ∉ s) (escaped : Bool) : cut mark escaped s = none := by
  refine cut_eq_none_iff.mpr fun before after hs => absurd ?_ h
  simp [hs]

section Rounds

variable {before rest : List Char} (htext : text.toList = before ++ rest)
include htext

theorem freeRound_end (hbreak : breakAt? [mark] rest = none) :
    freeRound text mark (offsetOf text rest) () = pure (.done none) := by
  rw [freeRound, offsetOf_of_append htext, htext, splitAtByte_append]
  simp only [hbreak]

variable {skipped after : List Char} (hbreak : breakAt? [mark] rest = some (skipped, after))
include hbreak

theorem freeRound_found :
    freeRound text mark (offsetOf text rest) () =
      pure (if escapedPast (escapedAfter before.reverse) skipped = true then .again (offsetOf text after) ()
        else .done (some (offsetOf text (mark :: after)))) := by
  obtain ⟨rfl, -⟩ := breakAt?_mark hbreak
  have hfound : text.toList = (before ++ skipped) ++ mark :: after := by rw [htext, List.append_assoc]
  have hnext : text.toList = (before ++ skipped ++ [mark]) ++ after := by simpa using hfound
  have hrun : runBefore text (byteLength (before ++ skipped)) % 2 = 1 ↔
      escapedPast (escapedAfter before.reverse) skipped = true := by
    rw [← Nat.not_even_iff, even_runBefore_iff hfound, Bool.not_eq_false, escapedAfter_reverse_append]
  have hsplit : splitAtByte (offsetOf text (skipped ++ mark :: after)) text.toList =
      some (before, skipped ++ mark :: after) := by
    rw [offsetOf_of_append htext, htext, splitAtByte_append]
  simp only [freeRound, hsplit, hbreak]
  rw [offsetOf_of_append htext, offsetOf_of_append hfound, offsetOf_of_append hnext, byteLength_append _ [mark],
    ← byteLength_append before skipped, if_congr hrun rfl rfl, apply_ite pure]
  rfl

end Rounds

/-- From any place on the rounds find the mark at which what lies ahead is cut. -/
theorem loop_freeRound {before rest : List Char} (htext : text.toList = before ++ rest) :
    loop text (freeRound text mark) (offsetOf text rest) () =
      pure ((cut mark (escapedAfter before.reverse) rest).map fun (_, after) => offsetOf text (mark :: after)) := by
  -- the rounds go from mark to mark, so the induction is on what is left
  induction hn : rest.length using Nat.strong_induction_on generalizing before rest with
  | h n ih =>
  cases hbreak : breakAt? [mark] rest with
  | none =>
    have hmark : mark ∉ rest := by
      rw [← List.singleton_infix_iff]
      exact (breakAt?_eq_none (by simp)).mp hbreak
    rw [cut_of_notMem hmark]
    exact loop_done (freeRound_end htext hbreak)
  | some p =>
    obtain ⟨skipped, after⟩ := p
    have hround := freeRound_found htext hbreak
    obtain ⟨rfl, hskipped⟩ := breakAt?_mark hbreak
    rw [cut_append_of_none (cut_of_notMem hskipped _)]
    cases hescaped : escapedPast (escapedAfter before.reverse) skipped with
    | false =>
      rw [hescaped] at hround
      rw [loop_done hround]
      simp [cut]
    | true =>
      have hbehind : text.toList = (before ++ skipped ++ [mark]) ++ after := by simp [htext]
      have hfree : escapedAfter (before ++ skipped ++ [mark]).reverse = false := by
        rw [escapedAfter_reverse_append, escapedAfter_reverse_append, hescaped]
        simp [escapes]
      have hsuffix : skipped ++ mark :: after <:+ text.toList := ⟨before, htext.symm⟩
      have hlength : after.length < n := by
        rw [← hn, List.length_append, List.length_cons]
        omega
      rw [hescaped] at hround
      rw [loop_past hround hsuffix (List.suffix_append _ _) List.suffix_rfl, ih _ hlength hbehind rfl, hfree]
      simp [cut, escapes, Function.comp_def]

/-- The scan by offsets finds what the scan through the characters finds, and moves on in each round. -/
theorem nextFree_eq (text : String) (mark : Char) (start : Nat) :
    nextFree text mark start = pure (nextUnescaped mark text start) := by
  cases hsplit : splitAtByte start text.toList with
  | none =>
    have hround : freeRound text mark start () = pure (.done none) := by simp only [freeRound, hsplit]
    rw [nextUnescaped, hsplit]
    exact loop_done hround
  | some p =>
    obtain ⟨htext, rfl⟩ := splitAtByte_eq_some_iff.mp hsplit
    rw [nextUnescaped_append htext, nextFree, ← offsetOf_of_append htext, loop_freeRound htext]

end Scan

/-- What is the least of some offsets wherever it is found, and is missing only where there are none, is found exactly
if it is the least. -/
theorem eq_some_iff_isLeast {found : Option Nat} {offsets : Set Nat} (hfound : ∀ p ∈ found, IsLeast offsets p)
    (hnone : found = none → offsets = ∅) (p : Nat) : found = some p ↔ IsLeast offsets p := by
  refine ⟨hfound p, fun hleast => ?_⟩
  cases hcase : found with
  | none =>
    have hempty := hnone hcase
    exact absurd hleast.1 (by simp [hempty])
  | some q => rw [(hfound q hcase).unique hleast]

section Least

variable {text : String} {mark : Char} {before rest : List Char} (htext : text.toList = before ++ rest)
include htext

theorem isLeast_of_nextUnescaped {p : Nat} (h : nextUnescaped mark text (byteLength before) = some p) :
    IsLeast {offset | byteLength before ≤ offset ∧ FreeAt text offset mark} p := by
  rw [nextUnescaped_append htext] at h
  obtain ⟨⟨skipped, after⟩, hcut, rfl⟩ := Option.map_eq_some_iff.mp h
  have hrest := eq_of_cut hcut
  have hfound : text.toList = (before ++ skipped) ++ mark :: after := by rw [htext, hrest, List.append_assoc]
  change IsLeast _ (offsetOf text (mark :: after))
  rw [offsetOf_of_append hfound, byteLength_append]
  refine ⟨⟨Nat.le_add_right _ _, ?_⟩, ?_⟩
  · exact (freeAt_iff htext (Nat.le_add_right _ _)).mpr ⟨skipped, after, hrest, rfl, escapedPast_of_cut hcut⟩
  · rintro offset ⟨hoffset, hfree⟩
    obtain ⟨x, y, hx, rfl, hpast⟩ := (freeAt_iff htext hoffset).mp hfree
    have hprefix : skipped <+: x :=
      List.prefix_of_prefix_length_le ⟨_, hrest.symm⟩ ⟨_, hx.symm⟩ (length_le_of_cut hcut hx hpast)
    have hle := byteLength_le_of_prefix hprefix
    exact Nat.add_le_add_left hle _

theorem not_freeAt_of_nextUnescaped (h : nextUnescaped mark text (byteLength before) = none) {offset : Nat}
    (hoffset : byteLength before ≤ offset) : ¬FreeAt text offset mark := by
  rw [nextUnescaped_append htext, Option.map_eq_none_iff] at h
  intro hfree
  obtain ⟨x, y, hx, -, hpast⟩ := (freeAt_iff htext hoffset).mp hfree
  exact Bool.noConfusion (hpast.symm.trans (cut_eq_none_iff.mp h x y hx))

end Least

/-- The scan goes round without a fault. It finds an offset exactly if it begins at the boundary of a character and that
offset is the least one from there on at which the mark stands behind an even number of backslashes. -/
theorem nextUnescaped_isLeast (text : String) (mark : Char) (start : Nat) :
    nextFree text mark start = pure (nextUnescaped mark text start) ∧
      ∀ p, nextUnescaped mark text start = some p ↔
        IsBoundary text start ∧ IsLeast {offset | start ≤ offset ∧ FreeAt text offset mark} p := by
  refine ⟨nextFree_eq text mark start, fun p => ?_⟩
  by_cases hboundary : IsBoundary text start
  · obtain ⟨before, rest, htext, rfl⟩ := isBoundary_iff.mp hboundary
    rw [eq_some_iff_isLeast (fun q => isLeast_of_nextUnescaped htext) fun hnone => ?_, and_iff_right hboundary]
    exact Set.eq_empty_of_forall_notMem fun offset h => not_freeAt_of_nextUnescaped htext hnone h.1 h.2
  · have hsplit : splitAtByte start text.toList = none := by
      refine Option.eq_none_iff_forall_ne_some.mpr fun q hq => hboundary ?_
      obtain ⟨htext, hlength⟩ := splitAtByte_eq_some_iff.mp hq
      exact isBoundary_iff.mpr ⟨q.1, q.2, htext, hlength⟩
    simp [nextUnescaped, hsplit, hboundary]

/-- The first of three backslashes escapes the second one, also where the scan starts behind it. -/
example : nextUnescaped '\\' "é\\\\\\" 3 = some 4 := by decide +kernel

end Stencil.ByOffset
