import Stencil.Proofs.ByOffset.Expressions
import Stencil.Proofs.ByOffset.InlineLists

/-!
# Offsets within a text

Wherever the readers of tags stand, they stand at the boundary of a character of their text. The readers by offsets
fault at any other slice, at a number below zero and at a loop that does not move on. None of them faults: each gives
what its counterpart gives that reads the characters, whatever the text.
-/
namespace Stencil.ByOffset

open Stencil.Text Stencil.Tag

theorem trace_of_isBoundary {text : String} {start : Nat} (h : IsBoundary text start) (ms : List Move) :
    trace text ms start = pure (places ms (Cursor.atByte text.toList start)) ∧
      ((true, start) :: places ms (Cursor.atByte text.toList start)).IsChain
        (fun p q => p.2 ≤ q.2 ∧ (q.1 = false → q.2 = p.2)) ∧
      ∀ p ∈ places ms (Cursor.atByte text.toList start), p.2 ≤ text.utf8ByteSize ∧ IsBoundary text p.2 := by
  obtain ⟨front, rest, htext, rfl⟩ := isBoundary_iff.mp h
  have hk : (⟨front.reverse, rest⟩ : Cursor).text = text.toList := by rw [Cursor.text, List.reverse_reverse, htext]
  have hpos : (⟨front.reverse, rest⟩ : Cursor).pos = byteLength front := byteLength_reverse front
  obtain ⟨hchain, hplaces⟩ := places_onward hk ms true
  rw [atByte_append htext, ← hpos]
  exact ⟨trace_pos hk ms, hchain, fun p hp => ⟨(hplaces p hp).le, hplaces p hp⟩⟩

/-- From the boundary of a character every scan and every move leads on within the text, to another boundary, and
brackets are closed behind where they are opened. So no reader takes a slice that is out of range or that ends inside of
a character. -/
theorem offsets_within (text : String) :
    (∀ start, IsBoundary text start →
      (shapeEnd text start = pure (Tag.shapeEnd text start) ∧ start ≤ Tag.shapeEnd text start ∧
        Tag.shapeEnd text start ≤ text.utf8ByteSize ∧ IsBoundary text (Tag.shapeEnd text start)) ∧
      (boundary? text start = pure (Tag.boundary? text start) ∧
        ∀ bar ∈ Tag.boundary? text start, Tag.shapeEnd text start ≤ bar ∧ CharAt text bar '|' ∧
          start < bar + 1 ∧ IsBoundary text (bar + 1)) ∧
      ∀ ms, trace text ms start = pure (places ms (Cursor.atByte text.toList start)) ∧
        ((true, start) :: places ms (Cursor.atByte text.toList start)).IsChain
          (fun p q => p.2 ≤ q.2 ∧ (q.1 = false → q.2 = p.2)) ∧
        ∀ p ∈ places ms (Cursor.atByte text.toList start), p.2 ≤ text.utf8ByteSize ∧ IsBoundary text p.2) ∧
    (∀ start, matchingClose text start = pure (Text.matchingClose text start) ∧
      ∀ stop ∈ Text.matchingClose text start, ∃ opener closer, closerOf? opener = some closer ∧
        CharAt text start opener ∧ CharAt text stop closer ∧ start < stop) ∧
    filters text = pure (Tag.filters text) ∧
    invocation text = pure (Invocation.parse text) ∧
    callArguments text = pure (Tag.callArguments text.toList) ∧
    expression text = pure (Expression.parse text) ∧
    inlineList text = pure (Value.parseInlineList? text) := by
  refine ⟨fun start h => ?_, fun start => ?_, filters_eq text, invocation_eq text, callArguments_eq text,
    expression_eq text, inlineList_eq text⟩
  · obtain ⟨hshape, hle, hboundary⟩ := shapeEnd_of_isBoundary h
    obtain ⟨hchecked, hbar⟩ := boundary?_of_isBoundary h
    refine ⟨⟨hshape, hle, hboundary.le, hboundary⟩, ⟨hchecked, fun bar hmem => ?_⟩, trace_of_isBoundary h⟩
    obtain ⟨hbehind, hchar⟩ := hbar bar hmem
    exact ⟨hbehind, hchar, Nat.lt_succ_of_le (hle.trans hbehind), hchar.isBoundary_next⟩
  · exact ⟨matchingClose_eq text start, fun stop hstop => charAt_of_matchingClose hstop⟩

/-- The escaped letter takes two bytes, of which the search for the closing parenthesis skips the first. -/
theorem offsets_within_accents :
    IsBoundary "é|upper(\\ü)" 3 ∧ shapeEnd "é|upper(\\ü)" 3 = pure 13 ∧
      matchingClose "é|upper(\\ü)" 8 = pure (some 12) := by
  have hstart : IsBoundary "é|upper(\\ü)" 3 :=
    isBoundary_iff.mpr ⟨"é|".toList, "upper(\\ü)".toList, by decide, by decide⟩
  have hend : Tag.shapeEnd "é|upper(\\ü)" 3 = 13 := by decide +kernel
  have hclose : Text.matchingClose "é|upper(\\ü)" 8 = some 12 := by decide +kernel
  obtain ⟨hboundaries, hbrackets, -⟩ := offsets_within "é|upper(\\ü)"
  refine ⟨hstart, ?_, ?_⟩
  · rw [(hboundaries 3 hstart).1.1, hend]
  · rw [(hbrackets 8).1, hclose]

end Stencil.ByOffset
