import Stencil.Tag.Reference
import Stencil.Text.Blank

/-!
# Pieces of templates

A template is text with tags in braces. `pieces` cuts it; a backslash before an opening brace keeps it from
opening a tag and is dropped.
-/
namespace Stencil

open Stencil.Tag

/-- A piece of a template: text that stands for itself, or a tag with its braces. -/
inductive Piece where
  | text (s : List Char)
  | tag (s : List Char)
  deriving DecidableEq, Repr

namespace Piece

/-- Splits the text after an opening brace behind the brace that closes it. `depth` counts the braces that
are open within; the character after a backslash does not count. -/
def throughBrace? (depth : Nat) : List Char → Option (List Char × List Char)
  | [] => none
  | ['\\'] => none
  | '\\' :: d :: rest => (throughBrace? depth rest).map fun (t, after) => ('\\' :: d :: t, after)
  | c :: rest =>
    if c = '\x7d' ∧ depth = 0 then some ([c], rest)
    else
      (throughBrace? (if c = '\x7b' then depth + 1 else if c = '\x7d' then depth - 1 else depth)
        rest).map fun (t, after) => (c :: t, after)

theorem eq_of_throughBrace? {depth : Nat} {s taken after : List Char}
    (h : throughBrace? depth s = some (taken, after)) : s = taken ++ after := by
  fun_induction throughBrace? depth s generalizing taken with
  | case1 => simp at h
  | case2 => simp at h
  | case3 depth d rest ih =>
    obtain ⟨⟨t, a⟩, ht, hEq⟩ := Option.map_eq_some_iff.1 h
    simp only [Prod.mk.injEq] at hEq
    obtain ⟨rfl, rfl⟩ := hEq
    simp [ih ht]
  | case4 depth c rest _ _ hc =>
    simp only [Option.some.injEq, Prod.mk.injEq] at h
    simp [← h.1, ← h.2, hc.1]
  | case5 depth c rest _ _ hc ih =>
    obtain ⟨⟨t, a⟩, ht, hEq⟩ := Option.map_eq_some_iff.1 h
    simp only [Prod.mk.injEq] at hEq
    obtain ⟨rfl, rfl⟩ := hEq
    simp [ih ht]

def tagAfterBrace? (rest : List Char) : Option (List Char × List Char) :=
  if rest.head?.any isSigil then
    (throughBrace? 0 rest).map fun (t, after) => ('\x7b' :: t, after)
  else none

theorem length_le_of_tagAfterBrace? {rest tag after : List Char}
    (h : tagAfterBrace? rest = some (tag, after)) : after.length ≤ rest.length := by
  unfold tagAfterBrace? at h
  split at h
  · obtain ⟨⟨t, a⟩, ht, hEq⟩ := Option.map_eq_some_iff.1 h
    simp only [Prod.mk.injEq] at hEq
    rw [eq_of_throughBrace? ht, ← hEq.2]
    simp
  · simp at h

def addChar (c : Char) : List Piece → List Piece
  | text s :: rest => text (c :: s) :: rest
  | ps => text [c] :: ps

def pieces : List Char → List Piece
  | [] => []
  | c :: rest =>
    if c = '\\' ∧ rest.head? = some '\x7b' then addChar '\x7b' (pieces (rest.drop 1))
    else if c = '\x7b' then
      match _h : tagAfterBrace? rest with
      | some (t, after) => tag t :: pieces after
      | none => addChar c (pieces rest)
    else addChar c (pieces rest)
termination_by s => s.length
decreasing_by
  · simp only [List.length_drop, List.length_cons]
    omega
  · have := length_le_of_tagAfterBrace? _h
    simp
    omega
  · simp
  · simp

end Piece

/-- What stands between the braces of a tag; text without braces is taken as it is. Blanks around it are
dropped. -/
def tagBody (tag : String) : String :=
  let s := Text.trim tag.toList
  match s with
  | '\x7b' :: rest => String.ofList (if rest.getLast? = some '\x7d' then rest.dropLast else s)
  | _ => String.ofList s

end Stencil
