import Mathlib.Data.List.Infix
import Stencil.Codec.Entity

/-!
# Reading entities once

The entities are replaced one kind after the other, each in the whole text. That is the same as reading the text once
from left to right: an entity is an ampersand and a name without one, so that no two of them overlap, and what has been
put into the text is in no entity that is looked for later.
-/
namespace Stencil.Codec.Entity

open Stencil.Text

/-- Reads a text once from left to right: each entity becomes its character, and all else stays. -/
def decodeOnce : List Char → List Char
  | '&' :: 'l' :: 't' :: ';' :: s => '<' :: decodeOnce s
  | '&' :: 'g' :: 't' :: ';' :: s => '>' :: decodeOnce s
  | '&' :: 'q' :: 'u' :: 'o' :: 't' :: ';' :: s => '"' :: decodeOnce s
  | '&' :: 'a' :: 'p' :: 'o' :: 's' :: ';' :: s => '\'' :: decodeOnce s
  | '&' :: '#' :: '3' :: '9' :: ';' :: s => '\'' :: decodeOnce s
  | '&' :: 'a' :: 'm' :: 'p' :: ';' :: s => '&' :: decodeOnce s
  | c :: s => c :: decodeOnce s
  | [] => []

/-- `t` is `s` read from left to right, where the entities of a table become their characters and a character at
which none of them begins is copied. -/
inductive Decoded (table : List (String × Char)) : List Char → List Char → Prop
  | nil : Decoded table [] []
  | entity {e : String} {c : Char} {s t : List Char} (mem : (e, c) ∈ table) (behind : Decoded table s t) :
    Decoded table (e.toList ++ s) (c :: t)
  | copy {a : Char} {s t : List Char} (none : ∀ x ∈ table, ¬x.1.toList <+: a :: s) (behind : Decoded table s t) :
    Decoded table (a :: s) (a :: t)

def IsEntity (e : String) : Prop := ∃ name, e.toList = '&' :: name ∧ '&' ∉ name

variable {table : List (String × Char)} {s t : List Char}

theorem decoded_of_nil (s : List Char) : Decoded [] s s := by
  induction s with
  | nil => exact .nil
  | cons a s ih => exact .copy (List.forall_mem_nil _) ih

/-- What begins with characters that no entity gives began with them before. -/
theorem Decoded.isPrefix_source (h : Decoded table s t) {w : List Char} (hw : ∀ x ∈ table, x.2 ∉ w)
    (hbegin : w <+: t) : w <+: s := by
  induction h generalizing w with
  | nil => exact hbegin
  | @entity e c s t mem _ _ =>
    cases w with
    | nil => exact List.nil_prefix
    | cons b w =>
      obtain rfl : b = c := (List.cons_prefix_cons.mp hbegin).1
      exact absurd List.mem_cons_self (hw _ mem)
  | @copy a s t _ _ ih =>
    cases w with
    | nil => exact List.nil_prefix
    | cons b w =>
      obtain ⟨rfl, hrest⟩ := List.cons_prefix_cons.mp hbegin
      have hw' : ∀ x ∈ table, x.2 ∉ w := fun x hx hmem => hw x hx (List.mem_cons_of_mem b hmem)
      exact (List.prefix_cons_inj b).mpr (ih hw' hrest)

theorem Decoded.copied (htable : ∀ x ∈ table, IsEntity x.1) {w : List Char} (hw : '&' ∉ w)
    (h : Decoded table (w ++ s) t) : ∃ t', t = w ++ t' ∧ Decoded table s t' := by
  induction w generalizing t with
  | nil => exact ⟨t, rfl, h⟩
  | cons a w ih =>
    have ha : '&' ≠ a ∧ '&' ∉ w := by simpa using hw
    generalize hs : a :: w ++ s = s' at h
    cases h with
    | nil => simp at hs
    | @entity e c s' t mem _ =>
      obtain ⟨name, hname, -⟩ := htable _ mem
      rw [hname] at hs
      exact absurd (List.cons.inj hs).1.symm ha.1
    | @copy b s' t _ behind =>
      obtain ⟨rfl, rfl⟩ := List.cons.inj hs
      obtain ⟨t', rfl, ht'⟩ := ih ha.2 behind
      exact ⟨t', rfl, ht'⟩

/-- One entity more is read where it is replaced behind the pass for the others, if none of these gives a character
of it. -/
theorem Decoded.replaceAll (htable : ∀ x ∈ table, IsEntity x.1) {e : String} (he : IsEntity e)
    (hnew : ∀ x ∈ table, x.2 ∉ e.toList) (c : Char) (h : Decoded table s t) :
    Decoded (table ++ [(e, c)]) s (replaceAll e.toList [c] t) := by
  -- By the length of the text, as an entity is taken at once.
  obtain ⟨name, hname, hfree⟩ := he
  have hne : e.toList ≠ [] := by simp [hname]
  induction hlen : s.length using Nat.strong_induction_on generalizing s t with
  | _ n ih =>
    subst hlen
    cases h with
    | nil =>
      rw [replaceAll_nil hne]
      exact .nil
    | @entity e' c' s t mem behind =>
      obtain ⟨name', hname', -⟩ := htable _ mem
      have hhead : ¬e.toList <+: c' :: t := by
        intro hbegin
        rw [hname] at hbegin
        exact hnew _ mem (hname ▸ (List.cons_prefix_cons.mp hbegin).1 ▸ List.mem_cons_self)
      have hshort : s.length < (e'.toList ++ s).length := by
        rw [hname', List.length_append, List.length_cons]
        omega
      rw [replaceAll_cons hne _ hhead]
      exact .entity (List.mem_append_left _ mem) (ih s.length hshort behind rfl)
    | @copy a s t none behind =>
      by_cases hstart : e.toList <+: a :: s
      · obtain ⟨rest, hrest⟩ := hstart
        rw [hname, List.cons_append] at hrest
        obtain ⟨rfl, rfl⟩ := List.cons.inj hrest
        obtain ⟨t', rfl, hbehind⟩ := behind.copied htable hfree
        have hshort : rest.length < ('&' :: (name ++ rest)).length := by
          rw [List.length_cons, List.length_append]
          omega
        rw [← List.cons_append, ← List.cons_append, ← hname, replaceAll_append hne]
        exact .entity (by simp) (ih rest.length hshort hbehind rfl)
      · have hstart' : ¬e.toList <+: a :: t :=
          fun hbegin => hstart ((Decoded.copy none behind).isPrefix_source hnew hbegin)
        rw [replaceAll_cons hne _ hstart']
        refine .copy (fun x hx => ?_) (ih s.length (by simp) behind rfl)
        rcases List.mem_append.mp hx with hold | hlast
        · exact none x hold
        · obtain rfl := List.mem_singleton.mp hlast
          exact hstart

/-- Replacing one kind of entity after the other is one pass, if none gives a character of a later one. -/
theorem Decoded.foldl {later : List (String × Char)} (hall : ∀ x ∈ table ++ later, IsEntity x.1)
    (hnew : (table ++ later).Pairwise fun x y => x.2 ∉ y.1.toList) (h : Decoded table s t) :
    Decoded (table ++ later) s (later.foldl (fun t (e, c) => Text.replaceAll e.toList [c] t) t) := by
  induction later generalizing table t with
  | nil => simpa using h
  | cons x later ih =>
    have htable : ∀ y ∈ table, IsEntity y.1 := fun y hy => hall y (List.mem_append_left _ hy)
    have hx : IsEntity x.1 := hall x (by simp)
    have hgiven : ∀ y ∈ table, y.2 ∉ x.1.toList :=
      fun y hy => (List.pairwise_append.mp hnew).2.2 y hy x (by simp)
    rw [List.append_cons] at hall hnew ⊢
    exact ih hall hnew (h.replaceAll htable hx hgiven x.2)

theorem decodeOnce_cons {a : Char} {s : List Char} (h : ∀ x ∈ entities, ¬x.1.toList <+: a :: s) :
    decodeOnce (a :: s) = a :: decodeOnce s := by
  have hno (e : String) (c : Char) (hmem : (e, c) ∈ entities) (rest : List Char) :
      a :: s ≠ e.toList ++ rest := fun heq => h _ hmem ⟨rest, heq.symm⟩
  rw [decodeOnce]
  all_goals
    rintro rest rfl rfl
  · exact hno "&lt;" '<' (by decide) rest rfl
  · exact hno "&gt;" '>' (by decide) rest rfl
  · exact hno "&quot;" '"' (by decide) rest rfl
  · exact hno "&apos;" '\'' (by decide) rest rfl
  · exact hno "&#39;" '\'' (by decide) rest rfl
  · exact hno "&amp;" '&' (by decide) rest rfl

/-- A pass for the entities of the codec is the one that is written out. -/
theorem Decoded.eq_decodeOnce (h : Decoded entities s t) : t = decodeOnce s := by
  induction h with
  | nil => rfl
  | @entity e c s t mem _ ih =>
    have hall : (e, c) = ("&lt;", '<') ∨ (e, c) = ("&gt;", '>') ∨ (e, c) = ("&quot;", '"') ∨
        (e, c) = ("&apos;", '\'') ∨ (e, c) = ("&#39;", '\'') ∨ (e, c) = ("&amp;", '&') := by
      simpa [entities] using mem
    rw [ih]
    rcases hall with h | h | h | h | h | h <;> cases h <;> rfl
  | @copy a s t none _ ih => rw [decodeOnce_cons none, ih]

theorem isEntity_of_mem {x : String × Char} (h : x ∈ entities) : IsEntity x.1 := by
  have hall : ∀ x ∈ entities, x.1.toList = '&' :: x.1.toList.tail ∧ '&' ∉ x.1.toList.tail := by decide
  exact ⟨_, hall x h⟩

/-- The characters of the entities are given in an order in which none is part of a later entity. -/
theorem decoded_unescape (s : List Char) : Decoded entities s (unescape s) := by
  have hall : ∀ x ∈ [] ++ entities, IsEntity x.1 := fun x hx => isEntity_of_mem hx
  exact (decoded_of_nil s).foldl hall (by decide)

theorem decodeOnce_cons_of_ne {c : Char} (h : c ≠ '&') (s : List Char) :
    decodeOnce (c :: s) = c :: decodeOnce s := by
  refine decodeOnce_cons fun x hx hbegin => ?_
  obtain ⟨name, hname, -⟩ := isEntity_of_mem hx
  rw [hname] at hbegin
  exact h (List.cons_prefix_cons.mp hbegin).1.symm

theorem decodeOnce_escapeChar (c : Char) (s : List Char) :
    decodeOnce (escapeChar c ++ s) = c :: decodeOnce s := by
  unfold escapeChar
  split_ifs with hamp hlt hgt hquot hapos
  · exact hamp ▸ rfl
  · exact hlt ▸ rfl
  · exact hgt ▸ rfl
  · exact hquot ▸ rfl
  · exact hapos ▸ rfl
  · exact decodeOnce_cons_of_ne hamp s

theorem decodeOnce_escape (s : List Char) : decodeOnce (escape s) = s := by
  induction s with
  | nil => rfl
  | cons c s ih =>
    have hcons : escape (c :: s) = escapeChar c ++ escape s := List.flatMap_cons
    rw [hcons, decodeOnce_escapeChar, ih]

/-- Replacing the entities one kind after the other is reading each of them once, from left to right; so no character
that has been put into a text is part of an entity that is read. What has been escaped is read as it was. -/
theorem unescape_eq_decodeOnce (s : List Char) : unescape s = decodeOnce s ∧ unescape (escape s) = s := by
  have hpass (s : List Char) : unescape s = decodeOnce s := (decoded_unescape s).eq_decodeOnce
  exact ⟨hpass s, (hpass _).trans (decodeOnce_escape s)⟩

end Stencil.Codec.Entity
