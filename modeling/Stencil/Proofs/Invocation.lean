import Mathlib.Data.List.TakeDrop
import Stencil.Proofs.Shape
import Stencil.Tag.Invocation

/-!
# Reading written filters

A filter that is written as a name or a call is read with that name, and a call with the list in its
parentheses.
-/
namespace Stencil.Tag

open Stencil.Text Grammar

theorem splitHead_of_ne {s t : List Char} (hs : ∀ c ∈ s, c ≠ '(' ∧ c ≠ '/')
    (ht : ∀ c ∈ t.head?, c = '(' ∨ c = '/') : Invocation.splitHead (s ++ t) = (s, t) := by
  have hpos : ∀ c ∈ s, decide (c ≠ '(' ∧ c ≠ '/') = true := fun c hc => decide_eq_true (hs c hc)
  rw [Invocation.splitHead, List.span_eq_takeWhile_dropWhile, List.takeWhile_append_of_pos hpos,
    List.dropWhile_append_of_pos hpos]
  cases t with
  | nil => simp
  | cons c t => rcases ht c rfl with rfl | rfl <;> simp

theorem splitHead_append {name t : List Char} (hname : ∀ c ∈ name, isNameChar c = true)
    (ht : ∀ c ∈ t.head?, c = '(' ∨ c = '/') : Invocation.splitHead (name ++ t) = (name, t) :=
  splitHead_of_ne (fun c hc => ⟨ne_of_class (hname c hc) (by decide), ne_of_class (hname c hc) (by decide)⟩) ht

theorem trim_nameChars {name : List Char} (hname : ∀ c ∈ name, isNameChar c = true) :
    trim name = name := by
  apply trim_of_ends
  · exact fun c hc => isBlank_of_isNameChar (hname c (List.mem_of_mem_head? hc))
  · exact fun c hc => isBlank_of_isNameChar (hname c (List.mem_of_getLast? hc))

namespace Invocation

theorem ofChars_bare {name : List Char} (hname : ∀ c ∈ name, isNameChar c = true) :
    (ofChars name).name = String.ofList name ∧ (ofChars name).callArguments = [] := by
  have hsplit := splitHead_append hname (t := []) (by simp)
  rw [List.append_nil] at hsplit
  rw [ofChars, trim_nameChars hname, hsplit]
  exact ⟨rfl, rfl⟩

theorem rawArguments_bare {name : List Char} (hname : ∀ c ∈ name, isNameChar c = true) :
    (ofChars name).rawArguments = none := by
  have hsplit := splitHead_append hname (t := []) (by simp)
  rw [List.append_nil] at hsplit
  rw [ofChars, trim_nameChars hname, hsplit]

theorem ofChars_call {s name rest : List Char} (hs : trim s = name ++ '(' :: rest)
    (hname : ∀ c ∈ name, isNameChar c = true) :
    (ofChars s).name = String.ofList name ∧
      (ofChars s).callArguments = Tag.callArguments ('(' :: rest) := by
  have hsplit := splitHead_append hname (t := '(' :: rest) (by simp)
  rw [ofChars, hs, hsplit]
  have htrim : String.ofList (trim name) = String.ofList name := by rw [trim_nameChars hname]
  exact ⟨htrim, rfl⟩

theorem form_call {s name rest : List Char} (hs : trim s = name ++ '(' :: rest)
    (hname : ∀ c ∈ name, isNameChar c = true) : (ofChars s).form = .call := by
  have hsplit := splitHead_append hname (t := '(' :: rest) (by simp)
  rw [ofChars, hs, hsplit]
  rfl

/-- What stands between the parentheses of a call, where the first one is closed. -/
theorem rawArguments_call {s name rest inside after : List Char} (hs : trim s = name ++ '(' :: rest)
    (hname : ∀ c ∈ name, isNameChar c = true)
    (hclosing : closing '(' ')' 0 true rest = some (inside, after)) :
    (ofChars s).rawArguments = some (String.ofList inside) := by
  have hsplit := splitHead_append hname (t := '(' :: rest) (by simp)
  rw [ofChars, hs, hsplit]
  dsimp only
  split
  · next tail h =>
    obtain ⟨-, rfl⟩ := List.cons.inj h
    rw [hclosing]
  · next h => exact absurd (List.cons.inj h).1 (by decide)
  · next h _ => exact absurd rfl (h _)

end Invocation

def Grammar.Filter.name? : Filter → Option Name
  | .bare name => some name
  | .call name _ _ => some name
  | _ => none

theorem parse_text_name {w : Filter} {name : Name} (h : w.name? = some name) :
    (Invocation.parse w.text).name = String.ofList name.chars := by
  rw [Invocation.parse, toList_text]
  cases w with
  | bare name' =>
    obtain rfl : name' = name := Option.some.inj h
    exact (Invocation.ofChars_bare name'.valid).1
  | call name' other arguments =>
    obtain rfl : name' = name := Option.some.inj h
    have htrim := trim_print (.call name' other arguments)
    rw [print_call] at htrim ⊢
    exact (Invocation.ofChars_call htrim name'.valid).1
  | substitution letter pattern replacement flags => simp [Filter.name?] at h
  | onMatch branches nonempty fallback => simp [Filter.name?] at h

end Stencil.Tag
