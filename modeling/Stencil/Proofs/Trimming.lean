import Mathlib.Data.List.DropRight
import Mathlib.Data.List.TakeDrop
import Mathlib.Data.List.TakeWhile
import Stencil.Text.Blank

/-!
# Trimming

What trimming keeps of a text, and which texts it leaves as they are: those that neither begin nor end with a
blank.
-/
namespace Stencil.Text

section Span

variable {p : Char → Bool} {s t : List Char}

theorem takeWhile_append_stop (hs : ∀ c ∈ s, p c = true) (ht : ∀ c ∈ t.head?, p c = false) :
    (s ++ t).takeWhile p = s := by
  rw [List.takeWhile_append_of_pos hs]
  cases t with
  | nil => simp
  | cons c t => rw [List.takeWhile_cons_of_neg (by simp [ht c rfl]), List.append_nil]

theorem dropWhile_append_stop (hs : ∀ c ∈ s, p c = true) (ht : ∀ c ∈ t.head?, p c = false) :
    (s ++ t).dropWhile p = t := by
  rw [List.dropWhile_append_of_pos hs]
  cases t with
  | nil => rfl
  | cons c t => exact List.dropWhile_cons_of_neg (by simp [ht c rfl])

end Span

theorem trimStart_of_head {s : List Char} (h : ∀ c ∈ s.head?, isBlank c = false) :
    trimStart s = s := by
  cases s with
  | nil => rfl
  | cons c s => exact List.dropWhile_cons_of_neg (by simpa using h c rfl)

theorem trimStart_blank {c : Char} (hc : isBlank c = true) (s : List Char) :
    trimStart (c :: s) = trimStart s := List.dropWhile_cons_of_pos hc

theorem dropWhile_append_cons_of_neg {p : Char → Bool} {e : Char} (he : p e = false) (s t : List Char) :
    (s ++ e :: t).dropWhile p = s.dropWhile p ++ e :: t := by
  induction s with
  | nil => exact List.dropWhile_cons_of_neg (by simp [he])
  | cons c s ih =>
    by_cases hc : p c = true
    · rw [List.cons_append, List.dropWhile_cons_of_pos hc, List.dropWhile_cons_of_pos hc, ih]
    · rw [List.cons_append, List.dropWhile_cons_of_neg hc, List.dropWhile_cons_of_neg hc, List.cons_append]

theorem trimStart_append_of_not_blank {c : Char} (hc : isBlank c = false) (s t : List Char) :
    trimStart (s ++ c :: t) = trimStart s ++ c :: t := dropWhile_append_cons_of_neg hc s t

theorem trimEnd_append {s : List Char} (hs : ∀ c ∈ s.getLast?, isBlank c = false) (t : List Char) :
    trimEnd (s ++ t) = s ++ trimEnd t := by
  have hreverse : s.reverse.dropWhile isBlank = s.reverse :=
    trimStart_of_head (by simpa [List.head?_reverse] using hs)
  rw [trimEnd, trimEnd, List.reverse_append, List.dropWhile_append, hreverse]
  split
  · next hblank => simp [List.isEmpty_iff.mp hblank]
  · simp

theorem trimEnd_of_last {s : List Char} (hs : ∀ c ∈ s.getLast?, isBlank c = false) : trimEnd s = s := by
  have hend : trimEnd (s ++ []) = s ++ [] := trimEnd_append hs []
  rwa [List.append_nil] at hend

theorem trimEnd_append_blank {c : Char} (hc : isBlank c = true) (s : List Char) :
    trimEnd (s ++ [c]) = trimEnd s := by
  rw [trimEnd, trimEnd, List.reverse_append, List.reverse_singleton, List.singleton_append,
    List.dropWhile_cons_of_pos hc]

theorem trimEnd_trimEnd (s : List Char) : trimEnd (trimEnd s) = trimEnd s := by
  rw [trimEnd, trimEnd, List.reverse_reverse, List.dropWhile_idempotent]

theorem getLast_of_trimEnd {s : List Char} (h : trimEnd s = s) :
    ∀ c ∈ s.getLast?, isBlank c = false := by
  intro c hc
  have hreverse : s.reverse.dropWhile isBlank = s.reverse := by
    rw [← List.reverse_inj, ← trimEnd, h, List.reverse_reverse]
  rw [← List.head?_reverse, ← hreverse] at hc
  have hhead := List.head?_dropWhile_not isBlank s.reverse
  rw [hc] at hhead
  simpa using hhead

theorem getLast_append {u v : List Char} (hv : v ≠ []) (h : ∀ c ∈ v, isBlank c = false) :
    ∀ c ∈ (u ++ v).getLast?, isBlank c = false := by
  intro c hc
  obtain ⟨d, hd⟩ := Option.isSome_iff_exists.mp (List.getLast?_isSome.mpr hv)
  rw [List.getLast?_append, hd, Option.some_or, Option.mem_some_iff] at hc
  exact hc ▸ h d (List.mem_of_getLast? hd)

theorem trimEnd_of_trim {s : List Char} (h : trim s = s) : trimEnd s = s := by
  rw [← h, trim, trimEnd_trimEnd]

theorem trim_of_ends {s : List Char} (hs : ∀ c ∈ s.head?, isBlank c = false)
    (he : ∀ c ∈ s.getLast?, isBlank c = false) : trim s = s := by
  rw [trim, trimStart_of_head hs, trimEnd_of_last he]

theorem trim_append {s : List Char} (hne : s ≠ []) (hhead : ∀ c ∈ s.head?, isBlank c = false)
    (hlast : ∀ c ∈ s.getLast?, isBlank c = false) (t : List Char) : trim (s ++ t) = s ++ trimEnd t := by
  have hstart : trimStart (s ++ t) = s ++ t := by
    obtain ⟨c, rest, rfl⟩ := List.exists_cons_of_ne_nil hne
    exact trimStart_of_head hhead
  rw [trim, hstart, trimEnd_append hlast]

theorem trim_append_of_ends {s : List Char} (hne : s ≠ []) (hhead : ∀ c ∈ s.head?, isBlank c = false)
    (hlast : ∀ c ∈ s.getLast?, isBlank c = false) (more : List Char) :
    s <+: trim (s ++ more) :=
  ⟨trimEnd more, (trim_append hne hhead hlast more).symm⟩

theorem trim_cons {c : Char} (hc : isBlank c = false) (s : List Char) : trim (c :: s) = c :: trimEnd s :=
  trim_append (s := [c]) (by simp) (by simpa using hc) (by simpa using hc) s

theorem trim_sublist (s : List Char) : (trim s).Sublist s := by
  have hstart : (trimStart s).Sublist s := List.dropWhile_sublist _
  have hend : ((trimStart s).reverse.dropWhile isBlank).Sublist (trimStart s).reverse :=
    List.dropWhile_sublist _
  rw [trim, trimEnd]
  refine List.Sublist.trans ?_ hstart
  simpa using hend.reverse

theorem mem_of_mem_trim {c : Char} {s : List Char} (h : c ∈ trim s) : c ∈ s := (trim_sublist s).subset h

theorem mem_trim {c : Char} (hc : isBlank c = false) {s : List Char} (hs : c ∈ s) : c ∈ trim s := by
  have hstart {s : List Char} (hs : c ∈ s) : c ∈ trimStart s := by
    rw [← List.takeWhile_append_dropWhile (p := isBlank) (l := s), List.mem_append] at hs
    rcases hs with hblanks | hrest
    · exact absurd (List.mem_takeWhile_imp hblanks) (by simp [hc])
    · exact hrest
  have hend := hstart (List.mem_reverse.mpr (hstart hs))
  exact List.mem_reverse.mpr hend

theorem head?_trim {s : List Char} {c : Char} (h : (trim s).head? = some c) :
    (trimStart s).head? = some c := by
  have hprefix : trim s <+: trimStart s := by
    have hsuffix := List.dropWhile_suffix isBlank (l := (trimStart s).reverse)
    simpa [trim, trimEnd] using List.reverse_prefix.mpr hsuffix
  obtain ⟨rest, hrest⟩ := hprefix
  obtain ⟨tail, htail⟩ := List.head?_eq_some_iff.mp h
  rw [← hrest, htail, List.cons_append, List.head?_cons]

theorem head_trim (s : List Char) : ∀ c ∈ (trim s).head?, isBlank c = false := by
  intro c hc
  have hhead := List.head?_dropWhile_not isBlank s
  rw [← trimStart, head?_trim hc] at hhead
  simpa using hhead

theorem trimmed_ofList (s : List Char) : trimmed (String.ofList s) = String.ofList (trim s) := by
  rw [trimmed, String.toList_ofList]

theorem trim_trim (s : List Char) : trim (trim s) = trim s :=
  trim_of_ends (head_trim s) (getLast_of_trimEnd (trimEnd_trimEnd _))

theorem ends_of_trim {s : List Char} (h : trim s = s) :
    (∀ c ∈ s.head?, isBlank c = false) ∧ ∀ c ∈ s.getLast?, isBlank c = false := by
  refine ⟨fun c hc => head_trim s c ?_, getLast_of_trimEnd (trimEnd_of_trim h)⟩
  rwa [h]

end Stencil.Text
