import Mathlib.Algebra.BigOperators.Intervals
import Stencil.Proofs.ByOffset.Brackets
import Stencil.Proofs.ByOffset.Marks

/-!
# Balanced brackets

In a text without quotes and slashes, escapes and the brackets of one kind decide where a bracket is closed: at the first
place up to which as many unescaped brackets have been closed as have been opened. The search passes over a backslash
together with the character behind it. Since it begins behind a bracket, which is no backslash, these pairs agree with the
parity of the runs of backslashes.
-/
namespace Stencil.Text

/-- How often a character stands unescaped in a text; the flag tells whether the first one is escaped. -/
def freeCount (c : Char) : Bool → List Char → Nat
  | _, [] => 0
  | escaped, d :: s => (if d = c ∧ escaped = false then 1 else 0) + freeCount c (escapes d escaped) s

section FreeCount

variable {c d : Char} {escaped : Bool} {s t : List Char}

@[simp] theorem freeCount_nil : freeCount c escaped [] = 0 := rfl

theorem freeCount_append : freeCount c escaped (s ++ t) = freeCount c escaped s + freeCount c (escapedPast escaped s) t := by
  induction s generalizing escaped with
  | nil => simp
  | cons d s ih => rw [List.cons_append, freeCount, freeCount, ih, escapedPast_cons, Nat.add_assoc]

theorem escapes_of_ne (hd : d ≠ '\\') (escaped : Bool) : escapes d escaped = false := by simp [escapes, hd]

theorem freeCount_step (hd : d ≠ '\\') :
    freeCount c false (d :: s) = (if d = c then 1 else 0) + freeCount c false s := by
  rw [freeCount, escapes_of_ne hd]
  simp

theorem freeCount_pair (hc : c ≠ '\\') : freeCount c false ('\\' :: d :: s) = freeCount c false s := by
  simp [freeCount, escapes, Ne.symm hc]

theorem escapedPast_pair : escapedPast false ('\\' :: d :: s) = escapedPast false s := by simp [escapes]

end FreeCount

section Closing

variable {opener closer : Char} {depth : Nat} {c d : Char} {s : List Char}

/-- No start of a text closes more brackets than it opens and `depth` ones that are open before it. -/
def StaysOpen (opener closer : Char) (depth : Nat) (s : List Char) : Prop :=
  ∀ x, x <+: s → freeCount closer false x ≤ freeCount opener false x + depth

/-- A text that closes the brackets that it opens and the `depth` ones that are open before it, and at whose end nothing
is escaped. -/
structure Evens (opener closer : Char) (depth : Nat) (s : List Char) : Prop where
  free : escapedPast false s = false
  even : freeCount closer false s = freeCount opener false s + depth
  open_ : StaysOpen opener closer depth s

theorem staysOpen_nil : StaysOpen opener closer depth [] := by
  intro x hx
  simp [List.prefix_nil.mp hx]

section Steps

variable (hkind : closerOf? opener = some closer)
include hkind

theorem depth_step (hclose : ¬(c = closer ∧ depth = 0)) :
    (if c = opener then depth + 1 else if c = closer then depth - 1 else depth) + (if c = closer then 1 else 0) =
      depth + if c = opener then 1 else 0 := by
  obtain ⟨-, -, hne⟩ := Tag.isMark_of_closerOf? hkind
  by_cases hopener : c = opener
  · subst hopener
    simp [hne]
  · by_cases hcloser : c = closer
    · subst hcloser
      have hdepth : depth ≠ 0 := fun h0 => hclose ⟨rfl, h0⟩
      simp only [if_true, if_neg hopener]
      omega
    · simp [hopener, hcloser]

theorem StaysOpen.step (hc : c ≠ '\\') (hclose : ¬(c = closer ∧ depth = 0))
    (h : StaysOpen opener closer (if c = opener then depth + 1 else if c = closer then depth - 1 else depth) s) :
    StaysOpen opener closer depth (c :: s) := by
  intro x hx
  rcases List.prefix_cons_iff.mp hx with rfl | ⟨x, rfl, hrest⟩
  · simp
  · have hdepth := depth_step hkind hclose
    have hopen := h x hrest
    rw [freeCount_step hc, freeCount_step hc]
    omega

theorem StaysOpen.pair (h : StaysOpen opener closer depth s) : StaysOpen opener closer depth ('\\' :: d :: s) := by
  obtain ⟨hopener, hcloser, -⟩ := Tag.isMark_of_closerOf? hkind
  intro x hx
  rcases List.prefix_cons_iff.mp hx with rfl | ⟨x, rfl, hbehind⟩
  · simp
  rcases List.prefix_cons_iff.mp hbehind with rfl | ⟨x, rfl, hrest⟩
  · rw [freeCount, if_neg fun h => hcloser.ne_backslash h.1.symm]
    simp
  · rw [freeCount_pair hcloser.ne_backslash, freeCount_pair hopener.ne_backslash]
    exact h x hrest

theorem Evens.step (hc : c ≠ '\\') (hclose : ¬(c = closer ∧ depth = 0))
    (h : Evens opener closer (if c = opener then depth + 1 else if c = closer then depth - 1 else depth) s) :
    Evens opener closer depth (c :: s) := by
  refine ⟨?_, ?_, h.open_.step hkind hc hclose⟩
  · rw [escapedPast_cons, escapes_of_ne hc, h.free]
  · have hdepth := depth_step hkind hclose
    have heven := h.even
    rw [freeCount_step hc, freeCount_step hc]
    omega

theorem Evens.pair (h : Evens opener closer depth s) : Evens opener closer depth ('\\' :: d :: s) := by
  obtain ⟨hopener, hcloser, -⟩ := Tag.isMark_of_closerOf? hkind
  refine ⟨escapedPast_pair.trans h.free, ?_, h.open_.pair hkind⟩
  rw [freeCount_pair hcloser.ne_backslash, freeCount_pair hopener.ne_backslash]
  exact h.even

theorem staysOpen_backslash : StaysOpen opener closer depth ['\\'] := by
  obtain ⟨-, hcloser, -⟩ := Tag.isMark_of_closerOf? hkind
  intro x hx
  rcases List.prefix_cons_iff.mp hx with rfl | ⟨x, rfl, hrest⟩
  · simp
  · rw [List.prefix_nil.mp hrest, freeCount, if_neg fun h => hcloser.ne_backslash h.1.symm]
    simp

theorem freeCount_closer {x : List Char} (hfree : escapedPast false x = false) :
    freeCount closer false (x ++ [closer]) = freeCount closer false x + 1 ∧
      freeCount opener false (x ++ [closer]) = freeCount opener false x := by
  obtain ⟨-, -, hne⟩ := Tag.isMark_of_closerOf? hkind
  rw [freeCount_append, freeCount_append, hfree]
  simp [freeCount, Ne.symm hne]

/-- As long as brackets stay open, an unescaped closing one leaves some of them open. -/
theorem StaysOpen.lt {s x : List Char} (h : StaysOpen opener closer 0 s) (hx : x ++ [closer] <+: s)
    (hfree : escapedPast false x = false) : freeCount closer false x < freeCount opener false x := by
  obtain ⟨hcloser, hopener⟩ := freeCount_closer hkind hfree
  have hle := h _ hx
  omega

/-- What a search does: it ends at a bracket by which what it has passed over is evened out, and it fails only where all
the text leaves brackets open. -/
theorem closing_spec (depth : Nat) (argStart : Bool) (hquote : '"' ∉ s) (hslash : '/' ∉ s) :
    match closing opener closer depth argStart s with
    | some (inside, _) => Evens opener closer depth inside
    | none => StaysOpen opener closer depth s := by
  fun_induction closing opener closer depth argStart s with
  | case1 => exact staysOpen_nil
  | case2 depth argStart c rest hleap =>
    rcases eq_of_leap_unclosed hleap with ⟨rfl, rfl⟩ | ⟨rfl, -⟩
    · exact staysOpen_backslash hkind
    · simp at hquote
  | case3 depth argStart c rest taken after hleap ih =>
    rcases eq_of_leap_over hleap with ⟨rfl, d, rfl⟩ | ⟨rfl | ⟨rfl, -⟩, -⟩
    · obtain rfl : taken = [d] := List.append_cancel_right (eq_of_leap hleap).symm
      specialize ih (by simp_all) (by simp_all)
      cases hrest : closing opener closer depth false after with
      | none =>
        rw [hrest] at ih
        exact ih.pair hkind
      | some p =>
        rw [hrest] at ih
        exact ih.pair hkind
    · simp at hquote
    · simp at hslash
  | case4 depth argStart c rest hleap hclose =>
    obtain ⟨-, rfl⟩ := hclose
    exact ⟨rfl, rfl, staysOpen_nil⟩
  | case5 depth argStart c rest hleap hclose ih =>
    obtain ⟨hc, -⟩ := of_leap_step hleap
    specialize ih (by simp_all) (by simp_all)
    simp only [dite_eq_ite] at ih
    cases hrest : closing opener closer (if c = opener then depth + 1 else if c = closer then depth - 1 else depth)
        (if isAsciiBlank c then argStart else c == ',' && depth == 0) rest with
    | none =>
      rw [hrest] at ih
      exact ih.step hkind hc hclose
    | some p =>
      rw [hrest] at ih
      exact ih.step hkind hc hclose

end Steps

end Closing

end Stencil.Text

namespace Stencil.ByOffset

open Stencil.Text

/-- How often a character stands unescaped from one offset up to another one, which is excluded. -/
def freeBetween (text : String) (c : Char) (start stop : Nat) : Nat :=
  ((Finset.Ico start stop).filter fun offset => FreeAt text offset c).card

/-- How many brackets have been opened from `start` up to another offset, which is excluded: the one at the start, be it
escaped or not, and the unescaped ones. -/
def opened (text : String) (opener : Char) (start stop : Nat) : Nat :=
  ((Finset.Ico start stop).filter fun offset => offset = start ∨ FreeAt text offset opener).card

theorem freeBetween_add {text : String} {c : Char} {a b d : Nat} (hab : a ≤ b) (hbd : b ≤ d) :
    freeBetween text c a b + freeBetween text c b d = freeBetween text c a d := by
  simp only [freeBetween, Finset.card_filter]
  exact Finset.sum_Ico_consecutive _ hab hbd

theorem opened_eq_add {text : String} {opener : Char} {start stop : Nat} (h : start < stop) :
    opened text opener start stop = 1 + freeBetween text opener (start + 1) stop := by
  rw [opened, Finset.card_filter, ← Finset.sum_Ico_consecutive _ (Nat.le_add_right start 1) h, freeBetween,
    Finset.card_filter]
  congr 1
  · rw [Nat.Ico_succ_singleton, Finset.sum_singleton, if_pos (.inl rfl)]
  · refine Finset.sum_congr rfl fun offset hoffset => ?_
    have hne : offset ≠ start := by
      have := (Finset.mem_Ico.mp hoffset).1
      omega
    simp [hne]

section Counts

variable {text : String} {front s t : List Char} {c d : Char}

/-- Where a character begins, but not inside of it, there is a character that may be unescaped. -/
theorem freeAt_head_iff (htext : text.toList = front ++ d :: t) {offset : Nat} (hoffset : byteLength front ≤ offset)
    (hinside : offset < byteLength front + d.utf8Size) :
    FreeAt text offset c ↔ offset = byteLength front ∧ d = c ∧ escapedAfter front.reverse = false := by
  rw [freeAt_iff htext hoffset]
  constructor
  · rintro ⟨x, y, hx, rfl, hfree⟩
    cases x with
    | nil => exact ⟨rfl, (List.cons.inj hx).1, hfree⟩
    | cons e x =>
      obtain ⟨rfl, -⟩ := List.cons.inj hx
      rw [byteLength_cons] at hinside
      omega
  · rintro ⟨rfl, rfl, hfree⟩
    exact ⟨[], t, rfl, rfl, hfree⟩

theorem freeBetween_head (htext : text.toList = front ++ d :: t) :
    freeBetween text c (byteLength front) (byteLength front + d.utf8Size) =
      if d = c ∧ escapedAfter front.reverse = false then 1 else 0 := by
  have hhead : ∀ offset ∈ Finset.Ico (byteLength front) (byteLength front + d.utf8Size), FreeAt text offset c ↔
      offset = byteLength front ∧ d = c ∧ escapedAfter front.reverse = false := by
    intro offset hoffset
    obtain ⟨hle, hlt⟩ := Finset.mem_Ico.mp hoffset
    exact freeAt_head_iff htext hle hlt
  rw [freeBetween, Finset.filter_congr hhead]
  split
  · next h =>
    obtain ⟨rfl, hfree⟩ := h
    simp [hfree, Finset.filter_eq', d.utf8Size_pos]
  · next h => simp [h]

/-- Between two places the unescaped characters are those of the text between them. -/
theorem freeBetween_eq (htext : text.toList = front ++ (s ++ t)) :
    freeBetween text c (byteLength front) (byteLength (front ++ s)) = freeCount c (escapedAfter front.reverse) s := by
  induction s generalizing front with
  | nil => simp [freeBetween]
  | cons d s ih =>
    have hbehind : text.toList = (front ++ [d]) ++ (s ++ t) := by simp [htext]
    have hone : byteLength (front ++ [d]) = byteLength front + d.utf8Size := byteLength_append front [d]
    have hparity : escapedAfter (front ++ [d]).reverse = escapes d (escapedAfter front.reverse) :=
      escapedAfter_reverse_append front [d]
    have hrest := ih hbehind
    rw [List.append_assoc, List.singleton_append, hone, hparity] at hrest
    have hle : byteLength front + d.utf8Size ≤ byteLength (front ++ d :: s) := by
      rw [byteLength_append, byteLength_cons]
      omega
    rw [← freeBetween_add (Nat.le_add_right _ d.utf8Size) hle, hrest, freeBetween_head htext, freeCount]

end Counts

/-- The offsets of the unescaped closing brackets up to which, themselves included, as many brackets are closed as have
been opened. -/
def balancedClosers (text : String) (opener closer : Char) (start : Nat) : Set Nat :=
  {offset | start < offset ∧ FreeAt text offset closer ∧
    opened text opener start (offset + 1) = freeBetween text closer start (offset + 1)}

section Brackets

variable {opener closer : Char} (hkind : closerOf? opener = some closer)
include hkind

variable {text : String} {front rest : List Char} (htext : text.toList = front ++ opener :: rest)
include htext

/-- Behind the bracket at the start nothing is escaped by what stands before it. -/
theorem opener_behind :
    text.toList = (front ++ [opener]) ++ rest ∧ byteLength (front ++ [opener]) = byteLength front + 1 ∧
      escapedAfter (front ++ [opener]).reverse = false := by
  obtain ⟨hopener, -, -⟩ := Tag.isMark_of_closerOf? hkind
  have hsize := utf8Size_of_lt (closerOf?_ascii hkind).1
  refine ⟨by simp [htext], ?_, escapedAfter_concat hopener.ne_backslash front⟩
  rw [byteLength_append, byteLength_cons, hsize]
  rfl

theorem counts_behind {x y : List Char} (hrest : rest = x ++ y) :
    opened text opener (byteLength front) (byteLength (front ++ opener :: x)) = 1 + freeCount opener false x ∧
      freeBetween text closer (byteLength front) (byteLength (front ++ opener :: x)) = freeCount closer false x := by
  obtain ⟨-, -, hne⟩ := Tag.isMark_of_closerOf? hkind
  obtain ⟨hbehind, hone, hparity⟩ := opener_behind hkind htext
  have hplace : front ++ opener :: x = (front ++ [opener]) ++ x := by simp
  have hlt : byteLength front < byteLength (front ++ opener :: x) := by
    rw [hplace, byteLength_append, hone]
    omega
  subst hrest
  have hhead : freeBetween text closer (byteLength front) (byteLength front + 1) = 0 := by
    have h := freeBetween_head (c := closer) htext
    rwa [utf8Size_of_lt (closerOf?_ascii hkind).1, if_neg fun h => hne h.1] at h
  rw [opened_eq_add hlt, ← freeBetween_add (Nat.le_add_right _ 1) hlt, hhead, ← hone, hplace, freeBetween_eq hbehind,
    freeBetween_eq hbehind, hparity, Nat.zero_add]
  exact ⟨rfl, rfl⟩

/-- A balanced closing bracket, seen from behind the bracket at the start. -/
theorem mem_balancedClosers_iff {offset : Nat} :
    offset ∈ balancedClosers text opener closer (byteLength front) ↔ ∃ x y, rest = x ++ closer :: y ∧
      byteLength (front ++ opener :: x) = offset ∧ escapedPast false x = false ∧
      freeCount closer false x = freeCount opener false x := by
  obtain ⟨hbehind, hone, hparity⟩ := opener_behind hkind htext
  have hplace (x : List Char) : byteLength (front ++ opener :: x) = byteLength front + 1 + byteLength x := by
    rw [← hone, ← byteLength_append]
    simp
  have hbalance {x y : List Char} (hrest : rest = x ++ closer :: y) (hfree : escapedPast false x = false) :
      opened text opener (byteLength front) (byteLength (front ++ opener :: x) + 1) =
          freeBetween text closer (byteLength front) (byteLength (front ++ opener :: x) + 1) ↔
        freeCount closer false x = freeCount opener false x := by
    have hend : byteLength (front ++ opener :: x) + 1 = byteLength (front ++ opener :: (x ++ [closer])) := by
      rw [hplace, hplace, byteLength_append, byteLength_cons, utf8Size_of_lt (closerOf?_ascii hkind).2]
      rfl
    obtain ⟨hopened, hclosed⟩ := counts_behind hkind htext (x := x ++ [closer]) (y := y) (by simp [hrest])
    obtain ⟨hcloser, hopener⟩ := freeCount_closer hkind hfree
    rw [hend, hopened, hclosed, hcloser, hopener]
    omega
  constructor
  · rintro ⟨hlt, hfree, heven⟩
    obtain ⟨x, y, hrest, rfl, hpast⟩ := (freeAt_iff hbehind (hone ▸ hlt)).mp hfree
    rw [hparity] at hpast
    rw [hone, ← hplace] at heven ⊢
    exact ⟨x, y, hrest, rfl, hpast, (hbalance hrest hpast).mp heven⟩
  · rintro ⟨x, y, hrest, rfl, hpast, heven⟩
    have hlt : byteLength front < byteLength (front ++ opener :: x) := by
      rw [hplace]
      omega
    refine ⟨hlt, (freeAt_iff hbehind (by rw [hone]; exact hlt)).mpr ⟨x, y, hrest, ?_, ?_⟩, (hbalance hrest hpast).mpr heven⟩
    · rw [hone, hplace]
    · rw [hparity, hpast]

variable (hquote : '"' ∉ rest) (hslash : '/' ∉ rest)
include hquote hslash

/-- Either a bracket is found by which the text between is evened out, or all that follows leaves brackets open. -/
theorem matchingClose_cases :
    (∃ inside after, rest = inside ++ closer :: after ∧ Evens opener closer 0 inside ∧
      Text.matchingClose text (byteLength front) = some (byteLength (front ++ opener :: inside))) ∨
    StaysOpen opener closer 0 rest ∧ Text.matchingClose text (byteLength front) = none := by
  have hstart := offsetOf_of_append htext
  have hspec := closing_spec hkind 0 true hquote hslash
  rw [← hstart, matchingClose_offsetOf ⟨front, htext.symm⟩, hkind, Option.bind_some]
  cases hclosing : closing opener closer 0 true rest with
  | none =>
    rw [hclosing] at hspec
    exact .inr ⟨hspec, rfl⟩
  | some p =>
    obtain ⟨inside, after⟩ := p
    rw [hclosing] at hspec
    have hrest := eq_of_closing hclosing
    have hclose : text.toList = (front ++ opener :: inside) ++ closer :: after := by simp [htext, hrest]
    exact .inl ⟨inside, after, hrest, hspec, congrArg some (offsetOf_of_append hclose)⟩

theorem isLeast_of_matchingClose :
    ∀ stop ∈ Text.matchingClose text (byteLength front),
      IsLeast (balancedClosers text opener closer (byteLength front)) stop := by
  intro stop hstop
  rcases matchingClose_cases hkind htext hquote hslash with ⟨inside, after, hrest, hevens, hfound⟩ | ⟨-, hnone⟩
  · obtain rfl := Option.some.inj (hfound.symm.trans hstop)
    refine ⟨(mem_balancedClosers_iff hkind htext).mpr ⟨inside, after, hrest, rfl, hevens.free, hevens.even⟩, ?_⟩
    intro offset hoffset
    obtain ⟨x, y, hx, rfl, hfree, heven⟩ := (mem_balancedClosers_iff hkind htext).mp hoffset
    by_contra hle
    -- an earlier one would lie in a text that leaves brackets open
    have hinside : x ++ [closer] <+: inside := by
      refine prefix_of_byteLength_le ⟨y, by simp [hx]⟩ ⟨_, hrest.symm⟩ ?_
      simp only [byteLength_append, byteLength_cons, byteLength_nil, utf8Size_of_lt (closerOf?_ascii hkind).2] at hle ⊢
      omega
    have hlt := hevens.open_.lt hkind hinside hfree
    omega
  · cases hnone.symm.trans hstop

theorem balancedClosers_eq_empty (h : Text.matchingClose text (byteLength front) = none) :
    balancedClosers text opener closer (byteLength front) = ∅ := by
  rcases matchingClose_cases hkind htext hquote hslash with ⟨inside, after, -, -, hfound⟩ | ⟨hopen, -⟩
  · cases hfound.symm.trans h
  · refine Set.eq_empty_of_forall_notMem fun offset hoffset => ?_
    obtain ⟨x, y, hrest, -, hfree, heven⟩ := (mem_balancedClosers_iff hkind htext).mp hoffset
    have hlt := hopen.lt hkind ⟨y, by simp [hrest]⟩ hfree
    omega

/-- Up to the bracket that is found, or to the end, more brackets have been opened than closed. -/
theorem freeBetween_lt_opened {offset : Nat} (hoffset : IsBoundary text offset) (hbehind : byteLength front < offset)
    (hstop : ∀ stop ∈ Text.matchingClose text (byteLength front), offset ≤ stop) :
    freeBetween text closer (byteLength front) offset < opened text opener (byteLength front) offset := by
  obtain ⟨hopener, hone, -⟩ := opener_behind hkind htext
  obtain ⟨place, y, hplace, rfl⟩ := isBoundary_iff.mp hoffset
  obtain ⟨x, rfl⟩ := prefix_of_byteLength_le ⟨rest, hopener.symm⟩ ⟨y, hplace.symm⟩ (hone ▸ hbehind)
  have hrest : rest = x ++ y := by simpa [hplace] using hopener.symm
  have hstays : freeCount closer false x ≤ freeCount opener false x + 0 := by
    rcases matchingClose_cases hkind htext hquote hslash with ⟨inside, after, hinside, hevens, hfound⟩ | ⟨hopen, -⟩
    · refine hevens.open_ x (prefix_of_byteLength_le ⟨y, hrest.symm⟩ ⟨_, hinside.symm⟩ ?_)
      have hle := hstop _ hfound
      simp only [byteLength_append, byteLength_cons, byteLength_nil] at hle
      omega
    · exact hopen x ⟨y, hrest.symm⟩
  obtain ⟨hopened, hclosed⟩ := counts_behind hkind htext hrest
  rw [List.append_assoc, List.singleton_append, hopened, hclosed]
  omega

end Brackets

theorem notMem_of_not_charAt {text : String} {front rest : List Char} {c : Char} (htext : text.toList = front ++ rest)
    (h : ∀ offset, byteLength front ≤ offset → ¬CharAt text offset c) : c ∉ rest := by
  intro hmem
  obtain ⟨x, y, rfl⟩ := List.append_of_mem hmem
  have hle := byteLength_le_of_prefix (List.prefix_append front x)
  rw [← List.append_assoc] at htext
  exact h _ hle ⟨front ++ x, y, htext, rfl⟩

/-- The bracket that closes the one at the start, in a text without quotes and slashes from there on. The bytes are read
without a fault, so the number of open brackets never falls below zero. What is found is the least unescaped closing
bracket up to which as many brackets are closed as have been opened, the one at the start among them, even if a
backslash escapes it; before it there are more opened ones. -/
theorem matchingClose_isLeast {text : String} {start : Nat} {opener closer : Char}
    (hkind : closerOf? opener = some closer) (hopen : CharAt text start opener)
    (hquote : ∀ offset, start ≤ offset → ¬CharAt text offset '"')
    (hslash : ∀ offset, start ≤ offset → ¬CharAt text offset '/') :
    matchingClose text start = pure (Text.matchingClose text start) ∧
      (∀ stop, Text.matchingClose text start = some stop ↔ IsLeast (balancedClosers text opener closer start) stop) ∧
      (Text.matchingClose text start = none ↔ balancedClosers text opener closer start = ∅) ∧
      (∀ offset, IsBoundary text offset → start < offset →
        (∀ stop ∈ Text.matchingClose text start, offset ≤ stop) →
          freeBetween text closer start offset < opened text opener start offset) ∧
      (FreeAt text start opener → ∀ stop, opened text opener start stop = freeBetween text opener start stop) := by
  obtain ⟨front, rest, htext, rfl⟩ := hopen
  have hquote' : '"' ∉ rest := fun h => notMem_of_not_charAt htext hquote (List.mem_cons_of_mem _ h)
  have hslash' : '/' ∉ rest := fun h => notMem_of_not_charAt htext hslash (List.mem_cons_of_mem _ h)
  have hiff := eq_some_iff_isLeast (isLeast_of_matchingClose hkind htext hquote' hslash')
    (balancedClosers_eq_empty hkind htext hquote' hslash')
  refine ⟨matchingClose_eq _ _, hiff, ⟨balancedClosers_eq_empty hkind htext hquote' hslash', fun hempty => ?_⟩,
    fun offset => freeBetween_lt_opened hkind htext hquote' hslash', fun hfree stop => ?_⟩
  · refine Option.eq_none_iff_forall_ne_some.mpr fun stop hstop => ?_
    have hmem := ((hiff stop).mp hstop).1
    rw [hempty] at hmem
    exact hmem
  · refine congrArg Finset.card (Finset.filter_congr fun offset _ => ?_)
    exact ⟨fun h => h.elim (fun heq => heq ▸ hfree) id, .inr⟩

/-- Another kind of bracket, an escaped bracket and a character of two bytes. -/
theorem matchingClose_isLeast_mixed :
    closerOf? '(' = some ')' ∧ CharAt "(é[(b]\\))c)" 0 '(' ∧
      (∀ offset, 0 ≤ offset → ¬CharAt "(é[(b]\\))c)" offset '"') ∧
      (∀ offset, 0 ≤ offset → ¬CharAt "(é[(b]\\))c)" offset '/') ∧
      IsLeast (balancedClosers "(é[(b]\\))c)" '(' ')' 0) 11 := by
  have hkind : closerOf? '(' = some ')' := rfl
  have hopen : CharAt "(é[(b]\\))c)" 0 '(' := by decide +kernel
  have hquote (offset : Nat) (_ : 0 ≤ offset) : ¬CharAt "(é[(b]\\))c)" offset '"' := fun h => absurd h.mem (by decide)
  have hslash (offset : Nat) (_ : 0 ≤ offset) : ¬CharAt "(é[(b]\\))c)" offset '/' := fun h => absurd h.mem (by decide)
  have hfound : Text.matchingClose "(é[(b]\\))c)" 0 = some 11 := by decide +kernel
  exact ⟨hkind, hopen, hquote, hslash, ((matchingClose_isLeast hkind hopen hquote hslash).2.1 11).mp hfound⟩

/-- An escaped bracket at the start is closed too, though by the unescaped brackets alone nothing is opened there. -/
theorem escaped_opener_closed :
    closerOf? '(' = some ')' ∧ CharAt "\\(a)" 1 '(' ∧
      (∀ offset, 1 ≤ offset → ¬CharAt "\\(a)" offset '"' ∧ ¬CharAt "\\(a)" offset '/') ∧
      Text.matchingClose "\\(a)" 1 = some 3 ∧
      ∀ stop, ¬(1 < stop ∧ FreeAt "\\(a)" stop ')' ∧
        freeBetween "\\(a)" '(' 1 (stop + 1) = freeBetween "\\(a)" ')' 1 (stop + 1)) := by
  refine ⟨rfl, by decide +kernel, fun offset _ => ⟨fun h => absurd h.mem (by decide), fun h => absurd h.mem (by decide)⟩,
    by decide +kernel, ?_⟩
  rintro stop ⟨hlt, hfree, heven⟩
  have hle : stop + 1 ≤ 4 := hfree.char.isBoundary_next.le
  obtain rfl | rfl : stop = 2 ∨ stop = 3 := by omega
  · exact absurd hfree (by decide +kernel)
  · exact absurd heven (by decide +kernel)

end Stencil.ByOffset
