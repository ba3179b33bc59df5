import Stencil.Proofs.Escape
import Stencil.Text.Bracket

/-!
# Bracketed argument lists

How the search for a closing bracket passes over the parts of an argument list: plain text, quoted text and
regular-expression literals. Each lemma leaves open what follows the part.
-/
namespace Stencil.Text

theorem ne_of_class {p : Char → Bool} {c d : Char} (hc : p c = true) (hd : p d = false) : c ≠ d := by
  rintro rfl
  simp [hc] at hd

theorem not_mem_of_class {p : Char → Bool} {c : Char} {ds : List Char} (hc : p c = true)
    (hds : ds.any p = false) : c ∉ ds :=
  fun h => ne_of_class hc (by simpa using List.any_eq_false.mp hds c h) rfl

def isPlain (c : Char) : Bool := c ∉ ['\\', '"', '(', ')', '[', ']', '\x7b', '\x7d', ',']

theorem isPlain_ne {c d : Char} (h : isPlain c = true)
    (hd : d ∈ ['\\', '"', '(', ')', '[', ']', '\x7b', '\x7d', ',']) : c ≠ d := by
  rintro rfl
  simp [isPlain] at h hd
  tauto

theorem leap_of_ne {literal : Bool} {c : Char} (rest : List Char) (hb : c ≠ '\\') (hq : c ≠ '"')
    (hs : c ≠ '/' ∨ literal = false) : leap literal c rest = .step := by
  have hl : ¬(c = '/' ∧ literal = true) := by
    rintro ⟨rfl, rfl⟩
    simp at hs
  simp [leap, hb, hq, hl]

theorem leap_quote {literal : Bool} {s : List Char} (h : Guarded '"' s) (t : List Char) :
    leap literal '"' (s ++ '"' :: t) = .over (s ++ ['"']) t := by
  simp [leap, h.through?]

theorem leap_slash {s : List Char} (h : Guarded '/' s) (t : List Char) :
    leap true '/' (s ++ '/' :: t) = .over (s ++ ['/']) t := by
  simp [leap, h.through?]

theorem closing_of_over {opener closer c : Char} {depth : ℕ} {argStart : Bool}
    {rest taken after : List Char}
    (h : leap (argStart && depth == 0) c rest = .over taken after) :
    closing opener closer depth argStart (c :: rest) =
      (closing opener closer depth false after).map fun (i, a) => (c :: taken ++ i, a) := by
  rw [closing]
  split <;> simp_all

theorem closing_step {opener closer : Char} {depth : Nat} {argStart : Bool} {c : Char} {rest : List Char}
    (h : leap (argStart && depth == 0) c rest = .step) (hc : ¬(c = closer ∧ depth = 0)) :
    closing opener closer depth argStart (c :: rest) =
      (closing opener closer (if c = opener then depth + 1 else if c = closer then depth - 1 else depth)
        (if isAsciiBlank c then argStart else c == ',' && depth == 0) rest).map
        fun (i, a) => (c :: i, a) := by
  rw [closing]
  split <;> simp_all

theorem closing_of_step {opener closer c : Char} {argStart : Bool} {rest : List Char}
    (h : leap argStart c rest = .step) (ho : c ≠ opener) (hc : c ≠ closer) :
    closing opener closer 0 argStart (c :: rest) =
      (closing opener closer 0 (if isAsciiBlank c then argStart else c == ',') rest).map
        fun (i, a) => (c :: i, a) := by
  have hleap : leap (argStart && (0 == 0)) c rest = .step := by simpa using h
  rw [closing_step hleap (fun hat => hc hat.1), if_neg ho, if_neg hc]
  simp

theorem closing_closer {opener closer : Char} {argStart : Bool} {rest : List Char}
    (h : leap argStart closer rest = .step) :
    closing opener closer 0 argStart (closer :: rest) = some ([], rest) := by
  rw [closing]
  split <;> simp_all

abbrev closingParen (argStart : Bool) (s : List Char) : Option (List Char × List Char) :=
  closing '(' ')' 0 argStart s

theorem closingParen_end (argStart : Bool) (t : List Char) :
    closingParen argStart (')' :: t) = some ([], t) :=
  closing_closer (leap_of_ne t (by decide) (by decide) (.inl (by decide)))

theorem closingParen_comma (argStart : Bool) (t : List Char) :
    closingParen argStart (',' :: t) =
      (closingParen true t).map fun (i, a) => (',' :: i, a) := by
  refine closing_of_step ?_ (by decide) (by decide)
  exact leap_of_ne t (by decide) (by decide) (.inl (by decide))

theorem closingParen_plain_inside {v : List Char} (hv : ∀ c ∈ v, isPlain c = true)
    (t : List Char) :
    closingParen false (v ++ t) = (closingParen false t).map fun (i, a) => (v ++ i, a) := by
  induction v with
  | nil => simp
  | cons c v ih =>
    have hc : ∀ d ∈ ['\\', '"', '(', ')', '[', ']', '\x7b', '\x7d', ','], c ≠ d :=
      fun d hd => isPlain_ne (hv c (by simp)) hd
    have hcomma : (c == ',') = false := by simpa using hc ',' (by simp)
    have hleap : leap false c (v ++ t) = .step :=
      leap_of_ne _ (hc '\\' (by simp)) (hc '"' (by simp)) (.inr rfl)
    have hstep := closing_of_step hleap (hc '(' (by simp)) (hc ')' (by simp))
    rw [hcomma, ite_self] at hstep
    rw [closingParen, List.cons_append, hstep, ← closingParen, ih fun d hd => hv d (by simp [hd]),
      Option.map_map]
    rfl

theorem closingParen_plain {v : List Char} (hv : ∀ c ∈ v, isPlain c = true)
    (hs : (trimStart v).head? ≠ some '/') (t : List Char) :
    ∃ argStart, closingParen true (v ++ t) =
      (closingParen argStart t).map fun (i, a) => (v ++ i, a) := by
  induction v with
  | nil => exact ⟨true, by simp⟩
  | cons c v ih =>
    have hc : ∀ d ∈ ['\\', '"', '(', ')', '[', ']', '\x7b', '\x7d', ','], c ≠ d :=
      fun d hd => isPlain_ne (hv c (by simp)) hd
    have hcomma : (c == ',') = false := by simpa using hc ',' (by simp)
    have htail : ∀ d ∈ v, isPlain d = true := fun d hd => hv d (by simp [hd])
    have hslash : c ≠ '/' := by
      rintro rfl
      simp [trimStart, isBlank] at hs
    have hleap : leap true c (v ++ t) = .step :=
      leap_of_ne _ (hc '\\' (by simp)) (hc '"' (by simp)) (.inl hslash)
    have hstep := closing_of_step hleap (hc '(' (by simp)) (hc ')' (by simp))
    rw [closingParen, List.cons_append, hstep, hcomma]
    cases hblank : isAsciiBlank c with
    | false =>
      refine ⟨false, ?_⟩
      simp only [Bool.false_eq_true, if_false]
      rw [← closingParen, closingParen_plain_inside htail, Option.map_map]
      rfl
    | true =>
      have hblank' : isBlank c = true := by
        simp only [isAsciiBlank, Bool.or_eq_true, beq_iff_eq] at hblank
        rcases hblank with (((rfl | rfl) | rfl) | rfl) | rfl <;> decide
      obtain ⟨argStart, h⟩ := ih htail (by simpa [trimStart, hblank'] using hs)
      refine ⟨argStart, ?_⟩
      simp only [if_true]
      rw [← closingParen, h, Option.map_map]
      rfl

theorem closingParen_quoted {argStart : Bool} {s : List Char} (hs : Guarded '"' s)
    (t : List Char) :
    closingParen argStart ('"' :: s ++ '"' :: t) =
      (closingParen false t).map fun (i, a) => ('"' :: s ++ '"' :: i, a) := by
  have h : closingParen argStart ('"' :: (s ++ '"' :: t)) =
      (closingParen false t).map fun (i, a) => ('"' :: (s ++ ['"']) ++ i, a) :=
    closing_of_over (leap_quote hs t)
  rw [List.cons_append, h]
  simp

theorem closingParen_literal {s flags : List Char} (hs : Guarded '/' s)
    (hf : ∀ c ∈ flags, isPlain c = true) (t : List Char) :
    closingParen true ('/' :: s ++ '/' :: flags ++ t) =
      (closingParen false t).map fun (i, a) => ('/' :: s ++ '/' :: flags ++ i, a) := by
  have h : closingParen true ('/' :: (s ++ '/' :: (flags ++ t))) =
      (closingParen false (flags ++ t)).map fun (i, a) => ('/' :: (s ++ ['/']) ++ i, a) :=
    closing_of_over (leap_slash hs (flags ++ t))
  rw [List.append_assoc, List.cons_append, List.cons_append, h, closingParen_plain_inside hf,
    Option.map_map]
  simp [Function.comp_def]

end Stencil.Text
