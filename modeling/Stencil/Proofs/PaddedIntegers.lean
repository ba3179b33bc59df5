import Stencil.Proofs.IntegerRange

/-!
# Integers in fields

An integer in a field is its sign and its digits, in groups of three on demand, filled up to the width of the field
with blanks or with zeros. Without blanks and commas it reads back as the integer.
-/
namespace Stencil.Format

/-- A body is made of digits in groups of three with commas between them; the first group may be shorter. -/
def Grouped (digits body : List Char) : Prop :=
  ∃ first : List Char, ∃ rest : List (List Char),
    digits = first ++ rest.flatten ∧ body = first ++ (rest.map (',' :: ·)).flatten ∧
    1 ≤ first.length ∧ first.length ≤ 3 ∧ ∀ group ∈ rest, group.length = 3

theorem length_flatten_of_groups {groups : List (List Char)} (h : ∀ group ∈ groups, group.length = 3) :
    groups.flatten.length = 3 * groups.length := by
  induction groups with
  | nil => rfl
  | cons group groups ih =>
    have hgroup := h group List.mem_cons_self
    have hgroups := ih fun g hg => h g (List.mem_cons_of_mem _ hg)
    rw [List.flatten_cons, List.length_append, hgroup, hgroups, List.length_cons]
    omega

/-- By induction from the right: a digit in front of full groups begins a group, any other one joins the first. -/
theorem grouped_groupThousands {digits : List Char} (hne : digits ≠ []) : Grouped digits (groupThousands digits) := by
  induction digits with
  | nil => exact absurd rfl hne
  | cons c digits ih =>
    rw [groupThousands]
    by_cases hnil : digits = []
    · subst hnil
      exact ⟨[c], [], rfl, rfl, Nat.le_refl _, by simp, List.forall_mem_nil _⟩
    · obtain ⟨first, rest, hdigits, hbody, hpos, hle, hrest⟩ := ih hnil
      have hlength : digits.length = first.length + 3 * rest.length := by
        rw [hdigits, List.length_append, length_flatten_of_groups hrest]
      by_cases hfull : digits.length % 3 = 0
      · rw [if_pos ⟨hnil, hfull⟩]
        refine ⟨[c], first :: rest, ?_, ?_, Nat.le_refl _, by simp, ?_⟩
        · rw [hdigits, List.flatten_cons, List.singleton_append]
        · rw [hbody, List.map_cons, List.flatten_cons, List.singleton_append, List.cons_append]
        · exact List.forall_mem_cons.mpr ⟨by omega, hrest⟩
      · rw [if_neg fun h => hfull h.2]
        refine ⟨c :: first, rest, ?_, ?_, by simp, ?_, hrest⟩
        · rw [hdigits, List.cons_append]
        · rw [hbody, List.cons_append]
        · rw [List.length_cons]
          omega

/-- A sign and a body, filled up with blanks behind, zeros between or blanks in front. -/
def filled (left zero : Bool) (fill : Nat) (sign body : List Char) : List Char :=
  if left then sign ++ body ++ List.replicate fill ' '
  else if zero then sign ++ List.replicate fill '0' ++ body
  else List.replicate fill ' ' ++ sign ++ body

theorem toList_pad (p : Spec) (sign body : String) :
    (pad p sign body true).toList =
      filled p.left p.zero (p.width - (sign.length + body.length)) sign.toList body.toList := by
  unfold pad filled
  cases p.left <;> cases p.zero <;> simp

theorem length_filled (left zero : Bool) (fill : Nat) (sign body : List Char) :
    (filled left zero fill sign body).length = fill + (sign.length + body.length) := by
  unfold filled
  cases left <;> cases zero <;> simp <;> omega

theorem filled_zero (left zero : Bool) (sign body : List Char) : filled left zero 0 sign body = sign ++ body := by
  cases left <;> cases zero <;> simp [filled]

def bare (s : List Char) : List Char := s.filter fun c => c != ' ' && c != ','

theorem bare_append (s t : List Char) : bare (s ++ t) = bare s ++ bare t := List.filter_append ..

theorem bare_of_digits {s : List Char} (h : ∀ c ∈ s, c.isDigit = true) : bare s = s :=
  List.filter_eq_self.mpr fun c hc => by
    simp [Text.ne_of_class (h c hc) (show ' '.isDigit = false from rfl),
      Text.ne_of_class (h c hc) (show ','.isDigit = false from rfl)]

theorem bare_groupThousands (s : List Char) : bare (groupThousands s) = bare s := by
  induction s with
  | nil => rfl
  | cons c s ih =>
    rw [groupThousands]
    split
    · change bare ([c] ++ ([','] ++ groupThousands s)) = bare ([c] ++ s)
      rw [bare_append, bare_append, bare_append, ih]
      rfl
    · change bare ([c] ++ groupThousands s) = bare ([c] ++ s)
      rw [bare_append, bare_append, ih]

theorem bare_blanks (fill : Nat) : bare (List.replicate fill ' ') = [] :=
  List.filter_eq_nil_iff.mpr fun c hc => by simp [List.eq_of_mem_replicate hc]

/-- Blanks around a sign and a body are dropped, zeros between them stay. -/
theorem exists_bare_filled (left zero : Bool) (fill : Nat) (sign body : List Char) :
    ∃ k, bare (filled left zero fill sign body) = bare sign ++ (List.replicate k '0' ++ bare body) := by
  have hzeros : bare (List.replicate fill '0') = List.replicate fill '0' :=
    bare_of_digits fun c hc => List.eq_of_mem_replicate hc ▸ rfl
  cases left with
  | true => exact ⟨0, by simp [filled, bare_append, bare_blanks]⟩
  | false =>
    cases zero with
    | true => exact ⟨fill, by simp [filled, bare_append, hzeros]⟩
    | false => exact ⟨0, by simp [filled, bare_append, bare_blanks]⟩

def signText (flags : List Char) (n : Int) : List Char :=
  if n < 0 then ['-'] else if '+' ∈ flags then ['+'] else if ' ' ∈ flags then [' '] else []

def bodyText (flags : List Char) (n : Int) : List Char :=
  if ',' ∈ flags then groupThousands (Nat.toDigits 10 n.natAbs) else Nat.toDigits 10 n.natAbs

theorem bare_bodyText (flags : List Char) (n : Int) : bare (bodyText flags n) = Nat.toDigits 10 n.natAbs := by
  have hdigits : bare (Nat.toDigits 10 n.natAbs) = Nat.toDigits 10 n.natAbs :=
    bare_of_digits fun _ => Decimal.isDigit_of_mem_toDigits
  unfold bodyText
  split
  · rw [bare_groupThousands, hdigits]
  · exact hdigits

/-- An integer with its sign is read back, whatever zeros stand between the sign and the digits. -/
theorem integer?_bare_signText (flags : List Char) (n : Int) (k : Nat) :
    Decimal.integer? (bare (signText flags n) ++ (List.replicate k '0' ++ Nat.toDigits 10 n.natAbs)) = some n := by
  have hdigits : ∀ c ∈ List.replicate k '0' ++ Nat.toDigits 10 n.natAbs, c.isDigit = true := by
    intro c hc
    rcases List.mem_append.mp hc with hzero | hdigit
    · exact List.eq_of_mem_replicate hzero ▸ rfl
    · exact Decimal.isDigit_of_mem_toDigits hdigit
  have hne : List.replicate k '0' ++ Nat.toDigits 10 n.natAbs ≠ [] := fun h =>
    Nat.toDigits_ne_nil (List.append_eq_nil_iff.mp h).2
  have hnatural : Decimal.natural? (List.replicate k '0' ++ Nat.toDigits 10 n.natAbs) = some n.natAbs := by
    rw [Decimal.natural?_of_digits hdigits hne, Decimal.natOfDigits_eq, Nat.ofDigitChars_append,
      Nat.ofDigitChars_replicate_zero, mul_zero, ← Decimal.natOfDigits_eq, Decimal.natOfDigits_toDigits]
  unfold signText
  by_cases hneg : n < 0
  · have hminus : bare ['-'] = ['-'] := rfl
    rw [if_pos hneg, hminus, List.singleton_append, Decimal.integer?, hnatural]
    exact congrArg some (show -(n.natAbs : Int) = n by omega)
  · have hnonneg : (n.natAbs : Int) = n := by omega
    rw [if_neg hneg]
    split
    · have hplus : bare ['+'] = ['+'] := rfl
      rw [hplus, List.singleton_append, Decimal.integer?, hnatural]
      exact congrArg some hnonneg
    · have hnone : bare (if ' ' ∈ flags then [' '] else []) = [] := by split <;> rfl
      rw [hnone, List.nil_append, Decimal.integer?_of_digits hdigits, hnatural]
      exact congrArg some hnonneg

section Field

variable {flags : List Char} {width : Nat} (hflags : ∀ c ∈ flags, isFlag c = true) (hwidth : width ≤ maxWidth)

theorem text_field :
    (Conversion.field flags width hflags hwidth).text = '%' :: (flags ++ (Nat.toDigits 10 width ++ ['d'])) := by
  unfold Conversion.text Conversion.precisionText Conversion.field
  by_cases h : width = 0 <;> simp [h]

theorem mem_flags_field {c : Char} (hc : c ≠ '0') :
    c ∈ (Conversion.field flags width hflags hwidth).flags ↔ c ∈ flags := by
  unfold Conversion.field
  by_cases h : width = 0 <;> simp [h, hc]

theorem width_spec_field : (Conversion.field flags width hflags hwidth).spec.width = width := by
  unfold Conversion.spec Conversion.field
  by_cases h : width = 0
  · simp [h, Decimal.natOfDigits]
  · simp [h]

theorem toList_sign_field (n : Int) :
    (sign (Conversion.field flags width hflags hwidth).spec (n < 0)).toList = signText flags n := by
  have hplus := mem_flags_field hflags hwidth (show '+' ≠ '0' by decide)
  have hspace := mem_flags_field hflags hwidth (show ' ' ≠ '0' by decide)
  simp only [sign, signText, Conversion.spec, hplus, hspace, decide_eq_true_eq]
  by_cases hneg : n < 0
  · rw [if_pos hneg, if_pos hneg]
    rfl
  · rw [if_neg hneg, if_neg hneg]
    by_cases hp : '+' ∈ flags
    · rw [if_pos hp, if_pos hp]
      rfl
    · rw [if_neg hp, if_neg hp]
      split <;> rfl

/-- The flags are those that are written; a zero that stands for the width fills nothing. -/
theorem filled_field (sign body : List Char) :
    filled (Conversion.field flags width hflags hwidth).spec.left (Conversion.field flags width hflags hwidth).spec.zero
        (width - (sign.length + body.length)) sign body =
      filled ('-' ∈ flags) ('0' ∈ flags) (width - (sign.length + body.length)) sign body := by
  by_cases h : width = 0
  · subst h
    rw [Nat.zero_sub, filled_zero, filled_zero]
  · simp [Conversion.spec, Conversion.field, h]

include hflags hwidth in
/-- An integer of less than 128 bits is written as a field of its sign and its digits. -/
theorem format_text_field {n : Int} (hn : n.natAbs < 2 ^ 127) :
    format (String.ofList ('%' :: (flags ++ (Nat.toDigits 10 width ++ ['d'])))) (toString n) =
      .ok (String.ofList (filled ('-' ∈ flags) ('0' ∈ flags)
        (width - ((signText flags n).length + (bodyText flags n).length)) (signText flags n) (bodyText flags n))) := by
  have hbounded : (Conversion.field flags width hflags hwidth).Bounded := by rintro p ⟨⟩
  have hgroup : (Conversion.field flags width hflags hwidth).spec.group = true ↔ ',' ∈ flags :=
    decide_eq_true_iff.trans (mem_flags_field hflags hwidth (by decide))
  have hsign := toList_sign_field hflags hwidth n
  have hlength : (sign (Conversion.field flags width hflags hwidth).spec (n < 0)).length = (signText flags n).length := by
    rw [← hsign, String.length_toList]
  have hformat := format_integer hbounded List.mem_cons_self n
  rw [text_field, if_pos (natAbs_lt_overflowBound (by omega) (by omega)), saturated_eq_iff.mpr (by omega)] at hformat
  rw [hformat, formatInteger_decimal rfl]
  refine congrArg Except.ok (String.toList_inj.mp ?_)
  rw [toList_pad, hsign, hlength, width_spec_field, String.length_ofList, String.toList_ofList, String.toList_ofList,
    filled_field]
  simp only [hgroup]
  rfl

end Field

/-- Every integer of less than 128 bits is written in a field of the width or of the length it needs: the sign and the
digits, in groups of three on demand, with blanks behind, zeros between or blanks in front. Without blanks and commas
it reads back as the integer. -/
theorem format_field {flags : List Char} {width : Nat} (hflags : ∀ c ∈ flags, isFlag c = true)
    (hwidth : width ≤ maxWidth) {n : Int} (hn : n.natAbs < 2 ^ 127) :
    ∃ body out : List Char,
      format (String.ofList ('%' :: (flags ++ (Nat.toDigits 10 width ++ ['d'])))) (toString n) = .ok (String.ofList out) ∧
      (if ',' ∈ flags then Grouped (Nat.toDigits 10 n.natAbs) body else body = Nat.toDigits 10 n.natAbs) ∧
      out = filled ('-' ∈ flags) ('0' ∈ flags) (width - ((signText flags n).length + body.length)) (signText flags n) body ∧
      out.length = max width ((signText flags n).length + body.length) ∧
      Decimal.integer? (bare out) = some n := by
  refine ⟨bodyText flags n, _, format_text_field hflags hwidth hn, ?_, rfl, ?_, ?_⟩
  · unfold bodyText
    split
    · exact grouped_groupThousands Nat.toDigits_ne_nil
    · rfl
  · rw [length_filled]
    omega
  · obtain ⟨k, hk⟩ := exists_bare_filled ('-' ∈ flags) ('0' ∈ flags)
      (width - ((signText flags n).length + (bodyText flags n).length)) (signText flags n) (bodyText flags n)
    rw [hk, bare_bodyText]
    exact integer?_bare_signText flags n k

example : format "%+0,10d" "-1234" = .ok "-00001,234" := by decide +kernel

theorem format_field_grouped :
    ∃ body out : List Char,
      format "%+0,10d" "-1234" = .ok (String.ofList out) ∧ Grouped "1234".toList body ∧
      out = filled false true (10 - (1 + body.length)) ['-'] body ∧ out.length = max 10 (1 + body.length) ∧
      Decimal.integer? (bare out) = some (-1234) := by
  have hflags : ∀ c ∈ ['+', '0', ','], isFlag c = true := List.all_eq_true.mp rfl
  exact format_field hflags (show 10 ≤ maxWidth by decide) (show (-1234 : Int).natAbs < 2 ^ 127 by decide)

end Stencil.Format
