import Mathlib.Algebra.Order.Ring.Int
import Stencil.Decimal.Numeral
import Stencil.Proofs.Bracket
import Stencil.Proofs.Trimming

/-!
# Numerals

The numeral of a whole number is its digits, with a minus sign in front of a negative one. It reads back as that
number, within the bounds of a kind of integers or as the double next to it.
-/
namespace Stencil.Decimal

open Stencil.Text

theorem isDigit_of_mem_toDigits {n : Nat} {c : Char} (h : c ∈ Nat.toDigits 10 n) : c.isDigit = true :=
  Nat.isDigit_of_mem_toDigits (by decide) (by decide) h

theorem range_of_isDigit {c : Char} (h : c.isDigit = true) : 48 ≤ c.toNat ∧ c.toNat ≤ 57 := by
  delta Char.isDigit at h
  simp only [Bool.and_eq_true, decide_eq_true_eq, UInt32.le_iff_toNat_le] at h
  exact h

theorem toLower_of_isDigit {c : Char} (h : c.isDigit = true) : c.toLower = c := by
  have hrange := range_of_isDigit h
  have hupper : ¬(c.val ≥ 'A'.val ∧ c.val ≤ 'Z'.val) := by
    intro ⟨hlow, _⟩
    have hcode : 65 ≤ c.toNat := UInt32.le_iff_toNat_le.mp hlow
    omega
  exact dif_neg hupper

theorem isBlank_of_isDigit {c : Char} (h : c.isDigit = true) : isBlank c = false := by
  have hrange := range_of_isDigit h
  simp only [isBlank, Bool.or_eq_false_iff, Bool.and_eq_false_iff, decide_eq_false_iff_not, beq_eq_false_iff_ne]
  omega

/-- The character of a digit, in every base up to sixteen, tells the digit. -/
theorem digitChar_injective {m n : Nat} (hm : m < 16) (hn : n < 16) (h : m.digitChar = n.digitChar) : m = n := by
  have hall : ∀ m n : Fin 16, m.val.digitChar = n.val.digitChar → m.val = n.val := by decide
  exact hall ⟨m, hm⟩ ⟨n, hn⟩ h

theorem toDigits_injective {base : Nat} (hlow : 1 < base) (hhigh : base ≤ 16) {m n : Nat}
    (h : Nat.toDigits base m = Nat.toDigits base n) : m = n := by
  induction m using Nat.strong_induction_on generalizing n with
  | _ m ih =>
    have hbase : 0 < base := by omega
    rw [Nat.toDigits_eq_if hlow, Nat.toDigits_eq_if hlow (n := n)] at h
    split at h
    · next hm =>
      split at h
      · next hn => exact digitChar_injective (by omega) (by omega) (List.singleton_inj.mp h)
      · have hlength := congrArg List.length h
        have hpos := Nat.length_toDigits_pos (b := base) (n := n / base)
        rw [List.length_append, List.length_singleton, List.length_singleton] at hlength
        omega
    · next hm =>
      split at h
      · have hlength := congrArg List.length h
        have hpos := Nat.length_toDigits_pos (b := base) (n := m / base)
        rw [List.length_append, List.length_singleton, List.length_singleton] at hlength
        omega
      · obtain ⟨hfront, hlast⟩ := List.append_inj' h rfl
        have hquotient := ih (m / base) (Nat.div_lt_self (by omega) hlow) hfront
        have hremainder := digitChar_injective ((Nat.mod_lt m hbase).trans_le hhigh)
          ((Nat.mod_lt n hbase).trans_le hhigh) (List.singleton_inj.mp hlast)
        rw [← Nat.div_add_mod m base, hquotient, hremainder, Nat.div_add_mod]

/-- Only the numeral of zero begins with a zero. -/
theorem head_toDigits_ne_zero {n : Nat} (h : 0 < n) : ∀ c ∈ (Nat.toDigits 10 n).head?, c ≠ '0' := by
  induction n using Nat.strong_induction_on with
  | _ n ih =>
    rw [Nat.toDigits_eq_if (by decide)]
    split
    · next hlt =>
      intro c hc hzero
      obtain rfl : n.digitChar = c := Option.some.inj hc
      have hdigit : n.digitChar = (0 : Nat).digitChar := hzero
      have hn : n = 0 := digitChar_injective (by omega) (by decide) hdigit
      omega
    · next hge =>
      rw [List.head?_append_of_ne_nil _ Nat.toDigits_ne_nil]
      exact ih (n / 10) (by omega) (by omega)

theorem natOfDigits_eq (s : List Char) : natOfDigits s = Nat.ofDigitChars 10 s 0 :=
  Nat.ofDigitChars_eq_foldl.symm

@[simp] theorem natOfDigits_toDigits (n : Nat) : natOfDigits (Nat.toDigits 10 n) = n := by
  rw [natOfDigits_eq, Nat.ofDigitChars_ten_toDigits]

section Digits

variable {s : List Char} (h : ∀ c ∈ s, c.isDigit = true)
include h

theorem natural?_of_digits (hne : s ≠ []) : natural? s = some (natOfDigits s) :=
  if_pos ⟨hne, List.all_eq_true.mpr h⟩

theorem head_ne_of_digits {c : Char} (hc : c.isDigit = false) (rest : List Char) : s ≠ c :: rest := by
  rintro rfl
  exact ne_of_class (h c (by simp)) hc rfl

theorem integer?_of_digits : integer? s = (natural? s).map Int.ofNat := by
  unfold integer?
  split
  · next s => exact absurd rfl (head_ne_of_digits h rfl s)
  · next s => exact absurd rfl (head_ne_of_digits h rfl s)
  · rfl

theorem float?_of_digits : float? s = magnitude? s := by
  unfold float?
  split
  · next s => exact absurd rfl (head_ne_of_digits h rfl s)
  · next s => exact absurd rfl (head_ne_of_digits h rfl s)
  · rfl

theorem magnitude?_of_digits (hne : s ≠ []) : magnitude? s = some (ofDecimal (natOfDigits s) 0) := by
  obtain ⟨c, rest, rfl⟩ := List.exists_cons_of_ne_nil hne
  have hc := h c (by simp)
  have hword {letter : Char} {w : List Char} (hletter : letter.isDigit = false) :
      (String.ofList ((c :: rest).map Char.toLower) == String.ofList (letter :: w)) = false := by
    rw [beq_eq_false_iff_ne, Ne, String.ofList_inj, List.map_cons, List.cons.injEq, toLower_of_isDigit hc]
    exact fun heq => ne_of_class hc hletter heq.1
  have hwhole : (c :: rest).takeWhile Char.isDigit = c :: rest := List.takeWhile_eq_self_iff.mpr h
  have hrest : (c :: rest).dropWhile Char.isDigit = [] := List.dropWhile_eq_nil_iff.mpr h
  have hinf : (String.ofList ((c :: rest).map Char.toLower) == "inf") = false := hword (w := ['n', 'f']) rfl
  have hinfinity : (String.ofList ((c :: rest).map Char.toLower) == "infinity") = false :=
    hword (w := ['n', 'f', 'i', 'n', 'i', 't', 'y']) rfl
  have hnan : (String.ofList ((c :: rest).map Char.toLower) == "nan") = false := hword (w := ['a', 'n']) rfl
  unfold magnitude?
  simp only [hinf, hinfinity, hnan, hwhole, hrest]
  simp [exponentPart?]

end Digits

theorem toList_toString (n : Int) :
    (toString n).toList = (if n < 0 then ['-'] else []) ++ Nat.toDigits 10 n.natAbs := by
  change n.repr.toList = _
  rw [Int.repr_eq_if]
  split
  · next h =>
    rw [if_neg (by omega), Nat.repr_eq_ofList_toDigits, String.toList_ofList, show n.toNat = n.natAbs by omega]
    rfl
  · next h =>
    have hminus : "-".toList = ['-'] := rfl
    rw [if_pos (by omega), Nat.repr_eq_ofList_toDigits, String.toList_append, hminus, String.toList_ofList,
      show (-n).toNat = n.natAbs by omega]

theorem trim_toString (n : Int) : trim (toString n).toList = (toString n).toList := by
  have hblank : ∀ c ∈ (toString n).toList, isBlank c = false := by
    intro c hc
    rw [toList_toString, List.mem_append] at hc
    rcases hc with hsign | hdigit
    · split at hsign
      · obtain rfl := List.mem_singleton.mp hsign
        decide
      · cases hsign
    · exact isBlank_of_isDigit (isDigit_of_mem_toDigits hdigit)
  exact trim_of_ends (fun c hc => hblank c (List.mem_of_mem_head? hc))
    (fun c hc => hblank c (List.mem_of_getLast? hc))

theorem integer?_toString (n : Int) : integer? (toString n).toList = some n := by
  have hdigits := fun c => isDigit_of_mem_toDigits (n := n.natAbs) (c := c)
  have hnatural : natural? (Nat.toDigits 10 n.natAbs) = some n.natAbs := by
    rw [natural?_of_digits hdigits Nat.toDigits_ne_nil, natOfDigits_toDigits]
  rw [toList_toString]
  split
  · next hneg =>
    rw [List.singleton_append, integer?, hnatural]
    exact congrArg some (show -(n.natAbs : Int) = n by omega)
  · next hneg =>
    rw [List.nil_append, integer?_of_digits hdigits, hnatural, Option.map_some]
    exact congrArg some (show (n.natAbs : Int) = n by omega)

/-- A numeral is read within the bounds of its kind or not at all. -/
theorem signed?_toString (bits : Nat) (n : Int) :
    signed? bits (toString n).toList =
      if -2 ^ (bits - 1) ≤ n ∧ n < 2 ^ (bits - 1) then some n else none := by
  rw [signed?, integer?_toString, Option.filter_some]
  exact if_congr decide_eq_true_iff rfl rfl

theorem float?_toString (n : Int) :
    float? (toString n).toList =
      some (if n < 0 then -ofDecimal n.natAbs 0 else ofDecimal n.natAbs 0) := by
  have hdigits := fun c => isDigit_of_mem_toDigits (n := n.natAbs) (c := c)
  have hmagnitude : magnitude? (Nat.toDigits 10 n.natAbs) = some (ofDecimal n.natAbs 0) := by
    rw [magnitude?_of_digits hdigits Nat.toDigits_ne_nil, natOfDigits_toDigits]
  rw [toList_toString]
  split
  · next hneg => rw [List.singleton_append, float?, hmagnitude, Option.map_some]
  · next hneg => rw [List.nil_append, float?_of_digits hdigits, hmagnitude]

end Stencil.Decimal
