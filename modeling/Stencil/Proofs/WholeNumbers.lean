import Mathlib.Algebra.Order.Ring.Int
import Stencil.Number

/-!
# Arithmetic on whole numbers

On whole numbers an operator gives the exact result wherever this is an integer of 64 bits, and an integer that it
gives is the exact result. Two kinds of operands are refused whatever their result is: the remainder of the
least integer by minus one, whose quotient is no integer of 64 bits, and exponents of more than 32 bits.
-/
namespace Stencil.Number

/-- The quotient and the remainder of a division that truncates: the remainder is smaller than the divisor
and has the sign of the dividend. -/
structure Truncated (a b quotient remainder : Int) : Prop where
  eq : a = b * quotient + remainder
  small : remainder.natAbs < b.natAbs
  nonneg : 0 ≤ a → 0 ≤ remainder
  nonpos : a ≤ 0 → remainder ≤ 0

def IsExact : Operator → Int → Int → Int → Prop
  | .add, a, b, r => r = a + b
  | .sub, a, b, r => r = a - b
  | .mul, a, b, r => r = a * b
  | .div, a, b, r => ∃ remainder, Truncated a b r remainder
  | .rem, a, b, r => ∃ quotient, Truncated a b quotient r
  | .pow, a, b, r => 0 ≤ b ∧ r = a ^ b.toNat

/-- Operands that no integer is given for, though their result may be one of 64 bits. -/
def Refused (op : Operator) (a b : Int) : Prop :=
  (op = .rem ∧ a = -2 ^ 63 ∧ b = -1) ∨ (op = .pow ∧ 2 ^ 32 ≤ b)

theorem truncated_iff {a b q m : Int} :
    Truncated a b q m ↔ b ≠ 0 ∧ q = a.tdiv b ∧ m = a.tmod b := by
  constructor
  · rintro ⟨heq, hsmall, hnonneg, hnonpos⟩
    have hb : b ≠ 0 := by omega
    have hunique : a.tdiv b = q ∧ a.tmod b = m := by
      rcases Int.le_total 0 a with ha | ha
      · have hm := hnonneg ha
        exact (Int.tdiv_tmod_unique ha hb).mpr ⟨by omega, hm, by omega⟩
      · have hm := hnonpos ha
        exact (Int.tdiv_tmod_unique' ha hb).mpr ⟨by omega, by omega, hm⟩
    exact ⟨hb, hunique.1.symm, hunique.2.symm⟩
  · rintro ⟨hb, rfl, rfl⟩
    refine ⟨(Int.mul_tdiv_add_tmod a b).symm, ?_, Int.tmod_nonneg b, fun ha => ?_⟩
    · rw [Int.natAbs_tmod]
      exact Nat.mod_lt _ (by omega)
    · exact ((Int.tdiv_tmod_unique' ha hb).mp ⟨rfl, rfl⟩).2.2

theorem fits_iff {n : Int} : fits n = true ↔ -2 ^ 63 ≤ n ∧ n < 2 ^ 63 := by
  have hpow : Int.pow 2 63 = 2 ^ 63 := rfl
  rw [fits, hpow, Bool.and_eq_true, decide_eq_true_iff, decide_eq_true_iff]

theorem power?_of_small {a : Int} (ha : a.natAbs ≤ 1) (e : Nat) : power? a e = some (a ^ e) := by
  have hcases : a = 0 ∨ a = 1 ∨ a = -1 := by omega
  rw [power?, if_pos ha]
  by_cases he : e = 0
  · rw [if_pos he, he, Int.pow_zero]
  · rw [if_neg he]
    rcases hcases with rfl | rfl | rfl
    · simp [he]
    · simp
    · by_cases hodd : e % 2 = 1
      · rw [if_pos hodd, Odd.neg_one_pow (Nat.odd_iff.mpr hodd)]
      · rw [if_neg hodd, Even.neg_one_pow (Nat.even_iff.mpr (by omega))]
        rfl

/-- A power of at least two with an exponent of at least 64 has more than 64 bits. -/
theorem fits_pow_eq_false {a : Int} {e : Nat} (ha : ¬a.natAbs ≤ 1) (he : 64 ≤ e) :
    fits (a ^ e) = false := by
  have hlarge : 2 ^ 64 ≤ (a ^ e).natAbs := by
    rw [Int.natAbs_pow]
    calc
      2 ^ 64 ≤ 2 ^ e := Nat.pow_le_pow_right (by decide) he
      _ ≤ a.natAbs ^ e := Nat.pow_le_pow_left (by omega) e
  rw [Bool.eq_false_iff, Ne, fits_iff]
  omega

theorem filter_power? (a : Int) (e : Nat) :
    (power? a e).filter fits = (some (a ^ e)).filter fits := by
  by_cases ha : a.natAbs ≤ 1
  · rw [power?_of_small ha]
  · rw [power?, if_neg ha]
    by_cases he : 64 ≤ e
    · rw [if_pos he, Option.filter_some, fits_pow_eq_false ha he]
      rfl
    · rw [if_neg he]
      rfl

theorem filter_fits_eq_some_iff {n r : Int} :
    (some n).filter fits = some r ↔ r = n ∧ fits r = true := by
  rw [Option.filter_eq_some_iff, Option.some.injEq]
  constructor
  · rintro ⟨rfl, h⟩
    exact ⟨rfl, h⟩
  · rintro ⟨rfl, h⟩
    exact ⟨rfl, h⟩

/-- The exact result is computed for all operands that are not refused. -/
theorem filter_exactResult?_eq_some_iff (op : Operator) (a b r : Int) :
    (exactResult? op a b).filter fits = some r ↔ IsExact op a b r ∧ fits r = true ∧ ¬Refused op a b := by
  cases op with
  | add =>
    rw [exactResult?, filter_fits_eq_some_iff]
    simp [IsExact, Refused]
  | sub =>
    rw [exactResult?, filter_fits_eq_some_iff]
    simp [IsExact, Refused]
  | mul =>
    rw [exactResult?, filter_fits_eq_some_iff]
    simp [IsExact, Refused]
  | div =>
    rw [exactResult?]
    by_cases hb : b = 0
    · simp [hb, IsExact, truncated_iff]
    · rw [if_neg hb, filter_fits_eq_some_iff]
      simp [hb, IsExact, truncated_iff, Refused]
  | rem =>
    have hleast : Int.pow 2 63 = 2 ^ 63 := rfl
    rw [exactResult?, hleast]
    by_cases hb : b = 0
    · simp [hb, IsExact, truncated_iff]
    · by_cases hrefused : a = -2 ^ 63 ∧ b = -1
      · rw [if_pos (.inr hrefused)]
        simp only [Refused, hrefused, and_self, true_or, not_true, and_false]
        simp
      · rw [if_neg (not_or.mpr ⟨hb, hrefused⟩), filter_fits_eq_some_iff]
        simp [hb, IsExact, truncated_iff, Refused, -Int.reducePow, hrefused]
  | pow =>
    have hbound : Int.pow 2 32 = 2 ^ 32 := rfl
    rw [exactResult?, hbound]
    by_cases hb : 0 ≤ b ∧ b < 2 ^ 32
    · rw [if_pos hb, filter_power?, filter_fits_eq_some_iff]
      simp [IsExact, Refused, -Int.reducePow, hb.1, hb.2]
    · rw [if_neg hb]
      simp [IsExact, Refused]
      omega

/-- In doubles the result is never a whole number. -/
theorem approximate?_ne_int (op : Operator) (a b : Float) (r : Int) :
    approximate? op a b ≠ some (int r) := by
  unfold approximate?
  dsimp only
  split <;> simp

theorem combine?_eq_some_int_iff (op : Operator) (a b r : Int) :
    combine? op (int a) (int b) = some (int r) ↔ (exactResult? op a b).filter fits = some r := by
  rw [combine?]
  cases hexact : (exactResult? op a b).filter fits with
  | some n => simp
  | none =>
    dsimp only
    split <;> simp [approximate?_ne_int]

/-- On whole numbers an operator gives an integer exactly where the exact result is an integer of 64 bits and
the operands are not refused, and that integer is the exact result. -/
theorem combine?_int_iff_exact (op : Operator) (a b r : Int) :
    combine? op (int a) (int b) = some (int r) ↔
      IsExact op a b r ∧ (-2 ^ 63 ≤ r ∧ r < 2 ^ 63) ∧ ¬Refused op a b := by
  rw [combine?_eq_some_int_iff, filter_exactResult?_eq_some_iff, fits_iff]

/-- Refused operands may have results of 64 bits: the least integer is divided by minus one without a
remainder, and every power of one is one. -/
theorem refused_exact_results :
    IsExact .rem (-2 ^ 63) (-1) 0 ∧ combine? .rem (int (-2 ^ 63)) (int (-1)) ≠ some (int 0) ∧
    IsExact .pow 1 (2 ^ 32) 1 ∧ combine? .pow (int 1) (int (2 ^ 32)) ≠ some (int 1) := by
  have hrefused {op : Operator} {a b : Int} (h : Refused op a b) (r : Int) :
      combine? op (int a) (int b) ≠ some (int r) := by
    rw [Ne, combine?_eq_some_int_iff, filter_exactResult?_eq_some_iff]
    exact fun hresult => hresult.2.2 h
  refine ⟨⟨2 ^ 63, ?_⟩, hrefused (.inl ⟨rfl, rfl, rfl⟩) 0, ?_, hrefused (.inr ⟨rfl, le_refl _⟩) 1⟩
  · exact ⟨by decide, by decide, by decide, by decide⟩
  · exact ⟨by decide, (one_pow _).symm⟩

end Stencil.Number
