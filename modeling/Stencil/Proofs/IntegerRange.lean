import Stencil.Proofs.Doubles
import Stencil.Proofs.FormatPieces

/-!
# The range of formatted integers

An integer is read into 128 bits. What is larger is read as a double, and a finite double becomes the integer of 128
bits next to it, so an integer out of range is written as the least or the greatest of that size; in base 8 and 16
only the last 64 bits are written. Only an integer whose double is infinite is refused.
-/
namespace Stencil.Format

open Stencil.Decimal (overflowBound)

def saturated (n : Int) : Int := max (-2 ^ 127) (min n (2 ^ 127 - 1))

theorem saturated_eq_iff {n : Int} : saturated n = n ↔ -2 ^ 127 ≤ n ∧ n < 2 ^ 127 := by
  rw [saturated]
  omega

theorem natAbs_lt_overflowBound {n : Int} (hlow : -2 ^ 127 ≤ n) (hhigh : n < 2 ^ 127) : n.natAbs < overflowBound := by
  obtain ⟨half, hhalf, -, hbound⟩ := Decimal.overflowBound_eq
  have hlarge : 2 ^ 127 ≤ half := by
    rw [hhalf]
    exact pow_le_pow_right₀ one_le_two (by decide)
  omega

section Large

variable {n : Int} (hlarge : 2 ^ 127 ≤ n.natAbs)
include hlarge

theorem float?_toString_large :
    Decimal.float? (toString n).toList =
      some (if n < 0 then -Decimal.ofRatio n.natAbs 1 else Decimal.ofRatio n.natAbs 1) := by
  rw [Decimal.float?_toString, Decimal.ofDecimal_natural (by omega)]

/-- A large integer is next to a double of at least as many bits, which the bounds of 128 bits cut off. -/
theorem double_of_lt (hlt : n.natAbs < overflowBound) :
    ∃ x, Decimal.float? (toString n).toList = some x ∧ Decimal.isWhole x = true ∧
      Decimal.toIntClamped x (-2 ^ 127) (2 ^ 127 - 1) = if n < 0 then -2 ^ 127 else 2 ^ 127 - 1 := by
  obtain ⟨m, e, hnormal, hsize⟩ := Decimal.isNormal_ofRatio (by omega) hlt
  have hlog : 127 ≤ n.natAbs.log2 := (Nat.le_log2 (by omega)).mpr hlarge
  have hmagnitude : 2 ^ 127 ≤ m * 2 ^ e := (Nat.pow_le_pow_right (by decide) hlog).trans hsize
  refine ⟨_, float?_toString_large hlarge, ?_⟩
  split
  · have hneg := Decimal.isNormal_neg hnormal
    refine ⟨hneg.isWhole, ?_⟩
    rw [hneg.toIntClamped, if_pos (by decide)]
    omega
  · refine ⟨hnormal.isWhole, ?_⟩
    rw [hnormal.toIntClamped, if_neg (by decide)]
    omega

/-- An integer beyond all doubles is next to an infinite one. -/
theorem double_of_le (hle : overflowBound ≤ n.natAbs) :
    ∃ x, Decimal.float? (toString n).toList = some x ∧ Decimal.isWhole x = false := by
  refine ⟨_, float?_toString_large hlarge, ?_⟩
  rw [Decimal.ofRatio_of_overflowBound_le hle]
  split
  · decide +kernel
  · decide +kernel

end Large

/-- Integers are read up to the bound of the doubles, but only those of 128 bits as what they are. -/
theorem integer?_toString (n : Int) :
    integer? (toString n).toList = if n.natAbs < overflowBound then some (saturated n) else none := by
  rw [integer?, Decimal.signed?_toString]
  by_cases hrange : -2 ^ 127 ≤ n ∧ n < 2 ^ 127
  · rw [if_pos hrange, if_pos (natAbs_lt_overflowBound hrange.1 hrange.2), saturated_eq_iff.mpr hrange, Option.some_or]
  · have hlarge : 2 ^ 127 ≤ n.natAbs := by omega
    rw [if_neg hrange, Option.none_or]
    split
    · next hlt =>
      obtain ⟨x, hx, hwhole, hclamped⟩ := double_of_lt hlarge hlt
      have hsaturated : (if n < 0 then -2 ^ 127 else 2 ^ 127 - 1) = saturated n := by
        rw [saturated]
        split <;> omega
      rw [hx, Option.filter_some, if_pos hwhole, ← hsaturated, ← hclamped]
      rfl
    · next hle =>
      obtain ⟨x, hx, hwhole⟩ := double_of_le hlarge (not_lt.mp hle)
      rw [hx, Option.filter_some, if_neg (Bool.eq_false_iff.mp hwhole)]
      rfl

theorem isSome_float?_toString (n : Int) : (Decimal.float? (toString n).toList).isSome = true := by
  rw [Decimal.float?_toString]
  rfl

section Convert

variable {p : Spec} (h : p.conversion ∈ ['d', 'x', 'o'])
include h

theorem convert_of_integer {value : String} {k : Int} (hread : integer? (Text.trim value.toList) = some k) :
    convert p value = .ok (formatInteger p k) := by
  obtain ⟨_, _, _, _, _, _, _, _, conversion⟩ := p
  simp only [List.mem_cons, List.not_mem_nil, or_false] at h
  rcases h with rfl | rfl | rfl <;> simp only [convert, hread]

theorem convert_of_no_integer {value : String} (hread : integer? (Text.trim value.toList) = none) :
    convert p value = .error (mismatch p.conversion (Text.trim value.toList)) := by
  obtain ⟨_, _, _, _, _, _, _, _, conversion⟩ := p
  simp only [List.mem_cons, List.not_mem_nil, or_false] at h
  rcases h with rfl | rfl | rfl <;> simp only [convert, hread]

theorem convert_integer (n : Int) :
    convert p (toString n) =
      if n.natAbs < overflowBound then .ok (formatInteger p (saturated n)) else .error (.mismatch p.conversion true) := by
  by_cases hlt : n.natAbs < overflowBound
  · have hread : integer? (Text.trim (toString n).toList) = some (saturated n) := by
      rw [Decimal.trim_toString, integer?_toString, if_pos hlt]
    rw [if_pos hlt, convert_of_integer h hread]
  · have hread : integer? (Text.trim (toString n).toList) = none := by
      rw [Decimal.trim_toString, integer?_toString, if_neg hlt]
    rw [if_neg hlt, convert_of_no_integer h hread, mismatch, Decimal.trim_toString, isSome_float?_toString]

end Convert

theorem pad_of_width_eq_zero {p : Spec} (h : p.width = 0) (s body : String) (numeric : Bool) :
    pad p s body numeric = s ++ body := by
  rw [← String.toList_inj]
  unfold pad
  cases p.left <;> cases p.zero <;> cases numeric <;> simp [h]

theorem formatInteger_decimal {p : Spec} (h : p.conversion = 'd') (n : Int) :
    formatInteger p n = pad p (sign p (n < 0))
      (String.ofList (if p.group then groupThousands (Nat.toDigits 10 n.natAbs) else Nat.toDigits 10 n.natAbs)) true := by
  obtain ⟨_, _, _, _, _, _, _, _, conversion⟩ := p
  subst h
  rfl

theorem formatInteger_based {p : Spec} {base : Nat} (h : (p.conversion, base) ∈ [('x', 16), ('o', 8)])
    (halternate : p.alternate = false) (n : Int) :
    formatInteger p n = pad p "" (String.ofList (Nat.toDigits base (n % 2 ^ 64).toNat)) true := by
  obtain ⟨_, _, _, _, _, _, _, _, conversion⟩ := p
  subst halternate
  simp only [List.mem_cons, Prod.mk.injEq, List.not_mem_nil, or_false] at h
  rcases h with ⟨rfl, rfl⟩ | ⟨rfl, rfl⟩
  · rfl
  · rfl

theorem format_integer {c : Conversion} (hbounded : c.Bounded) (h : c.letter ∈ ['d', 'x', 'o']) (n : Int) :
    format (String.ofList c.text) (toString n) =
      if n.natAbs < overflowBound then .ok (formatInteger c.spec (saturated n)) else .error (.mismatch c.letter true) := by
  have hconsumes : c.consumes = true := by
    refine bne_iff_ne.mpr fun hn => ?_
    rw [hn] at h
    exact absurd h (by decide)
  rw [format_text hbounded, if_pos hconsumes]
  exact convert_integer h n

theorem bounded_plain (letter : Char) (h : letter.isAlpha = true) : (Conversion.plain letter h).Bounded := by
  rintro p ⟨⟩

theorem format_decimal (n : Int) :
    format (String.ofList ['%', 'd']) (toString n) =
      if n.natAbs < overflowBound then .ok (toString (saturated n)) else .error (.mismatch 'd' true) := by
  have hnumeral (k : Int) : formatInteger (Conversion.plain 'd').spec k = toString k := by
    rw [formatInteger_decimal rfl, pad_of_width_eq_zero rfl, ← String.toList_inj, Decimal.toList_toString]
    by_cases h : k < 0 <;> simp [sign, h, Conversion.spec, Conversion.plain]
  have hformat := format_integer (bounded_plain 'd' (by decide)) (by decide) n
  rw [hnumeral] at hformat
  exact hformat

theorem format_based {letter : Char} {base : Nat} (h : (letter, base) ∈ [('x', 16), ('o', 8)]) (n : Int) :
    format (String.ofList ['%', letter]) (toString n) =
      if n.natAbs < overflowBound then .ok (String.ofList (Nat.toDigits base (saturated n % 2 ^ 64).toNat))
      else .error (.mismatch letter true) := by
  have hletter : letter.isAlpha = true ∧ letter ∈ ['d', 'x', 'o'] := by
    simp only [List.mem_cons, Prod.mk.injEq, List.not_mem_nil, or_false] at h
    rcases h with ⟨rfl, -⟩ | ⟨rfl, -⟩
    · decide
    · decide
  have hnumeral (k : Int) : formatInteger (Conversion.plain letter hletter.1).spec k =
      String.ofList (Nat.toDigits base (k % 2 ^ 64).toNat) := by
    rw [formatInteger_based h rfl, pad_of_width_eq_zero rfl, String.empty_append]
  have hformat := format_integer (bounded_plain letter hletter.1) hletter.2 n
  rw [hnumeral] at hformat
  exact hformat

theorem format_decimal_iff (n : Int) :
    format (String.ofList ['%', 'd']) (toString n) = .ok (toString n) ↔ -2 ^ 127 ≤ n ∧ n < 2 ^ 127 := by
  rw [format_decimal, ← saturated_eq_iff]
  constructor
  · intro hok
    split at hok
    · exact Int.repr_injective (Except.ok.inj hok)
    · cases hok
  · intro hsaturated
    obtain ⟨hlow, hhigh⟩ := saturated_eq_iff.mp hsaturated
    rw [if_pos (natAbs_lt_overflowBound hlow hhigh), hsaturated]

theorem format_based_iff {letter : Char} {base : Nat} (h : (letter, base) ∈ [('x', 16), ('o', 8)]) (m : Nat) :
    format (String.ofList ['%', letter]) (toString m) = .ok (String.ofList (Nat.toDigits base m)) ↔ m < 2 ^ 64 := by
  have hbase : 1 < base ∧ base ≤ 16 := by
    simp only [List.mem_cons, Prod.mk.injEq, List.not_mem_nil, or_false] at h
    rcases h with ⟨-, rfl⟩ | ⟨-, rfl⟩
    · decide
    · decide
  rw [show toString m = toString (m : Int) from rfl, format_based h]
  constructor
  · intro hok
    split at hok
    · have hdigits := String.ofList_inj.mp (Except.ok.inj hok)
      have hm := Decimal.toDigits_injective hbase.1 hbase.2 hdigits
      omega
    · cases hok
  · intro hlt
    have hread : (m : Int).natAbs < overflowBound := natAbs_lt_overflowBound (by omega) (by omega)
    have hwritten : (saturated m % 2 ^ 64).toNat = m := by
      rw [saturated]
      omega
    rw [if_pos hread, hwritten]

theorem format_error_iff {letter : Char} (h : letter ∈ ['d', 'x', 'o']) (n : Int) :
    (∃ f, format (String.ofList ['%', letter]) (toString n) = .error f) ↔ overflowBound ≤ n.natAbs := by
  have halpha : letter.isAlpha = true := by
    simp only [List.mem_cons, List.not_mem_nil, or_false] at h
    rcases h with rfl | rfl | rfl
    · rfl
    · rfl
    · rfl
  have hformat := format_integer (bounded_plain letter halpha) h n
  rw [show String.ofList ['%', letter] = String.ofList (Conversion.plain letter halpha).text from rfl, hformat]
  by_cases hlt : n.natAbs < overflowBound
  · rw [if_pos hlt]
    exact iff_of_false (fun ⟨f, hf⟩ => nomatch hf) (not_le.mpr hlt)
  · rw [if_neg hlt]
    exact iff_of_true ⟨_, rfl⟩ (not_lt.mp hlt)

/-- Below the bound of the doubles an integer is written, in base 10 as what it is exactly if it has 128 bits at most,
and in base 16 or 8, if it is not negative, exactly if it has 64. From the bound on it is refused. -/
theorem format_toString_iff (n : Int) (m : Nat) :
    (format "%d" (toString n) = .ok (toString n) ↔ -2 ^ 127 ≤ n ∧ n < 2 ^ 127) ∧
    (format "%x" (toString m) = .ok (String.ofList (Nat.toDigits 16 m)) ↔ m < 2 ^ 64) ∧
    (format "%o" (toString m) = .ok (String.ofList (Nat.toDigits 8 m)) ↔ m < 2 ^ 64) ∧
    ((∃ f, format "%d" (toString n) = .error f) ↔ overflowBound ≤ n.natAbs) ∧
    ((∃ f, format "%x" (toString m) = .error f) ↔ overflowBound ≤ m) ∧
    ((∃ f, format "%o" (toString m) = .error f) ↔ overflowBound ≤ m) :=
  ⟨format_decimal_iff n, format_based_iff (by decide) m, format_based_iff (by decide) m,
    format_error_iff (by decide) n, format_error_iff (by decide) (m : Int), format_error_iff (by decide) (m : Int)⟩

/-- One more than the greatest integer of 128 bits is written as that one, and `2 ^ 64` as zero. -/
theorem format_out_of_range :
    format "%d" (toString (2 ^ 127 : Int)) = .ok (toString (2 ^ 127 - 1 : Int)) ∧
    format "%x" (toString (2 ^ 64 : Nat)) = .ok "0" ∧ format "%o" (toString (2 ^ 64 : Nat)) = .ok "0" := by
  refine ⟨?_, ?_, ?_⟩
  · decide +kernel
  · decide +kernel
  · decide +kernel

end Stencil.Format
