import Mathlib
import Stencil.Decimal.Numeral

/-!
# Doubles of large whole numbers

What is read back from the bits of a double, and the double next to a natural number of more than 52 bits: it is
a normal number, whose magnitude has as many bits at least, or infinite from a bound on.
-/
namespace Stencil.Decimal

open Float.Model Float.Model.UnpackedFloat

structure IsNormal (x : Float) (s : Sign) (m : Nat) (e : Int) : Prop where
  unpack_eq : ∃ h, x.toModel.unpack = .finite s m e h
  le_significand : 2 ^ 52 ≤ m
  significand_lt : m < 2 ^ 53
  le_exponent : -1074 ≤ e
  exponent_le : e ≤ 971

theorem toNat_unpackExponent (x : Float) :
    (@unpackExponent .binary64 x.toBits.toBitVec).toNat = biasedExponent x := by
  simp only [unpackExponent, BitVec.toNat_cast, BitVec.extractLsb_toNat, Nat.shiftRight_eq_div_pow]
  rfl

theorem toNat_unpackMantissa (x : Float) :
    (@unpackMantissa .binary64 x.toBits.toBitVec).toNat = fraction x := by
  simp only [unpackMantissa, BitVec.toNat_cast, BitVec.extractLsb_toNat, Nat.shiftRight_eq_div_pow]
  simp [fraction]

theorem isNegative_eq (x : Float) :
    isNegative x = (Sign.ofBitVec (@unpackSign .binary64 x.toBits.toBitVec) == .negative) := by
  have hbit : (@unpackSign .binary64 x.toBits.toBitVec).toNat = x.toBits.toNat / Nat.pow 2 63 % 2 := by
    simp only [unpackSign, BitVec.toNat_cast, BitVec.extractLsb_toNat, Nat.shiftRight_eq_div_pow]
    rfl
  have hlt : x.toBits.toNat / Nat.pow 2 63 < 2 := by
    have h64 := x.toBits.toNat_lt
    exact Nat.div_lt_of_lt_mul h64
  rcases Nat.le_one_iff_eq_zero_or_eq_one.mp (Nat.lt_succ_iff.mp hlt) with h | h
  · have hzero : @unpackSign .binary64 x.toBits.toBitVec = 0#1 := by
      apply BitVec.eq_of_toNat_eq
      rw [hbit, h]
      rfl
    rw [isNegative, h, hzero]
    rfl
  · have hone : @unpackSign .binary64 x.toBits.toBitVec = 1#1 := by
      apply BitVec.eq_of_toNat_eq
      rw [hbit, h]
      rfl
    rw [isNegative, h, hone]
    rfl

theorem toNat_append_one {w : Nat} (f : BitVec w) : (1#1 ++ f).toNat = 2 ^ w + f.toNat := by
  rw [BitVec.toNat_append, ← Nat.shiftLeft_add_eq_or_of_lt f.isLt]
  simp [Nat.shiftLeft_eq]

theorem toNat_ofNat_of_lt {w n : Nat} (h : n < 2 ^ w) : (BitVec.ofNat w n).toNat = n := by
  rw [BitVec.toNat_ofNat, Nat.mod_eq_of_lt h]

theorem bias_eq :
    ((Format.binary64.exponentBias : Nat) : Int) + (Format.binary64.mantissaBitsWithoutImplicit : Nat) = 1075 := rfl

/-- The fields of a finite double are the parts of its bits. -/
theorem of_unpack_eq_finite {x : Float} {s : Sign} {m : Nat} {e : Int} {hm : 0 < m}
    (h : x.toModel.unpack = .finite s m e hm) :
    significand x = m ∧ exponent x = e ∧ isNegative x = (s == .negative) := by
  have hexponent := toNat_unpackExponent x
  have hfraction := toNat_unpackMantissa x
  change UnpackedFloat.unpack .binary64 x.toBits.toBitVec = _ at h
  rw [UnpackedFloat.unpack] at h
  dsimp only at h
  split at h
  · split at h <;> cases h
  · next hfinite =>
    split at h
    · next hzero =>
      have hbiased : biasedExponent x = 0 := by
        rw [← hexponent, hzero]
        rfl
      split at h
      · cases h
      · rw [UnpackedFloat.finite.injEq] at h
        obtain ⟨hs, hm, he⟩ := h
        rw [hexponent, bias_eq] at he
        rw [significand, exponent, if_pos hbiased, if_pos hbiased, isNegative_eq, hs]
        exact ⟨hfraction ▸ hm, by omega, rfl⟩
    · next hnormal =>
      have hbiased : biasedExponent x ≠ 0 := by
        intro hb
        apply hnormal
        apply BitVec.eq_of_toNat_eq
        rw [hexponent, hb]
        rfl
      rw [UnpackedFloat.finite.injEq, toNat_append_one] at h
      obtain ⟨hs, hm, he⟩ := h
      rw [hexponent, bias_eq] at he
      rw [significand, exponent, if_neg hbiased, if_neg hbiased, isNegative_eq, hs]
      exact ⟨hfraction ▸ hm, by omega, rfl⟩

theorem unpack_packComponents (s : Sign) {b f : Nat} (hpos : 0 < b) (hlt : b < 2047)
    (hf : f < 2 ^ 52) :
    ∃ h, UnpackedFloat.unpack .binary64 (packComponents .binary64 s (BitVec.ofNat 11 b) (BitVec.ofNat 52 f)) =
      .finite s (2 ^ 52 + f) ((b : Int) - 1075) h := by
  have hexponent : (BitVec.ofNat 11 b).toNat = b := toNat_ofNat_of_lt (by omega)
  have hfraction : (BitVec.ofNat 52 f).toNat = f := toNat_ofNat_of_lt hf
  have hfinite : BitVec.ofNat 11 b ≠ -1#11 := by
    intro h
    have hall : b = 2047 := hexponent ▸ congrArg BitVec.toNat h
    omega
  have hnormal : BitVec.ofNat 11 b ≠ 0#11 := by
    intro h
    have hzero : b = 0 := hexponent ▸ congrArg BitVec.toNat h
    omega
  refine ⟨by omega, ?_⟩
  rw [UnpackedFloat.unpack]
  simp only [unpackMantissa_packComponents, unpackExponent_packComponents, unpackSign_packComponents,
    if_neg hfinite, if_neg hnormal, Sign.ofBitVec_toBitVec, toNat_append_one, hexponent, hfraction]
  rfl

theorem unpack_pack_finite {s : Sign} {m : Nat} {e : Int} (hm : 0 < m) (hlow : 2 ^ 52 ≤ m) (hhigh : m < 2 ^ 53)
    (helow : -1074 ≤ e) (hehigh : e ≤ 971) :
    (Float.Model.pack (.finite s m e hm)).unpack = .finite s m e hm := by
  have hlog : m.log2 = 52 := (Nat.log2_eq_iff (by omega)).mpr ⟨hlow, hhigh⟩
  have hbiased : (e + (Format.binary64.exponentBias : Nat) + (Format.binary64.mantissaBitsWithoutImplicit : Nat)).toNat =
      (e + 1075).toNat := by
    rw [add_assoc, bias_eq]
  have hfraction : BitVec.ofNat 52 m = BitVec.ofNat 52 (m - 2 ^ 52) := by
    apply BitVec.eq_of_toNat_eq
    rw [BitVec.toNat_ofNat, BitVec.toNat_ofNat]
    omega
  have hpack : UnpackedFloat.pack .binary64 (.finite s m e hm) =
      packComponents .binary64 s (BitVec.ofNat 11 (e + 1075).toNat) (BitVec.ofNat 52 (m - 2 ^ 52)) := by
    rw [UnpackedFloat.pack]
    simp only [hlog, hbiased]
    rw [if_neg (by omega), if_pos (show 52 + 1 = Format.binary64.mantissaBits from rfl), hfraction]
  change UnpackedFloat.unpack .binary64 (UnpackedFloat.pack .binary64 _) = _
  rw [hpack]
  obtain ⟨hm', hunpack⟩ := unpack_packComponents s (b := (e + 1075).toNat) (f := m - 2 ^ 52)
    (by omega) (by omega) (by omega)
  rw [hunpack, UnpackedFloat.finite.injEq]
  exact ⟨rfl, by omega, by omega⟩

theorem isNormal_neg {x : Float} {s : Sign} {m : Nat} {e : Int} (h : IsNormal x s m e) :
    IsNormal (-x) (-s) m e := by
  obtain ⟨⟨hm, hunpack⟩, hlow, hhigh, helow, hehigh⟩ := h
  refine ⟨⟨hm, ?_⟩, hlow, hhigh, helow, hehigh⟩
  change (Float.Model.pack x.toModel.unpack.neg).unpack = _
  rw [hunpack]
  exact unpack_pack_finite hm hlow hhigh helow hehigh

theorem toBitVec_bits {b f : Nat} (hlt : b < 2047) (hf : f < 2 ^ 52) :
    (b * 2 ^ 52 + f).toUInt64.toBitVec =
      packComponents .binary64 .positive (BitVec.ofNat 11 b) (BitVec.ofNat 52 f) := by
  have hexponent : (BitVec.ofNat 11 b).toNat = b := toNat_ofNat_of_lt (by omega)
  have hfraction : (BitVec.ofNat 52 f).toNat = f := toNat_ofNat_of_lt hf
  have hsign : Sign.positive.toBitVec.toNat = 0 := rfl
  apply BitVec.eq_of_toNat_eq
  rw [packComponents, BitVec.toNat_append, ← Nat.shiftLeft_add_eq_or_of_lt (BitVec.isLt _), BitVec.toNat_append,
    ← Nat.shiftLeft_add_eq_or_of_lt (BitVec.isLt _), Nat.shiftLeft_eq, Nat.shiftLeft_eq, hexponent, hfraction,
    hsign, zero_mul, zero_add, UInt64.toNat_toBitVec, Nat.toUInt64_eq, UInt64.toNat_ofNat',
    Nat.mod_eq_of_lt (by omega)]

/-- The bits of a normal number are its exponent, counted from that of the least numbers, and what its
significand has beyond `2 ^ 52`. -/
theorem isNormal_ofBits {bits m : Nat} {e : Int} (hlow : 2 ^ 52 ≤ m) (hhigh : m < 2 ^ 53) (helow : -1074 ≤ e)
    (hehigh : e ≤ 971) (hbits : bits = (e + 1074).toNat * 2 ^ 52 + m) :
    IsNormal (Float.ofBits bits.toUInt64) .positive m e := by
  have hpos : 0 < m := by omega
  have hbiased : (e + 1075).toNat = (e + 1074).toNat + 1 := by omega
  have hsplit : bits = (e + 1075).toNat * 2 ^ 52 + (m - 2 ^ 52) := by
    rw [hbits, hbiased, Nat.succ_mul, Nat.add_assoc, Nat.add_sub_cancel' hlow]
  have hf : m - 2 ^ 52 < 2 ^ 52 := by omega
  obtain ⟨hm, hunpack⟩ := unpack_packComponents .positive (b := (e + 1075).toNat) (by omega) (by omega) hf
  have hfields : UnpackedFloat.unpack .binary64 bits.toUInt64.toBitVec = .finite .positive m e hpos := by
    simp only [hsplit, toBitVec_bits (b := (e + 1075).toNat) (by omega) hf, hunpack, UnpackedFloat.finite.injEq]
    exact ⟨trivial, Nat.add_sub_cancel' hlow, by omega⟩
  refine ⟨⟨hpos, ?_⟩, hlow, hhigh, helow, hehigh⟩
  change (Float.Model.pack (UnpackedFloat.unpack .binary64 _)).unpack = _
  rw [hfields]
  exact unpack_pack_finite hpos hlow hhigh helow hehigh

theorem scaleOf_natural {n : Nat} (h : 2 ^ 52 ≤ n) : scaleOf n 1 = (n.log2 : Int) - 52 := by
  have hlog : 52 ≤ n.log2 := (Nat.le_log2 (by omega)).mpr h
  have hone : Nat.log2 1 = 0 := by decide
  have hneg : (-((n.log2 : Int) - 52)).toNat = 0 := by omega
  have hpos : ((n.log2 : Int) - 52).toNat = n.log2 - 52 := by omega
  have hself : 1 * 2 ^ (n.log2 - 52) * 2 ^ 52 ≤ n * 2 ^ 0 := by
    rw [one_mul, pow_zero, mul_one, ← pow_add, Nat.sub_add_cancel hlog]
    exact Nat.log2_self_le (by omega)
  simp only [scaleOf, hone, Nat.cast_zero, sub_zero, hneg, hpos, Nat.pow_eq, if_neg (not_lt.mpr hself)]
  omega

theorem le_roundHalfEven (num den : Nat) : num / den ≤ roundHalfEven num den := by
  rw [roundHalfEven]
  split <;> omega

theorem roundHalfEven_le (num den : Nat) : roundHalfEven num den ≤ num / den + 1 := by
  rw [roundHalfEven]
  split <;> omega

/-- A tie below an even number is rounded up to it. -/
theorem roundHalfEven_lt_iff {n half bound : Nat} (hhalf : 0 < half) (hbound : bound % 2 = 0) (hpos : 0 < bound) :
    roundHalfEven n (2 * half) < bound ↔ n < 2 * half * bound - half := by
  have hdiv := Nat.div_add_mod n (2 * half)
  have hmod := Nat.mod_lt n (show 2 * half > 0 by omega)
  have hlow := le_roundHalfEven n (2 * half)
  have hhigh := roundHalfEven_le n (2 * half)
  have hsplit : 2 * half * bound = 2 * half * (bound - 1) + 2 * half := by
    rw [← Nat.mul_succ, Nat.succ_eq_add_one, Nat.sub_add_cancel hpos]
  rcases Nat.lt_trichotomy (n / (2 * half)) (bound - 1) with h | h | h
  · have hle : 2 * half * (n / (2 * half) + 1) ≤ 2 * half * (bound - 1) := Nat.mul_le_mul_left _ h
    rw [Nat.mul_succ] at hle
    exact iff_of_true (by omega) (by omega)
  · have hround : roundHalfEven n (2 * half) < bound ↔ n % (2 * half) < half := by
      rw [roundHalfEven]
      split <;> omega
    rw [hround]
    rw [h] at hdiv
    omega
  · have hle : 2 * half * bound ≤ 2 * half * (n / (2 * half)) := Nat.mul_le_mul_left _ (by omega)
    exact iff_of_false (by omega) (by omega)

/-- The double nearest to a large natural number, by its bits. -/
theorem ofRatio_natural {n : Nat} (h : 2 ^ 52 ≤ n) :
    ofRatio n 1 = Float.ofBits (min ((n.log2 + 1022) * Nat.pow 2 52 + roundHalfEven n (2 ^ (n.log2 - 52)))
      (2047 * Nat.pow 2 52)).toUInt64 := by
  have hlog : 52 ≤ n.log2 := (Nat.le_log2 (by omega)).mpr h
  have hneg : (-((n.log2 : Int) - 52)).toNat = 0 := by omega
  have hpos : ((n.log2 : Int) - 52).toNat = n.log2 - 52 := by omega
  have hbiased : ((n.log2 : Int) - 52 + 1074).toNat = n.log2 + 1022 := by omega
  rw [ofRatio, if_neg (by omega), scaleOf_natural h]
  simp only [hneg, hpos, hbiased, Nat.pow_eq, pow_zero, mul_one, one_mul]

/-- The significand of a large natural number has 53 bits or is one more than that. -/
theorem significand_bounds {n : Nat} (h : 2 ^ 52 ≤ n) :
    2 ^ 52 ≤ roundHalfEven n (2 ^ (n.log2 - 52)) ∧ roundHalfEven n (2 ^ (n.log2 - 52)) ≤ 2 ^ 53 := by
  have hlog : 52 ≤ n.log2 := (Nat.le_log2 (by omega)).mpr h
  have hself : 2 ^ 52 ≤ n / 2 ^ (n.log2 - 52) := by
    rw [Nat.le_div_iff_mul_le (Nat.two_pow_pos _), ← pow_add, Nat.add_sub_cancel' hlog]
    exact Nat.log2_self_le (by omega)
  have hlt : n / 2 ^ (n.log2 - 52) < 2 ^ 53 := by
    rw [Nat.div_lt_iff_lt_mul (Nat.two_pow_pos _), ← pow_add]
    exact lt_of_lt_of_eq Nat.lt_log2_self (congrArg (2 ^ ·) (by omega))
  have hlow := le_roundHalfEven n (2 ^ (n.log2 - 52))
  have hhigh := roundHalfEven_le n (2 ^ (n.log2 - 52))
  omega

/-- The least natural number whose double is infinite: it is halfway between the greatest double and the next
power of two. -/
def overflowBound : Nat := 2 ^ 1024 - 2 ^ 970

/-- The bound with its unit: half of what the last place of the greatest doubles is worth. -/
theorem overflowBound_eq : ∃ half, half = 2 ^ 970 ∧ 0 < half ∧ overflowBound = 2 * half * 2 ^ 53 - half := by
  refine ⟨2 ^ 970, rfl, pow_pos two_pos 970, ?_⟩
  rw [overflowBound, ← pow_succ', ← pow_add]

theorem bits_lt_iff {n : Nat} (h : 2 ^ 52 ≤ n) :
    (n.log2 + 1022) * 2 ^ 52 + roundHalfEven n (2 ^ (n.log2 - 52)) < 2047 * 2 ^ 52 ↔ n < overflowBound := by
  obtain ⟨hlow, hhigh⟩ := significand_bounds h
  have hself : 2 ^ n.log2 ≤ n := Nat.log2_self_le (by omega)
  have hlt : n < 2 ^ (n.log2 + 1) := Nat.lt_log2_self
  obtain ⟨half, hhalf, hpos, hbound⟩ := overflowBound_eq
  rw [hbound]
  rcases Nat.lt_trichotomy n.log2 1023 with hlog | hlog | hlog
  · have hle : 2 ^ (n.log2 + 1) ≤ half * 2 ^ 53 := by
      rw [hhalf, ← pow_add]
      exact pow_le_pow_right₀ one_le_two hlog
    exact iff_of_true (by omega) (by omega)
  · have hunit : 2 ^ (n.log2 - 52) = 2 * half := by rw [hlog, hhalf, ← pow_succ']
    rw [hunit] at hlow hhigh ⊢
    rw [hlog, ← roundHalfEven_lt_iff hpos rfl (Nat.two_pow_pos _)]
    omega
  · have hle : 2 * half * 2 ^ 53 ≤ 2 ^ n.log2 := by
      rw [hhalf, ← pow_succ', ← pow_add]
      exact pow_le_pow_right₀ one_le_two hlog
    exact iff_of_false (by omega) (by omega)

/-- Below the bound a large natural number has a normal double, whose magnitude has as many bits. -/
theorem isNormal_ofRatio {n : Nat} (h : 2 ^ 52 ≤ n) (hlt : n < overflowBound) :
    ∃ m e : Nat, IsNormal (ofRatio n 1) .positive m e ∧ 2 ^ n.log2 ≤ m * 2 ^ e := by
  have hlog : 52 ≤ n.log2 := (Nat.le_log2 (by omega)).mpr h
  have hbits := (bits_lt_iff h).mpr hlt
  obtain ⟨hlow, hhigh⟩ := significand_bounds h
  have hsize : 2 ^ n.log2 = 2 ^ 52 * 2 ^ (n.log2 - 52) := by rw [← pow_add, Nat.add_sub_cancel' hlog]
  rw [ofRatio_natural h, Nat.pow_eq, Nat.min_eq_left hbits.le, hsize]
  rcases hhigh.lt_or_eq with hq | hq
  · refine ⟨_, n.log2 - 52, ?_, Nat.mul_le_mul_right _ hlow⟩
    exact isNormal_ofBits hlow hq (by omega) (by omega) (by omega)
  -- The rounded significand is a power of two, which moves one place into the exponent.
  · refine ⟨2 ^ 52, n.log2 - 51, ?_, Nat.mul_le_mul_left _ (Nat.pow_le_pow_right (by decide) (by omega))⟩
    rw [hq]
    exact isNormal_ofBits (by omega) (by omega) (by omega) (by omega) (by omega)

theorem ofRatio_of_overflowBound_le {n : Nat} (h : overflowBound ≤ n) :
    ofRatio n 1 = Float.ofBits (2047 * Nat.pow 2 52).toUInt64 := by
  have hlarge : 2 ^ 52 ≤ n := by
    obtain ⟨half, -, hpos, hbound⟩ := overflowBound_eq
    omega
  rw [ofRatio_natural hlarge, Nat.pow_eq,
    Nat.min_eq_right (not_lt.mp fun hbits => absurd ((bits_lt_iff hlarge).mp hbits) (not_lt.mpr h))]

/-- A natural number's numeral is rounded once, to the double next to that number. -/
theorem ofDecimal_natural {n : Nat} (h : 2 ^ 52 ≤ n) : ofDecimal n 0 = ofRatio n 1 := by
  have hlow : ¬(n = 0 ∨ (digitCount n : Int) + 0 < -330) := by omega
  unfold ofDecimal
  rw [if_neg hlow]
  split
  · next hlong =>
    -- In blocks of 62 digits, each of which is worth more than 205 bits.
    obtain ⟨k, hk⟩ : ∃ k, k = 5 := ⟨5, rfl⟩
    have hlength : ¬(Nat.toDigits 10 n).length ≤ 62 * k := by
      rw [digitCount] at hlong
      omega
    rw [Nat.length_toDigits_le_iff (by decide) (by omega), not_lt] at hlength
    have hbound : overflowBound ≤ n :=
      calc
        overflowBound ≤ 2 ^ 1024 := Nat.sub_le _ _
        _ ≤ 2 ^ (205 * k) := pow_le_pow_right₀ one_le_two (by omega)
        _ = (2 ^ 205) ^ k := pow_mul 2 205 k
        _ ≤ (10 ^ 62) ^ k := Nat.pow_le_pow_left (by decide) k
        _ = 10 ^ (62 * k) := (pow_mul 10 62 k).symm
        _ ≤ n := hlength
    exact (ofRatio_of_overflowBound_le hbound).symm
  · simp

namespace IsNormal

variable {x : Float} {s : Sign} {m : Nat}

theorem fields {e : Int} (h : IsNormal x s m e) :
    significand x = m ∧ exponent x = e ∧ isNegative x = (s == .negative) := by
  obtain ⟨hm, hunpack⟩ := h.unpack_eq
  exact of_unpack_eq_finite hunpack

theorem isFinite {e : Int} (h : IsNormal x s m e) : x.isFinite = true ∧ x.isNaN = false ∧ x.isInf = false := by
  obtain ⟨hm, hunpack⟩ := h.unpack_eq
  change x.toModel.unpack.isFinite = true ∧ x.toModel.unpack.isNaN = false ∧ x.toModel.unpack.isInf = false
  rw [hunpack]
  exact ⟨rfl, rfl, rfl⟩

theorem magnitude {e : Nat} (h : IsNormal x s m e) : numerator x = m * 2 ^ e ∧ denominator x = 1 := by
  obtain ⟨hm, he, -⟩ := h.fields
  rw [numerator, denominator, hm, he, Int.toNat_natCast, Nat.pow_eq, Nat.pow_eq, Int.toNat_neg_natCast, pow_zero]
  exact ⟨rfl, rfl⟩

theorem isWhole {e : Nat} (h : IsNormal x s m e) : Decimal.isWhole x = true := by
  rw [Decimal.isWhole, h.isFinite.1, h.magnitude.2, Nat.mod_one]
  rfl

theorem toIntClamped {e : Nat} (h : IsNormal x s m e) (least greatest : Int) :
    Decimal.toIntClamped x least greatest =
      max least (min greatest (if s == .negative then -((m * 2 ^ e : Nat) : Int) else (m * 2 ^ e : Nat))) := by
  rw [Decimal.toIntClamped, wholePart, h.isFinite.2.1, h.isFinite.2.2, h.magnitude.1, h.magnitude.2, h.fields.2.2,
    Nat.div_one]
  rfl

end IsNormal

end Stencil.Decimal
