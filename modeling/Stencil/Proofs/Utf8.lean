import Stencil.Text.Utf8

/-!
# Reading UTF-8

The bytes of a text are read as that text: the first byte of a character tells how many follow and bounds the
second one, and what is written lies within these bounds, since surrogates are no characters.
-/
namespace Stencil.Text

theorem toNat_toUInt8 {n : Nat} (h : n < 256) : n.toUInt8.toNat = n := by
  simp [Nat.toUInt8, Nat.mod_eq_of_lt h]

theorem utf8Tail_cons {code low high n m : Nat} (hlow : low ≤ m) (hhigh : m ≤ high) (hm : m < 256)
    (rest : List UInt8) :
    utf8Tail code low high (n + 1) (m.toUInt8 :: rest) = utf8Tail (64 * code + m % 64) 0x80 0xBF n rest := by
  rw [utf8Tail, toNat_toUInt8 hm, if_pos ⟨hlow, hhigh⟩]

theorem utf8Tail_last {code n : Nat} (h : n / 64 = code) (rest : List UInt8) :
    utf8Tail code 0x80 0xBF 1 ((0x80 + n % 64).toUInt8 :: rest) = (some (Char.ofNat n), rest) := by
  have hcode : 64 * code + (0x80 + n % 64) % 64 = n := by omega
  rw [utf8Tail_cons (by omega) (by omega) (by omega), utf8Tail, hcode]

section First

variable {k : Nat} (rest : List UInt8)

theorem utf8Next_one (h : k < 0x80) : utf8Next k.toUInt8 rest = (some (Char.ofNat k), rest) := by
  rw [utf8Next, toNat_toUInt8 (by omega)]
  exact if_pos h

theorem utf8Next_two (hlow : 2 ≤ k) (hhigh : k < 32) :
    utf8Next (0xC0 + k).toUInt8 rest = utf8Tail k 0x80 0xBF 1 rest := by
  rw [utf8Next, toNat_toUInt8 (by omega)]
  simp only [show (0xC0 + k) % 32 = k by omega]
  rw [if_neg (by omega), if_neg (by omega), if_pos (by omega)]

/-- Of three bytes the second one is bounded so that no shorter form and no surrogate is read. -/
theorem utf8Next_three (hk : k < 16) :
    utf8Next (0xE0 + k).toUInt8 rest =
      utf8Tail k (if k = 0 then 0xA0 else 0x80) (if k = 13 then 0x9F else 0xBF) 2 rest := by
  rw [utf8Next, toNat_toUInt8 (by omega)]
  simp only [show (0xE0 + k) % 16 = k by omega]
  rw [if_neg (by omega), if_neg (by omega), if_neg (by omega)]
  by_cases hzero : k = 0
  · subst hzero
    rfl
  · rw [if_neg (by omega), if_neg hzero]
    by_cases hsurrogate : k = 13
    · subst hsurrogate
      rfl
    · rw [if_neg (by omega), if_neg hsurrogate, if_pos (by omega)]

theorem utf8Next_four (hk : k < 5) :
    utf8Next (0xF0 + k).toUInt8 rest =
      utf8Tail k (if k = 0 then 0x90 else 0x80) (if k = 4 then 0x8F else 0xBF) 3 rest := by
  match k, hk with
  | 0, _ | 1, _ | 2, _ | 3, _ | 4, _ => rfl

end First

theorem readUtf8_utf8Char (c : Char) (rest : List UInt8) :
    readUtf8 (utf8Char c ++ rest) = some c :: readUtf8 rest := by
  have hvalid : c.toNat < 0xD800 ∨ 0xDFFF < c.toNat ∧ c.toNat < 0x110000 := c.valid
  have hchar : Char.ofNat c.toNat = c := Char.ofNat_toNat c
  unfold utf8Char
  generalize c.toNat = n at hvalid hchar
  have key (b : UInt8) (tail : List UInt8) (hnext : utf8Next b (tail ++ rest) = (some c, rest)) :
      readUtf8 (b :: tail ++ rest) = some c :: readUtf8 rest := by
    rw [List.cons_append, readUtf8, hnext]
  dsimp only
  split
  · refine key _ [] ?_
    rw [utf8Next_one _ (by omega), hchar]
    rfl
  · split
    · refine key _ [_] ?_
      rw [utf8Next_two _ (by omega) (by omega), List.singleton_append, utf8Tail_last rfl, hchar]
    · split
      · refine key _ [_, _] ?_
        rw [utf8Next_three _ (by omega)]
        simp only [List.cons_append, List.nil_append]
        rw [utf8Tail_cons (by split <;> omega) (by split <;> omega) (by omega), utf8Tail_last (by omega), hchar]
      · refine key _ [_, _, _] ?_
        rw [utf8Next_four _ (by omega)]
        simp only [List.cons_append, List.nil_append]
        rw [utf8Tail_cons (by split <;> omega) (by split <;> omega) (by omega),
          utf8Tail_cons (by omega) (by omega) (by omega), utf8Tail_last (by omega), hchar]

theorem readUtf8_utf8 (s : List Char) : readUtf8 (utf8 s) = s.map some := by
  induction s with
  | nil =>
    rw [utf8, List.flatMap_nil, readUtf8]
    rfl
  | cons c s ih =>
    rw [utf8] at ih ⊢
    rw [List.flatMap_cons, readUtf8_utf8Char, ih, List.map_cons]

theorem ofUtf8Lossy_utf8 (s : List Char) : ofUtf8Lossy (utf8 s) = s := by
  rw [ofUtf8Lossy, readUtf8_utf8, List.map_map]
  exact List.map_id' s

theorem ofUtf8?_utf8 (s : List Char) : ofUtf8? (utf8 s) = some s := by
  rw [ofUtf8?, readUtf8_utf8]
  simp [List.filterMap_map]

end Stencil.Text
