import Stencil.Codec.Form
import Stencil.Proofs.Grammar
import Stencil.Proofs.Utf8

/-!
# Reading form encoding

Form-encoded text is read as what was encoded: a plus sign is written only for a blank, a percent sign only in front
of the two digits of a byte, and what stands for itself is neither. So each character is read back from what it is
written as, whatever follows.
-/
namespace Stencil.Codec.Form

open Stencil.Text

def isWritten (c : Char) : Bool := isPlain c || c == '+' || c == '%'

def digit (n : Nat) : Char := (hexDigit n).toUpper

theorem percent_eq (b : UInt8) : percent b = ['%', digit (b.toNat / 16), digit (b.toNat % 16)] := rfl

theorem isPlain_digit {n : Nat} (h : n < 16) : isPlain (digit n) = true := by
  have hall : ∀ n : Fin 16, isPlain (digit n) = true := by decide
  exact hall ⟨n, h⟩

theorem hexValue?_digit {n : Nat} (h : n < 16) : hexValue? (digit n) = some n := by
  have hall : ∀ n : Fin 16, hexValue? (digit n) = some n.val := by decide
  exact hall ⟨n, h⟩

theorem isWritten_of_mem_percent {b : UInt8} {c : Char} (h : c ∈ percent b) : isWritten c = true := by
  have hb : b.toNat < 256 := b.toNat_lt
  rw [percent_eq] at h
  simp only [List.mem_cons, List.not_mem_nil, or_false] at h
  rcases h with rfl | rfl | rfl
  · decide
  · rw [isWritten, isPlain_digit (by omega), Bool.true_or, Bool.true_or]
  · rw [isWritten, isPlain_digit (by omega), Bool.true_or, Bool.true_or]

theorem isWritten_of_mem_encode {s : List Char} {c : Char} (h : c ∈ encode s) : isWritten c = true := by
  obtain ⟨d, -, hd⟩ := List.mem_flatMap.mp h
  unfold encodeChar at hd
  split at hd
  · obtain rfl := List.mem_singleton.mp hd
    decide
  · split at hd
    · next hplain =>
      obtain rfl := List.mem_singleton.mp hd
      rw [isWritten, hplain, Bool.true_or, Bool.true_or]
    · obtain ⟨b, -, hb⟩ := List.mem_flatMap.mp hd
      exact isWritten_of_mem_percent hb

theorem toNat_lt_of_isPlain {c : Char} (h : isPlain c = true) : c.toNat < 128 := by
  have hc : c.isAlphanum = true ∨ c = '*' ∨ c = '-' ∨ c = '.' ∨ c = '_' := by
    simpa [isPlain, or_assoc] using h
  rcases hc with hc | rfl | rfl | rfl | rfl
  · have hrange := Tag.Grammar.range_of_isAlphanum hc
    omega
  all_goals decide

theorem utf8Char_of_isPlain {c : Char} (h : isPlain c = true) : utf8Char c = [c.toNat.toUInt8] :=
  if_pos (toNat_lt_of_isPlain h)

/-- The bytes of form-encoded text, with plus signs as blanks. -/
def bytesOf (s : List Char) : List UInt8 := utf8 (s.map fun c => if c = '+' then ' ' else c)

theorem decode_eq (s : List Char) : decode s = ofUtf8Lossy (unpercent (bytesOf s)) := rfl

theorem bytesOf_append (s t : List Char) : bytesOf (s ++ t) = bytesOf s ++ bytesOf t := by
  rw [bytesOf, List.map_append, utf8, List.flatMap_append]
  rfl

theorem bytesOf_cons_of_isPlain {c : Char} (h : isPlain c = true) (s : List Char) :
    bytesOf (c :: s) = c.toNat.toUInt8 :: bytesOf s := by
  have hplus : c ≠ '+' := ne_of_class h (by decide)
  rw [bytesOf, List.map_cons, if_neg hplus, utf8, List.flatMap_cons, utf8Char_of_isPlain h]
  rfl

theorem unpercent_cons {b : UInt8} (h : b.toNat ≠ 37) (rest : List UInt8) :
    unpercent (b :: rest) = b :: unpercent rest := by
  match rest with
  | [] => rfl
  | [c] => rfl
  | c :: d :: rest => rw [unpercent, if_neg h]

theorem unpercent_percent (b : UInt8) (rest : List UInt8) :
    unpercent (bytesOf (percent b) ++ rest) = b :: unpercent rest := by
  have hb : b.toNat < 256 := b.toNat_lt
  have hhigh : b.toNat / 16 < 16 := by omega
  have hlow : b.toNat % 16 < 16 := by omega
  have hback {n : Nat} (hn : n < 16) : Char.ofNat (digit n).toNat.toUInt8.toNat = digit n := by
    rw [toNat_toUInt8 ((toNat_lt_of_isPlain (isPlain_digit hn)).trans (by decide)), Char.ofNat_toNat]
  have hsign : bytesOf (percent b) =
      37 :: bytesOf [digit (b.toNat / 16), digit (b.toNat % 16)] := rfl
  have hsum : 16 * (b.toNat / 16) + b.toNat % 16 = b.toNat := by omega
  rw [hsign, bytesOf_cons_of_isPlain (isPlain_digit hhigh), bytesOf_cons_of_isPlain (isPlain_digit hlow)]
  simp only [List.cons_append]
  rw [unpercent, if_pos (by decide), hback hhigh, hback hlow, hexValue?_digit hhigh, hexValue?_digit hlow]
  dsimp only
  rw [hsum]
  simp [bytesOf, utf8]

theorem unpercent_flatMap_percent (bytes rest : List UInt8) :
    unpercent (bytesOf (bytes.flatMap percent) ++ rest) = bytes ++ unpercent rest := by
  induction bytes with
  | nil => rfl
  | cons b bytes ih =>
    rw [List.flatMap_cons, bytesOf_append, List.append_assoc, unpercent_percent, ih, List.cons_append]

theorem unpercent_encodeChar (c : Char) (rest : List UInt8) :
    unpercent (bytesOf (encodeChar c) ++ rest) = utf8Char c ++ unpercent rest := by
  unfold encodeChar
  split
  · next hblank =>
    subst hblank
    exact unpercent_cons (by decide) rest
  · split
    · next hplain =>
      have hbyte : c.toNat.toUInt8.toNat ≠ 37 := by
        rw [toNat_toUInt8 ((toNat_lt_of_isPlain hplain).trans (by decide))]
        intro heq
        have hpercent : c = '%' := Char.toNat_inj.mp heq
        exact absurd (hpercent ▸ hplain) (by decide)
      rw [bytesOf_cons_of_isPlain hplain, utf8Char_of_isPlain hplain]
      exact unpercent_cons hbyte rest
    · exact unpercent_flatMap_percent (utf8Char c) rest

theorem unpercent_encode (s : List Char) : unpercent (bytesOf (encode s)) = utf8 s := by
  induction s with
  | nil => rfl
  | cons c s ih =>
    rw [encode] at ih ⊢
    rw [List.flatMap_cons, bytesOf_append, unpercent_encodeChar, ih]
    rfl

theorem decode_encode (s : List Char) : decode (encode s) = s := by
  rw [decode_eq, unpercent_encode, ofUtf8Lossy_utf8]

end Stencil.Codec.Form
