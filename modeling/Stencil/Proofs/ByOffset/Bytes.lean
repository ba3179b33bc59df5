import Stencil.Proofs.ByOffset.Checked
import Stencil.Proofs.Utf8

/-!
# Texts as bytes

The bytes of a text, each as the character with its number. Those below 128 are the ASCII characters of the text; all
bytes of other characters lie above.
-/
namespace Stencil.Text

def bytes (s : List Char) : List Char := (utf8 s).map fun b => Char.ofNat b.toNat

theorem bytes_append (s t : List Char) : bytes (s ++ t) = bytes s ++ bytes t := by simp [bytes, utf8]

theorem bytes_cons (c : Char) (s : List Char) : bytes (c :: s) = bytes [c] ++ bytes s := bytes_append [c] s

theorem length_bytes (s : List Char) : (bytes s).length = byteLength s := by
  induction s with
  | nil => rfl
  | cons c s ih =>
    have hchar : (utf8Char c).length = c.utf8Size := by
      have hval : c.toNat = c.val.toNat := rfl
      unfold utf8Char Char.utf8Size
      simp only [hval, UInt32.le_iff_toNat_le]
      split_ifs <;> simp_all <;> omega
    rw [bytes_cons, List.length_append, ih, byteLength_cons]
    simp [bytes, utf8, hchar]

theorem bytes_ne_nil (c : Char) : bytes [c] ≠ [] := by
  intro hnil
  have hsize := c.utf8Size_pos
  have hlength := length_bytes [c]
  rw [hnil, byteLength_cons, List.length_nil, byteLength_nil] at hlength
  omega

theorem bytes_of_lt {c : Char} (hc : c.toNat < 128) : bytes [c] = [c] := by
  have hbyte : c.toNat.toUInt8.toNat = c.toNat := toNat_toUInt8 (by omega)
  simp [bytes, utf8, utf8Char, hc, hbyte]

theorem ne_of_foreign {c d : Char} (hc : 128 ≤ c.toNat) (hd : d.toNat < 128) : c ≠ d := by
  rintro rfl
  omega

theorem utf8Size_of_lt {c : Char} (hc : c.toNat < 128) : c.utf8Size = 1 := by
  have hlength := length_bytes [c]
  rw [bytes_of_lt hc, byteLength_cons, byteLength_nil] at hlength
  exact hlength.symm

theorem offsetOf_add_one {text : String} {c : Char} {s : List Char} (h : c :: s <:+ text.toList) (hc : c.toNat < 128) :
    offsetOf text (c :: s) + 1 = offsetOf text s := by
  rw [offsetOf_cons h, utf8Size_of_lt hc]

theorem offsetOf_ofList_cons {c : Char} (hc : c.toNat < 128) (s : List Char) :
    offsetOf (String.ofList (c :: s)) s = 1 := by
  rw [← offsetOf_add_one (suffix_ofList (c :: s)) hc, offsetOf_ofList]

theorem offsetOf_eq_last_iff {text : String} {c : Char} {s : List Char} (h : c :: s <:+ text.toList)
    (hc : c.toNat < 128) : offsetOf text (c :: s) = text.utf8ByteSize - 1 ↔ s = [] := by
  have hnext := offsetOf_add_one h hc
  constructor
  · intro hlast
    by_contra hne
    have hlt := offsetOf_lt_size ((List.suffix_cons c s).trans h) hne
    omega
  · rintro rfl
    rw [offsetOf_nil] at hnext
    omega

theorem toNat_lt_of_valid (c : Char) : c.toNat < 0x110000 := by
  have hvalid := c.valid
  have hval : c.toNat = c.val.toNat := rfl
  unfold UInt32.isValidChar Nat.isValidChar at hvalid
  omega

theorem le_toNat_of_mem_bytes {c b : Char} (hc : 128 ≤ c.toNat) (hb : b ∈ bytes [c]) : 128 ≤ b.toNat := by
  have hmax := toNat_lt_of_valid c
  have key {n : Nat} (hlow : 128 ≤ n) (hhigh : n < 256) : 128 ≤ (Char.ofNat n.toUInt8.toNat).toNat := by
    have hvalid : n.isValidChar := .inl (by omega)
    rw [toNat_toUInt8 hhigh, Char.ofNat, dif_pos hvalid]
    exact hlow
  obtain ⟨byte, hbyte, rfl⟩ := List.mem_map.mp hb
  rw [utf8, List.flatMap_singleton, utf8Char] at hbyte
  split_ifs at hbyte
  all_goals
    simp only [List.mem_cons, List.not_mem_nil, or_false] at hbyte
    rcases hbyte with rfl | rfl | rfl | rfl <;> exact key (by omega) (by omega)

/-- A byte below 128 is a character of the text. -/
theorem exists_of_getElem?_bytes {s : List Char} {i : Nat} {b : Char} (h : (bytes s)[i]? = some b)
    (hb : b.toNat < 128) : ∃ front rest, s = front ++ b :: rest ∧ byteLength front = i := by
  induction s generalizing i with
  | nil => simp [bytes, utf8] at h
  | cons c s ih =>
    have hsize : (bytes [c]).length = c.utf8Size := length_bytes [c]
    rw [bytes_cons] at h
    rcases Nat.lt_or_ge i (bytes [c]).length with hi | hi
    · rw [List.getElem?_append_left hi, List.getElem?_eq_getElem hi, Option.some.injEq] at h
      have hascii : c.toNat < 128 := by
        by_contra hge
        have hhigh := le_toNat_of_mem_bytes (by omega) (h ▸ List.getElem_mem hi)
        omega
      have hone := utf8Size_of_lt hascii
      obtain rfl : i = 0 := by omega
      simp only [bytes_of_lt hascii, List.getElem_cons_zero] at h
      exact ⟨[], s, by rw [h]; rfl, rfl⟩
    · rw [List.getElem?_append_right hi] at h
      obtain ⟨front, rest, rfl, hfront⟩ := ih h
      refine ⟨c :: front, rest, rfl, ?_⟩
      rw [byteLength_cons]
      omega

/-- No byte of a character outside of a class of ASCII characters is in the class. -/
theorem not_class_of_mem_bytes {p : Char → Bool} (hp : ∀ c, p c = true → c.toNat < 128) {c b : Char} (hc : ¬p c = true)
    (hb : b ∈ bytes [c]) : ¬p b = true := by
  rcases Nat.lt_or_ge c.toNat 128 with hlt | hge
  · rw [bytes_of_lt hlt, List.mem_singleton] at hb
    exact hb ▸ hc
  · intro hpb
    have hhigh := le_toNat_of_mem_bytes hge hb
    have hlow := hp b hpb
    omega

def runLength (p : Char → Bool) (s : List Char) : Nat := ((bytes s).takeWhile p).length

/-- A run of ASCII characters is as long in bytes as it is in characters. -/
theorem runLength_eq {p : Char → Bool} (hp : ∀ c, p c = true → c.toNat < 128) (s : List Char) :
    runLength p s = byteLength (s.takeWhile p) := by
  induction s with
  | nil => rfl
  | cons c s ih =>
    by_cases hc : p c = true
    · have hsize := length_bytes [c]
      have hcons := byteLength_cons c (s.takeWhile p)
      rw [bytes_of_lt (hp c hc), byteLength_cons, List.length_singleton, byteLength_nil] at hsize
      rw [runLength] at ih ⊢
      rw [bytes_cons, bytes_of_lt (hp c hc), List.singleton_append, List.takeWhile_cons_of_pos hc,
        List.takeWhile_cons_of_pos hc, List.length_cons, ih, hcons]
      omega
    · obtain ⟨b, more, hbytes⟩ := List.exists_cons_of_ne_nil (bytes_ne_nil c)
      have hb : ¬p b = true := not_class_of_mem_bytes hp hc (by simp [hbytes])
      rw [runLength, bytes_cons, hbytes, List.cons_append, List.takeWhile_cons_of_neg hb, List.takeWhile_cons_of_neg hc]
      rfl

/-- The run of ASCII characters that a text ends with is the one that its bytes end with. -/
theorem takeWhile_reverse_bytes {p : Char → Bool} (hp : ∀ c, p c = true → c.toNat < 128) (s : List Char) :
    (bytes s).reverse.takeWhile p = s.reverse.takeWhile p := by
  induction s using List.reverseRecOn with
  | nil => rfl
  | append_singleton s c ih =>
    rw [bytes_append, List.reverse_append, List.reverse_append, List.reverse_singleton, List.singleton_append]
    by_cases hc : p c = true
    · rw [bytes_of_lt (hp c hc), List.reverse_singleton, List.singleton_append, List.takeWhile_cons_of_pos hc,
        List.takeWhile_cons_of_pos hc, ih]
    · have hne : (bytes [c]).reverse ≠ [] := by simpa using bytes_ne_nil c
      obtain ⟨b, more, hbytes⟩ := List.exists_cons_of_ne_nil hne
      have hmem : b ∈ (bytes [c]).reverse := by simp [hbytes]
      have hb : ¬p b = true := not_class_of_mem_bytes hp hc (List.mem_reverse.mp hmem)
      rw [hbytes, List.cons_append, List.takeWhile_cons_of_neg hb, List.takeWhile_cons_of_neg hc]

end Stencil.Text

namespace Stencil.ByOffset

open Stencil.Text

theorem suffix_behind {c d : Char} {s rest inside after : List Char} (h : c :: rest <:+ s)
    (hrest : rest = inside ++ d :: after) : d :: after <:+ s :=
  (hrest ▸ List.suffix_append inside _).trans ((List.suffix_cons c rest).trans h)

section Behind

variable {text : String} {c : Char} {rest : List Char} (h : c :: rest <:+ text.toList) (hc : c.toNat < 128)
include h hc

theorem slice_behind {d : Char} {inside after : List Char} (hrest : rest = inside ++ d :: after) :
    slice text (offsetOf text (c :: rest) + 1) (offsetOf text (d :: after)) = pure (String.ofList inside) := by
  rw [offsetOf_add_one h hc]
  subst hrest
  exact slice_offsetOf ((List.suffix_cons c _).trans h)

theorem sliceFrom_behind : sliceFrom text (offsetOf text (c :: rest) + 1) = pure (String.ofList rest) := by
  rw [offsetOf_add_one h hc, sliceFrom_offsetOf ((List.suffix_cons c rest).trans h)]

end Behind

def byteAt? (text : String) (i : Nat) : Option Char := (bytes text.toList)[i]?

section At

variable {text : String} {c : Char} {rest : List Char}

theorem byteAt?_offsetOf (h : rest <:+ text.toList) (k : Nat) :
    byteAt? text (offsetOf text rest + k) = (bytes rest)[k]? := by
  obtain ⟨front, hfront⟩ := h
  rw [byteAt?, offsetOf_of_append hfront.symm, ← hfront, bytes_append, ← length_bytes,
    List.getElem?_append_right (Nat.le_add_right _ _), Nat.add_sub_cancel_left]

theorem byteAt?_of_lt (h : c :: rest <:+ text.toList) (hc : c.toNat < 128) :
    byteAt? text (offsetOf text (c :: rest)) = some c := by
  have hbyte := byteAt?_offsetOf h 0
  rwa [bytes_cons, bytes_of_lt hc] at hbyte

theorem exists_byteAt?_of_le (h : c :: rest <:+ text.toList) (hc : 128 ≤ c.toNat) {k : Nat} (hk : k < c.utf8Size) :
    ∃ b, byteAt? text (offsetOf text (c :: rest) + k) = some b ∧ 128 ≤ b.toNat := by
  have hlength : k < (bytes [c]).length := by simpa [length_bytes, byteLength_cons] using hk
  have hbyte := byteAt?_offsetOf h k
  rw [bytes_cons, List.getElem?_append_left hlength, List.getElem?_eq_getElem hlength] at hbyte
  exact ⟨_, hbyte, le_toNat_of_mem_bytes hc (List.getElem_mem hlength)⟩

theorem byteAt?_eq_none_iff {i : Nat} : byteAt? text i = none ↔ text.utf8ByteSize ≤ i := by
  rw [byteAt?, List.getElem?_eq_none_iff, length_bytes, byteLength_toList]

/-- A loop that goes by one byte where it sees no ASCII character passes over the bytes of such a character, from
whichever of them it goes on. -/
theorem loop_foreign {σ ρ : Type} {round : Nat → σ → Checked (Round σ ρ)} {state : σ}
    (hround : ∀ i b, byteAt? text i = some b → 128 ≤ b.toNat → round i state = pure (.again (i + 1) state))
    (h : c :: rest <:+ text.toList) (hc : 128 ≤ c.toNat) {k : Nat} (hk : k ≤ c.utf8Size) :
    loop text round (offsetOf text (c :: rest) + k) state = loop text round (offsetOf text rest) state := by
  obtain ⟨n, hn⟩ := Nat.exists_eq_add_of_le hk
  induction n generalizing k with
  | zero =>
    obtain rfl : k = c.utf8Size := by omega
    rw [offsetOf_cons h]
  | succ n ih =>
    obtain ⟨b, hbyte, hb⟩ := exists_byteAt?_of_le h hc (show k < c.utf8Size by omega)
    have hpos : offsetOf text (c :: rest) + k < text.utf8ByteSize := by
      have hrest := offsetOf_le text rest
      rw [offsetOf_cons h] at hrest
      omega
    rw [loop_again (hround _ b hbyte hb) (Nat.lt_succ_self _) hpos]
    exact ih (k := k + 1) (by omega) (by omega)

/-- So a round that skips the byte behind an ASCII character skips the character that the byte begins. -/
theorem loop_skip {σ ρ : Type} {round : Nat → σ → Checked (Round σ ρ)} {state state' : σ} {d : Char}
    (hround : ∀ i b, byteAt? text i = some b → 128 ≤ b.toNat → round i state' = pure (.again (i + 1) state'))
    (h : c :: d :: rest <:+ text.toList) (hc : c.toNat < 128)
    (hskip : round (offsetOf text (c :: d :: rest)) state =
      pure (.again (offsetOf text (c :: d :: rest) + 2) state')) :
    loop text round (offsetOf text (c :: d :: rest)) state = loop text round (offsetOf text rest) state' := by
  have hrest := (List.suffix_cons c _).trans h
  have htwo : offsetOf text (c :: d :: rest) + 2 = offsetOf text (d :: rest) + 1 := by rw [← offsetOf_add_one h hc]
  rw [loop_again hskip (by omega) (offsetOf_lt_size h (List.cons_ne_nil _ _)), htwo]
  rcases Nat.lt_or_ge d.toNat 128 with hd | hd
  · rw [offsetOf_add_one hrest hd]
  · exact loop_foreign hround hrest hd d.utf8Size_pos

end At

end Stencil.ByOffset
