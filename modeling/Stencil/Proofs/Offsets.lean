import Stencil.Proofs.Escape

/-!
# Byte offsets

Where a text is split at a byte offset: exactly at the boundaries of its characters. A place within a text is given by
its offset or by what lies ahead of it.
-/
namespace Stencil.Text

@[simp] theorem byteLength_nil : byteLength [] = 0 := rfl

theorem byteLength_cons (c : Char) (s : List Char) : byteLength (c :: s) = c.utf8Size + byteLength s := rfl

theorem byteLength_pos {s : List Char} (h : s ≠ []) : 0 < byteLength s := by
  obtain ⟨c, s, rfl⟩ := List.exists_cons_of_ne_nil h
  have hsize := c.utf8Size_pos
  rw [byteLength_cons]
  omega

theorem length_le_byteLength (s : List Char) : s.length ≤ byteLength s := by
  induction s with
  | nil => exact Nat.le_refl 0
  | cons c s ih =>
    have hsize := c.utf8Size_pos
    rw [byteLength_cons, List.length_cons]
    omega

theorem byteLength_le_of_prefix {s t : List Char} (h : s <+: t) : byteLength s ≤ byteLength t := by
  obtain ⟨rest, rfl⟩ := h
  rw [byteLength_append]
  exact Nat.le_add_right _ _

theorem byteLength_le_of_suffix {s t : List Char} (h : s <:+ t) : byteLength s ≤ byteLength t := by
  obtain ⟨front, rfl⟩ := h
  rw [byteLength_append]
  exact Nat.le_add_left _ _

theorem byteLength_reverse (s : List Char) : byteLength s.reverse = byteLength s := by
  induction s with
  | nil => rfl
  | cons c s ih =>
    rw [List.reverse_cons, byteLength_append, ih, Nat.add_comm, ← byteLength_append,
      List.singleton_append]

theorem utf8ByteSize_ofList (s : List Char) : (String.ofList s).utf8ByteSize = byteLength s := by
  induction s with
  | nil => rfl
  | cons c s ih =>
    have hcons : String.ofList (c :: s) = String.singleton c ++ String.ofList s := by
      rw [← String.toList_inj]
      simp
    rw [hcons, String.utf8ByteSize_append, String.utf8ByteSize_singleton, ih, byteLength_cons]

theorem byteLength_toList (text : String) : byteLength text.toList = text.utf8ByteSize := by
  rw [← utf8ByteSize_ofList, String.ofList_toList]

section Prefix

variable {s p q : List Char} (hp : p <+: s) (hq : q <+: s)
include hp hq

/-- Of two texts that begin a third one, the shorter one begins the longer one. -/
theorem prefix_of_byteLength_le (h : byteLength p ≤ byteLength q) : p <+: q := by
  rcases List.prefix_or_prefix_of_prefix hp hq with hpq | ⟨t, rfl⟩
  · exact hpq
  · rw [byteLength_append] at h
    have ht : t = [] := by
      by_contra hne
      have hpos := byteLength_pos hne
      omega
    simp [ht]

theorem length_lt_of_byteLength_lt (h : byteLength p < byteLength q) : p.length < q.length := by
  have hpq := prefix_of_byteLength_le hp hq (Nat.le_of_lt h)
  refine Nat.lt_of_le_of_ne hpq.length_le fun heq => ?_
  rw [hpq.eq_of_length heq] at h
  exact absurd h (Nat.lt_irrefl _)

theorem byteLength_lt_of_length_lt (h : p.length < q.length) : byteLength p < byteLength q := by
  by_contra hle
  have hqp := prefix_of_byteLength_le hq hp (by omega)
  exact absurd hqp.length_le (by omega)

end Prefix

theorem splitAtByte_append (s t : List Char) : splitAtByte (byteLength s) (s ++ t) = some (s, t) := by
  induction s with
  | nil => exact splitAtByte.eq_1 t
  | cons c s ih =>
    have hsize := c.utf8Size_pos
    have hlength := byteLength_cons c s
    obtain ⟨n, hn⟩ : ∃ n, byteLength (c :: s) = n + 1 := ⟨byteLength (c :: s) - 1, by omega⟩
    have hle : c.utf8Size ≤ n + 1 := by omega
    have hrest : n + 1 - c.utf8Size = byteLength s := by omega
    rw [hn, List.cons_append, splitAtByte, if_pos hle, hrest, ih]
    rfl

theorem splitAtByte_eq_some_iff {n : Nat} {s front rest : List Char} :
    splitAtByte n s = some (front, rest) ↔ s = front ++ rest ∧ byteLength front = n := by
  refine ⟨fun h => ?_, fun ⟨hs, hn⟩ => hs ▸ hn ▸ splitAtByte_append front rest⟩
  fun_induction splitAtByte n s generalizing front with
  | case1 s =>
    obtain ⟨rfl, rfl⟩ := Prod.mk.inj (Option.some.inj h)
    exact ⟨rfl, rfl⟩
  | case2 => cases h
  | case3 n c s hle ih =>
    obtain ⟨⟨front', rest'⟩, hsplit, heq⟩ := Option.map_eq_some_iff.mp h
    obtain ⟨rfl, rfl⟩ := Prod.mk.inj heq
    obtain ⟨rfl, hlength⟩ := ih hsplit
    rw [byteLength_cons]
    exact ⟨rfl, by omega⟩
  | case4 => cases h

/-- Whether a byte offset lies within a text, or at its end, and between two of its characters. -/
def IsBoundary (text : String) (offset : Nat) : Prop := String.Pos.Raw.IsValid text ⟨offset⟩

theorem isBoundary_iff {text : String} {offset : Nat} :
    IsBoundary text offset ↔ ∃ front rest, text.toList = front ++ rest ∧ byteLength front = offset := by
  rw [IsBoundary, String.Pos.Raw.isValid_iff_exists_append]
  constructor
  · rintro ⟨s, t, rfl, hoffset⟩
    refine ⟨s.toList, t.toList, String.toList_append, ?_⟩
    rw [byteLength_toList]
    exact (congrArg String.Pos.Raw.byteIdx hoffset).symm
  · rintro ⟨front, rest, htext, rfl⟩
    refine ⟨String.ofList front, String.ofList rest, ?_, ?_⟩
    · rw [← String.toList_inj, htext]
      simp
    · rw [← String.toList_ofList (l := front), byteLength_toList, String.toList_ofList]
      rfl

theorem IsBoundary.le {text : String} {offset : Nat} (h : IsBoundary text offset) : offset ≤ text.utf8ByteSize := by
  obtain ⟨front, rest, htext, rfl⟩ := isBoundary_iff.mp h
  rw [← byteLength_toList, htext]
  exact byteLength_le_of_prefix (List.prefix_append front rest)

theorem isBoundary_of_append {text : String} {front rest : List Char} (h : text.toList = front ++ rest) :
    IsBoundary text (byteLength front) := isBoundary_iff.mpr ⟨front, rest, h, rfl⟩

/-- Byte offset of the place in a text from which `rest` lies ahead. -/
def offsetOf (text : String) (rest : List Char) : Nat := byteLength text.toList - byteLength rest

section Ahead

variable {text : String} {front rest s t : List Char} {c : Char}

theorem offsetOf_of_append (h : text.toList = front ++ rest) : offsetOf text rest = byteLength front := by
  rw [offsetOf, h, byteLength_append]
  omega

theorem offsetOf_append (h : s ++ t <:+ text.toList) : offsetOf text t = offsetOf text (s ++ t) + byteLength s := by
  obtain ⟨front, hfront⟩ := h
  have hbehind : text.toList = front ++ s ++ t := by rw [List.append_assoc, hfront]
  rw [offsetOf_of_append hbehind, offsetOf_of_append hfront.symm, byteLength_append]

theorem offsetOf_cons (h : c :: s <:+ text.toList) : offsetOf text s = offsetOf text (c :: s) + c.utf8Size :=
  offsetOf_append (s := [c]) h

theorem offsetOf_nil (text : String) : offsetOf text [] = text.utf8ByteSize := byteLength_toList text

theorem offsetOf_toList (text : String) : offsetOf text text.toList = 0 := Nat.sub_self _

theorem suffix_ofList (s : List Char) : s <:+ (String.ofList s).toList :=
  ⟨[], by rw [List.nil_append, String.toList_ofList]⟩

theorem offsetOf_ofList (s : List Char) : offsetOf (String.ofList s) s = 0 := by
  rw [offsetOf, String.toList_ofList, Nat.sub_self]

theorem offsetOf_le (text : String) (rest : List Char) : offsetOf text rest ≤ text.utf8ByteSize :=
  offsetOf_nil text ▸ Nat.sub_le_sub_left (Nat.zero_le _) _

theorem offsetOf_le_of_suffix (text : String) (h : t <:+ s) : offsetOf text s ≤ offsetOf text t := by
  exact Nat.sub_le_sub_left (byteLength_le_of_suffix h) _

/-- The offset grows where a text is read on. -/
theorem offsetOf_lt (hs : s <:+ text.toList) (ht : t <:+ s) (hlength : t.length < s.length) :
    offsetOf text s < offsetOf text t := by
  obtain ⟨piece, rfl⟩ := ht
  have hpiece : piece ≠ [] := by
    rintro rfl
    simp at hlength
  have hpos := byteLength_pos hpiece
  rw [offsetOf_append hs]
  omega

theorem offsetOf_lt_size (hs : s <:+ text.toList) (hne : s ≠ []) : offsetOf text s < text.utf8ByteSize := by
  rw [← offsetOf_nil]
  exact offsetOf_lt hs List.nil_suffix (List.length_pos_iff.mpr hne)

/-- What lies ahead of a greater offset is shorter. -/
theorem offsetOf_lt_iff (hs : s <:+ text.toList) (ht : t <:+ text.toList) :
    offsetOf text s < offsetOf text t ↔ t.length < s.length := by
  constructor
  · intro h
    by_contra hle
    have hsuffix := List.suffix_of_suffix_length_le hs ht (Nat.not_lt.mp hle)
    exact absurd h (Nat.not_lt.mpr (offsetOf_le_of_suffix text hsuffix))
  · intro h
    exact offsetOf_lt hs (List.suffix_of_suffix_length_le ht hs (Nat.le_of_lt h)) h

theorem isBoundary_offsetOf (h : rest <:+ text.toList) : IsBoundary text (offsetOf text rest) := by
  obtain ⟨front, hfront⟩ := h
  rw [offsetOf_of_append hfront.symm]
  exact isBoundary_of_append hfront.symm

theorem IsBoundary.exists_offsetOf {offset : Nat} (h : IsBoundary text offset) :
    ∃ rest, rest <:+ text.toList ∧ offsetOf text rest = offset := by
  obtain ⟨front, rest, htext, rfl⟩ := isBoundary_iff.mp h
  exact ⟨rest, ⟨front, htext.symm⟩, offsetOf_of_append htext⟩

theorem splitAtByte_offsetOf (h : rest <:+ text.toList) :
    ∃ front, text.toList = front ++ rest ∧ splitAtByte (offsetOf text rest) text.toList = some (front, rest) := by
  obtain ⟨front, hfront⟩ := h
  refine ⟨front, hfront.symm, ?_⟩
  rw [offsetOf_of_append hfront.symm, ← hfront, splitAtByte_append]

/-- The next unescaped mark is the one at which what lies ahead is cut. -/
theorem nextUnescaped_append {mark : Char} (htext : text.toList = front ++ rest) :
    nextUnescaped mark text (byteLength front) =
      (cut mark (escapedAfter front.reverse) rest).map fun (_, after) => offsetOf text (mark :: after) := by
  rw [nextUnescaped, htext, splitAtByte_append]
  simp only [Option.bind_eq_bind, Option.bind_some]
  cases hcut : cut mark (escapedAfter front.reverse) rest with
  | none => rfl
  | some p =>
    obtain ⟨skipped, after⟩ := p
    have hbehind : text.toList = front ++ skipped ++ mark :: after := by
      rw [htext, eq_of_cut hcut, List.append_assoc]
    have hmark := offsetOf_of_append hbehind
    rw [byteLength_append] at hmark
    exact congrArg some hmark.symm

/-- Behind a character that does not escape, no backslashes count. -/
theorem nextUnescaped_offsetOf {mark : Char} (h : c :: rest <:+ text.toList) (hc : c ≠ '\\') :
    nextUnescaped mark text (offsetOf text rest) =
      (cut mark false rest).map fun (_, after) => offsetOf text (mark :: after) := by
  obtain ⟨front, hfront⟩ := h
  have hbehind : text.toList = front ++ [c] ++ rest := by rw [List.append_assoc, List.singleton_append, hfront]
  rw [offsetOf_of_append hbehind, nextUnescaped_append hbehind, escapedAfter_concat hc]

end Ahead

end Stencil.Text
