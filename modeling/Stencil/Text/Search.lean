import Stencil.Text.Blank

/-!
# Searching text

Testing for a start, finding the first occurrence of a text in another, replacing and splitting at every
occurrence. Occurrences are taken from left to right and do not overlap.
-/
namespace Stencil.Text

def dropStart? : List Char → List Char → Option (List Char)
  | [], s => some s
  | _ :: _, [] => none
  | p :: ps, c :: cs => if p = c then dropStart? ps cs else none

theorem dropStart?_eq_some {start s rest : List Char} :
    dropStart? start s = some rest ↔ s = start ++ rest := by
  induction start generalizing s with
  | nil => simp [dropStart?]
  | cons p ps ih =>
    cases s with
    | nil => simp [dropStart?]
    | cons c cs =>
      by_cases h : p = c
      · simp [dropStart?, h, ih]
      · simp [dropStart?, h, Ne.symm h]

theorem dropStart?_eq_none {start s : List Char} : dropStart? start s = none ↔ ¬start <+: s := by
  constructor
  · rintro h ⟨rest, hrest⟩
    rw [dropStart?_eq_some.2 hrest.symm] at h
    cases h
  · intro h
    cases hd : dropStart? start s with
    | none => rfl
    | some rest => exact absurd ⟨rest, (dropStart?_eq_some.1 hd).symm⟩ h

def breakAt? (needle : List Char) : List Char → Option (List Char × List Char)
  | [] => if needle.isEmpty then some ([], []) else none
  | c :: rest =>
    match dropStart? needle (c :: rest) with
    | some after => some ([], after)
    | none => (breakAt? needle rest).map fun (before, after) => (c :: before, after)

theorem eq_of_breakAt? {needle s before after : List Char}
    (h : breakAt? needle s = some (before, after)) : s = before ++ needle ++ after := by
  induction s generalizing before with
  | nil =>
    simp only [breakAt?] at h
    split at h
    · simp_all
    · simp at h
  | cons c rest ih =>
    rw [breakAt?] at h
    split at h
    · next hd =>
      simp only [Option.some.injEq, Prod.mk.injEq] at h
      simp [← h.1, dropStart?_eq_some.1 hd, h.2]
    · obtain ⟨⟨b, a⟩, hb, hEq⟩ := Option.map_eq_some_iff.1 h
      simp only [Prod.mk.injEq] at hEq
      obtain ⟨rfl, rfl⟩ := hEq
      simp [ih hb]

theorem breakAt?_eq_none {needle s : List Char} (hn : needle ≠ []) : breakAt? needle s = none ↔ ¬needle <:+: s := by
  induction s with
  | nil => simp [breakAt?, hn]
  | cons c s ih =>
    rw [breakAt?, List.infix_cons_iff, not_or]
    cases h : dropStart? needle (c :: s) with
    | none => simp [dropStart?_eq_none.mp h, ih]
    | some after => simp [dropStart?_eq_some.mp h]

theorem not_infix_of_breakAt? {needle s before after : List Char} (hn : needle ≠ [])
    (h : breakAt? needle s = some (before, after)) : ¬needle <:+: before := by
  induction s generalizing before with
  | nil => simp [breakAt?, hn] at h
  | cons c s ih =>
    rw [breakAt?] at h
    split at h
    · obtain ⟨rfl, -⟩ := Prod.mk.inj (Option.some.inj h)
      simpa using hn
    · next hstart =>
      obtain ⟨⟨b, a⟩, hb, hEq⟩ := Option.map_eq_some_iff.1 h
      obtain ⟨rfl, rfl⟩ := Prod.mk.inj hEq
      rw [List.infix_cons_iff, not_or]
      refine ⟨fun hprefix => dropStart?_eq_none.1 hstart ?_, ih hb⟩
      rw [eq_of_breakAt? hb, List.append_assoc, ← List.cons_append]
      exact hprefix.trans (List.prefix_append _ _)

theorem length_lt_of_breakAt? {needle s before after : List Char} (hn : needle ≠ [])
    (h : breakAt? needle s = some (before, after)) : after.length < s.length := by
  have := List.length_pos_iff.2 hn
  rw [eq_of_breakAt? h]
  simp
  omega

/-- The first `limit - 1` pieces that `needle` separates and the text that is left; with `limit` zero, all
pieces. -/
def splitUpTo (needle : List Char) (limit : Nat) (s : List Char) : List (List Char) :=
  if _hn : needle = [] then [s]
  else if limit = 1 then [s]
  else
    match _h : breakAt? needle s with
    | none => [s]
    | some (before, after) => before :: splitUpTo needle (limit - 1) after
termination_by s.length
decreasing_by exact length_lt_of_breakAt? _hn _h

def splitAll (needle s : List Char) : List (List Char) := splitUpTo needle 0 s

theorem splitUpTo_ne_nil (needle : List Char) (limit : Nat) (s : List Char) : splitUpTo needle limit s ≠ [] := by
  rw [splitUpTo]
  split
  · simp
  · split
    · simp
    · split <;> simp

/-- A split takes place at the first occurrence, and in the text behind it. -/
theorem splitAll_eq {needle : List Char} (hn : needle ≠ []) (s : List Char) :
    splitAll needle s =
      match breakAt? needle s with
      | none => [s]
      | some (before, after) => before :: splitAll needle after := by
  rw [splitAll, splitUpTo, dif_neg hn, if_neg (by simp)]
  split
  · next h => rw [h]
  · next before after h =>
    rw [h]
    rfl

def replaceAll (needle by_ s : List Char) : List Char :=
  by_.intercalate (splitAll needle s)

theorem replaceAll_eq {needle : List Char} (hn : needle ≠ []) (by_ s : List Char) :
    replaceAll needle by_ s =
      match breakAt? needle s with
      | none => s
      | some (before, after) => before ++ (by_ ++ replaceAll needle by_ after) := by
  rw [replaceAll, splitAll_eq hn]
  split
  · simp [List.intercalate]
  · next before after _ =>
    obtain ⟨piece, rest, hrest⟩ := List.exists_cons_of_ne_nil (splitUpTo_ne_nil needle 0 after)
    rw [replaceAll, splitAll, hrest]
    simp [List.intercalate]

theorem replaceAll_nil {needle : List Char} (hn : needle ≠ []) (by_ : List Char) : replaceAll needle by_ [] = [] := by
  rw [replaceAll_eq hn, breakAt?, if_neg (by simpa using hn)]

theorem replaceAll_append {needle : List Char} (hn : needle ≠ []) (by_ s : List Char) :
    replaceAll needle by_ (needle ++ s) = by_ ++ replaceAll needle by_ s := by
  obtain ⟨a, w, rfl⟩ := List.exists_cons_of_ne_nil hn
  rw [replaceAll_eq hn, List.cons_append, breakAt?, dropStart?_eq_some.mpr List.cons_append.symm]
  rfl

theorem replaceAll_cons {needle : List Char} (hn : needle ≠ []) (by_ : List Char) {c : Char} {s : List Char}
    (h : ¬needle <+: c :: s) : replaceAll needle by_ (c :: s) = c :: replaceAll needle by_ s := by
  rw [replaceAll_eq hn, breakAt?, dropStart?_eq_none.mpr h, replaceAll_eq hn by_ s]
  cases breakAt? needle s <;> rfl

end Stencil.Text
