import Stencil.Text.Escape

/-!
# Matching brackets

`closing` finds the bracket that closes one already read. Brackets of the same kind nest. Skipped whole are
escaped characters, double-quoted strings, and regular-expression literals where an argument may begin,
that is right after the opening bracket or after a comma at its level.
-/
namespace Stencil.Text

def closerOf? : Char → Option Char
  | '(' => some ')'
  | '\x7b' => some '\x7d'
  | '[' => some ']'
  | _ => none

inductive Leap where
  /-- The text after it is read as it stands. -/
  | step
  /-- `taken` belongs to it and `rest` follows. -/
  | over (taken rest : List Char)
  /-- It opens something that never ends. -/
  | unclosed

/-- A backslash takes the next character, a quote takes the string it opens, and a slash, where a
regular-expression literal may begin and one that closes it follows, takes the literal. -/
def leap (literal : Bool) (c : Char) (rest : List Char) : Leap :=
  if c = '\\' then
    match rest with
    | [] => .unclosed
    | d :: after => .over [d] after
  else if c = '"' then
    match through? '"' rest with
    | some (taken, after) => .over taken after
    | none => .unclosed
  else if c = '/' ∧ literal = true then
    match through? '/' rest with
    | some (taken, after) => .over taken after
    | none => .step
  else .step

theorem eq_of_leap {literal : Bool} {c : Char} {rest taken after : List Char}
    (h : leap literal c rest = .over taken after) : rest = taken ++ after := by
  unfold leap at h
  split at h
  · split at h
    · simp at h
    · simp only [Leap.over.injEq] at h
      simp [← h.1, ← h.2]
  · split at h
    · split at h
      · next hc =>
        simp only [Leap.over.injEq] at h
        exact h.1 ▸ h.2 ▸ eq_of_through? hc
      · simp at h
    · split at h
      · split at h
        · next hc =>
          simp only [Leap.over.injEq] at h
          exact h.1 ▸ h.2 ▸ eq_of_through? hc
        · simp at h
      · simp at h

theorem length_le_of_leap {literal : Bool} {c : Char} {rest taken after : List Char}
    (h : leap literal c rest = .over taken after) : after.length ≤ rest.length := by
  simp [eq_of_leap h]

/-- Splits the text after an opening bracket at its closing bracket. `depth` counts the brackets that are
open within the first one, `argStart` tells whether an argument may begin here. -/
def closing (opener closer : Char) (depth : Nat) (argStart : Bool) :
    List Char → Option (List Char × List Char)
  | [] => none
  | c :: rest =>
    match _h : leap (argStart && depth == 0) c rest with
    | .unclosed => none
    | .over taken after =>
      (closing opener closer depth false after).map fun (i, a) => (c :: taken ++ i, a)
    | .step =>
      if c = closer ∧ depth = 0 then some ([], rest)
      else
        (closing opener closer
          (if c = opener then depth + 1 else if c = closer then depth - 1 else depth)
          (if isAsciiBlank c then argStart else c == ',' && depth == 0)
          rest).map fun (i, a) => (c :: i, a)
termination_by s => s.length
decreasing_by
  · have := length_le_of_leap _h
    simp
    omega
  · simp

def throughBracket? (c : Char) (rest : List Char) : Option (List Char × List Char) :=
  (closerOf? c).bind fun closer =>
    (closing c closer 0 true rest).map fun (inside, after) => (inside ++ [closer], after)

def bracketed? : List Char → Option (List Char × List Char)
  | [] => none
  | c :: rest => (closerOf? c).bind fun closer => closing c closer 0 true rest

def matchingClose (text : String) (start : Nat) : Option Nat := do
  let (_, rest) ← splitAtByte start text.toList
  let (inside, _) ← bracketed? rest
  return start + 1 + byteLength inside

theorem eq_of_closing {opener closer : Char} {depth : Nat} {argStart : Bool}
    {s inside after : List Char}
    (h : closing opener closer depth argStart s = some (inside, after)) :
    s = inside ++ closer :: after := by
  fun_induction closing opener closer depth argStart s generalizing inside with
  | case1 => simp at h
  | case2 => simp at h
  | case3 depth argStart c rest taken after' hleap ih =>
    obtain ⟨⟨i, a⟩, hb, hEq⟩ := Option.map_eq_some_iff.1 h
    simp only [Prod.mk.injEq] at hEq
    obtain ⟨rfl, rfl⟩ := hEq
    simp [eq_of_leap hleap, ih hb]
  | case4 depth argStart c rest hleap hclose => simp_all
  | case5 depth argStart c rest hleap hclose ih =>
    obtain ⟨⟨i, a⟩, hb, hEq⟩ := Option.map_eq_some_iff.1 h
    simp only [Prod.mk.injEq] at hEq
    obtain ⟨rfl, rfl⟩ := hEq
    simp [ih hb]

theorem eq_of_throughBracket? {c : Char} {rest taken after : List Char}
    (h : throughBracket? c rest = some (taken, after)) : rest = taken ++ after := by
  obtain ⟨closer, _, hm⟩ := Option.bind_eq_some_iff.1 h
  obtain ⟨⟨i, a⟩, hc, hEq⟩ := Option.map_eq_some_iff.1 hm
  simp only [Prod.mk.injEq] at hEq
  simp [eq_of_closing hc, ← hEq.1, ← hEq.2]

theorem eq_of_bracketed? {s inside after : List Char} (h : bracketed? s = some (inside, after)) :
    ∃ opener closer, closerOf? opener = some closer ∧ s = opener :: inside ++ closer :: after := by
  match s with
  | [] => simp [bracketed?] at h
  | c :: rest =>
    obtain ⟨closer, hc, hs⟩ := Option.bind_eq_some_iff.1 h
    exact ⟨c, closer, hc, by simp [eq_of_closing hs]⟩

end Stencil.Text
