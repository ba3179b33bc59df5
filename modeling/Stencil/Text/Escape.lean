import Stencil.Text.Blank

/-!
# Escaped characters

A character is escaped when an odd run of backslashes stands right before it. `cut` splits a text at the
first delimiter that is not escaped; the parity of the run is carried along, so the scan never looks back.
-/
namespace Stencil.Text

/-- Parity of the run of backslashes that ends with `c`, given the parity of the run before it. -/
def escapes (c : Char) (escaped : Bool) : Bool := c == '\\' && !escaped

/-- Whether the character after `behind` (nearest character first) is escaped. -/
def escapedAfter (behind : List Char) : Bool :=
  (behind.takeWhile (· == '\\')).length % 2 == 1

/-- Splits at the first `delim` that is not escaped into the text before it and the text after it. The
flag tells whether the first character is itself escaped. -/
def cut (delim : Char) : Bool → List Char → Option (List Char × List Char)
  | _, [] => none
  | escaped, c :: rest =>
    if c = delim ∧ escaped = false then some ([], rest)
    else (cut delim (escapes c escaped) rest).map fun (before, after) => (c :: before, after)

/-- A successful cut loses nothing but the delimiter. -/
theorem eq_of_cut {delim : Char} {s before after : List Char} {escaped : Bool}
    (h : cut delim escaped s = some (before, after)) : s = before ++ delim :: after := by
  induction s generalizing escaped before with
  | nil => simp [cut] at h
  | cons c rest ih =>
    rw [cut] at h
    split at h
    · next hc => simp_all
    · obtain ⟨⟨b, a⟩, hb, hEq⟩ := Option.map_eq_some_iff.1 h
      simp only [Prod.mk.injEq] at hEq
      obtain ⟨rfl, rfl⟩ := hEq
      simp [ih hb]

def through? (mark : Char) (s : List Char) : Option (List Char × List Char) :=
  (cut mark false s).map fun (inside, after) => (inside ++ [mark], after)

theorem eq_of_through? {mark : Char} {s taken after : List Char}
    (h : through? mark s = some (taken, after)) : s = taken ++ after := by
  obtain ⟨⟨i, a⟩, hc, hEq⟩ := Option.map_eq_some_iff.1 h
  simp only [Prod.mk.injEq] at hEq
  simp [eq_of_cut hc, ← hEq.1, ← hEq.2]

def unescape (mark : Char) : List Char → List Char
  | '\\' :: d :: rest =>
    if d = mark then mark :: unescape mark rest else '\\' :: unescape mark (d :: rest)
  | c :: rest => c :: unescape mark rest
  | [] => []

/-- Splits a text at a byte offset of its UTF-8 form; `none` inside a character or past the end. -/
def splitAtByte : Nat → List Char → Option (List Char × List Char)
  | 0, s => some ([], s)
  | _ + 1, [] => none
  | n + 1, c :: rest =>
    if c.utf8Size ≤ n + 1 then
      (splitAtByte (n + 1 - c.utf8Size) rest).map fun (before, after) => (c :: before, after)
    else none

/-- Byte offset of the first `delim` at or after the offset `start` that is not escaped; backslashes
before `start` count. -/
def nextUnescaped (delim : Char) (text : String) (start : Nat) : Option Nat := do
  let (before, rest) ← splitAtByte start text.toList
  let (skipped, _) ← cut delim (escapedAfter before.reverse) rest
  return start + byteLength skipped

/-- Whether the byte at an offset is escaped; offsets past the end mean the end. -/
def isEscapedAt (text : String) (offset : Nat) : Bool :=
  match splitAtByte (min offset (byteLength text.toList)) text.toList with
  | some (before, _) => escapedAfter before.reverse
  | none => false

end Stencil.Text
