import Stencil.Text.Hex

/-!
# TOML strings

Strings stand between double marks, with escapes, or between single marks, without them. Between three
marks a string may span lines. Lines end with a line feed.
-/
namespace Stencil.Toml

open Stencil.Text

def isBlank (c : Char) : Bool := c == ' ' || c == '\t'

def skipBlanks (s : List Char) : List Char := s.dropWhile isBlank

/-- The characters that may stand in a line: all but control characters of ASCII, of which the tab may. -/
def isLineChar (c : Char) : Bool := c == '\t' || (0x20 ≤ c.toNat && c.toNat != 0x7F)

structure Quoting where
  /-- The mark that opens and closes it. -/
  mark : Char
  /-- Whether it stands between three marks. -/
  long : Bool

def Quoting.hasEscapes (q : Quoting) : Bool := q.mark == '"'

def simpleEscape? : Char → Option Char
  | '"' => some '"'
  | '\\' => some '\\'
  | 'b' => some '\x08'
  | 'f' => some '\x0c'
  | 'n' => some '\n'
  | 'r' => some '\r'
  | 't' => some '\t'
  | _ => none

def readEscape? : List Char → Option (Char × List Char)
  | [] => none
  | c :: rest =>
    if c = 'u' ∨ c = 'U' then
      match readHex? (if c = 'u' then 4 else 8) rest with
      | some (n, after) => (charOfCode? n).map fun d => (d, after)
      | none => none
    else (simpleEscape? c).map fun d => (d, rest)

theorem length_lt_of_readEscape? {c : Char} {s rest : List Char}
    (h : readEscape? s = some (c, rest)) : rest.length < s.length := by
  cases s with
  | nil => simp [readEscape?] at h
  | cons d more =>
    rw [readEscape?] at h
    split at h
    · split at h
      · next hx =>
        obtain ⟨_, _, hEq⟩ := Option.map_eq_some_iff.1 h
        simp only [Prod.mk.injEq] at hEq
        have := length_of_readHex? hx
        simp only [List.length_cons, ← hEq.2]
        omega
      · simp at h
    · obtain ⟨_, _, hEq⟩ := Option.map_eq_some_iff.1 h
      simp only [Prod.mk.injEq] at hEq
      simp [← hEq.2]

/-- Where a string ends: the marks that belong to its text, of which there may be two before three that
close it, and what follows it. -/
def closing? (q : Quoting) (s : List Char) : Option (List Char × List Char) :=
  let marks := (s.takeWhile (· == q.mark)).length
  let needed := if q.long then 3 else 1
  if marks < needed then none
  else
    let kept := if q.long then min (marks - 3) 2 else 0
    some (List.replicate kept q.mark, s.drop (kept + needed))

/-- Reads a string behind its opening marks; `read` holds its characters so far, last one first. A backslash
at the end of a line takes away all blanks and line ends up to the next character; `skipping` tells that
one has been read. -/
def readText? (q : Quoting) (skipping : Bool) (read : List Char) :
    List Char → Option (String × List Char)
  | [] => none
  | c :: rest =>
    if skipping ∧ (isBlank c ∨ c = '\n') then readText? q true read rest
    else
      match closing? q (c :: rest) with
      | some (marks, after) => some (String.ofList (read.reverse ++ marks), after)
      | none =>
        if q.hasEscapes ∧ c = '\\' then
          if q.long ∧ (skipBlanks rest).head? = some '\n' then readText? q true read rest
          else
            match _h : readEscape? rest with
            | some (d, after) => readText? q false (d :: read) after
            | none => none
        else if isLineChar c ∨ (q.long ∧ c = '\n') then readText? q false (c :: read) rest
        else none
termination_by s => s.length
decreasing_by
  · simp
  · simp
  · have := length_lt_of_readEscape? _h
    simp
    omega
  · simp

def readShort? : List Char → Option (String × List Char)
  | c :: rest => if c = '"' ∨ c = '\'' then readText? ⟨c, false⟩ false [] rest else none
  | [] => none

/-- Reads a string. A line end right after three opening marks is dropped. -/
def readString? (s : List Char) : Option (String × List Char) :=
  match s with
  | '"' :: '"' :: '"' :: rest => readText? ⟨'"', true⟩ false [] (dropLineEnd rest)
  | '\'' :: '\'' :: '\'' :: rest => readText? ⟨'\'', true⟩ false [] (dropLineEnd rest)
  | _ => readShort? s
where
  dropLineEnd : List Char → List Char
    | '\n' :: rest => rest
    | s => s

end Stencil.Toml
