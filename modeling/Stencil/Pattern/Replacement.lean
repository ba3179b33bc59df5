import Stencil.Decimal.Numeral
import Stencil.Pattern
import Stencil.Text.Search

/-!
# Replacements

What is put in the place of a match. A replacement is written with backslash escapes; `toPlain` turns it
into the plain form, in which only the dollar sign means something, and `parts` reads that form. Text whose
case is to be changed is put between marks and changed afterwards.
-/
namespace Stencil.Pattern.Replacement

open Stencil.Text

inductive Part where
  | char (c : Char)
  /-- A group, by its number or by its name. -/
  | group (name : List Char)
  deriving DecidableEq, Repr

def isNameChar (c : Char) : Bool := c.isAlphanum || c == '_'

def splitAt? (mark : Char) (s : List Char) : Option (List Char × List Char) :=
  match s.dropWhile (· != mark) with
  | _ :: after => some (s.takeWhile (· != mark), after)
  | [] => none

/-- The name after a dollar sign, bare or in braces, and the text after it. -/
def name? (s : List Char) : Option (List Char × List Char) :=
  match s with
  | '\x7b' :: rest => splitAt? '\x7d' rest
  | _ =>
    let name := s.takeWhile isNameChar
    if name = [] then none else some (name, s.dropWhile isNameChar)

theorem splitAt?_length_lt {mark : Char} {s name after : List Char}
    (h : splitAt? mark s = some (name, after)) : after.length < s.length := by
  unfold splitAt? at h
  have hs := (List.dropWhile_suffix (l := s) (· != mark)).length_le
  split at h
  · next hd =>
    simp only [Option.some.injEq, Prod.mk.injEq] at h
    rw [hd, List.length_cons] at hs
    rw [← h.2]
    omega
  · simp at h

theorem name?_length_le {s name after : List Char} (h : name? s = some (name, after)) :
    after.length ≤ s.length := by
  unfold name? at h
  split at h
  · have := splitAt?_length_lt h
    simp only [List.length_cons]
    omega
  · dsimp only at h
    split at h
    · simp at h
    · simp only [Option.some.injEq, Prod.mk.injEq] at h
      rw [← h.2]
      exact (List.dropWhile_suffix _).length_le

/-- Reads the plain form. Two dollar signs stand for one, and so does one that no name follows. -/
def parts : List Char → List Part
  | [] => []
  | '$' :: '$' :: rest => .char '$' :: parts rest
  | c :: rest =>
    if c = '$' then
      match _h : name? rest with
      | some (name, after) => .group name :: parts after
      | none => .char c :: parts rest
    else .char c :: parts rest
termination_by s => s.length
decreasing_by
  · simp only [List.length_cons]
    omega
  · have := name?_length_le _h
    simp
    omega
  · simp
  · simp

/-- The number of a group: a numeral of 64 bits, or the number that belongs to a name. -/
def index? (p : Pattern) (name : List Char) : Option Nat :=
  match Decimal.unsigned? 64 name with
  | some n => some n
  | none => (p.names.find? (·.1 == String.ofList name)).map (·.2)

/-- The text that a part stands for; a group that is absent stands for none. -/
def Part.expand (p : Pattern) (text : List Char) (m : Match) : Part → List Char
  | char c => [c]
  | group name =>
    match index? p name with
    | some index => m.groupText text index
    | none => []

def expand (p : Pattern) (text : List Char) (m : Match) (ps : List Part) : List Char :=
  ps.flatMap (Part.expand p text m)

/-- A reference to a group with the text after it: a dollar sign with a number or with a name in braces,
or a backslash with a number. -/
def reference? : List Char → Option (List Char × List Char)
  | '$' :: '\x7b' :: rest => (splitAt? '\x7d' rest).filter fun (name, _) => name != []
  | c :: rest =>
    if c = '$' ∨ c = '\\' then
      let digits := rest.takeWhile Char.isDigit
      if digits = [] then none else some (digits, rest.dropWhile Char.isDigit)
    else none
  | [] => none

theorem reference?_length_lt {s name after : List Char} (h : reference? s = some (name, after)) :
    after.length < s.length := by
  unfold reference? at h
  split at h
  · obtain ⟨hs, _⟩ := Option.filter_eq_some_iff.1 h
    have := splitAt?_length_lt hs
    simp only [List.length_cons]
    omega
  · next c rest _ =>
    split at h
    · simp only [Option.ite_none_left_eq_some, Option.some.injEq, Prod.mk.injEq] at h
      have := (List.dropWhile_suffix (l := rest) Char.isDigit).length_le
      rw [← h.2.2, List.length_cons]
      omega
    · simp at h
  · simp at h

def literal (c : Char) : List Char := if c = '$' then ['$', '$'] else [c]

def braced (name : List Char) : List Char := '$' :: '\x7b' :: name ++ ['\x7d']

/-- The character of four hexadecimal digits, of which the first may be a plus sign instead. -/
def hexChar? (digits : List Char) : Option Char :=
  let digits := match digits with
    | '+' :: rest => rest
    | _ => digits
  if digits.all isHexDigit then charOfCode? (ofHex digits) else none

def isOctal (c : Char) : Bool := '0' ≤ c && c ≤ '7'

def octalChar (s : List Char) : Char × Nat :=
  let digits := (s.take 3).takeWhile isOctal
  (Char.ofNat (digits.foldl (fun n c => 8 * n + (c.toNat - '0'.toNat)) 0), digits.length)

def control? : Char → Option Char
  | 'n' => some '\n'
  | 't' => some '\t'
  | 'r' => some '\r'
  | 'f' => some '\x0c'
  | 'b' => some '\x08'
  | _ => none

/-- What a backslash, the character `c` and the text after it stand for, and the text that is left. -/
def escaped (c : Char) (rest : List Char) : List Char × List Char :=
  match control? c with
  | some d => ([d], rest)
  | none =>
    if c = 'u' then
      match if rest.length < 4 then none else hexChar? (rest.take 4) with
      | some d => (literal d, rest.drop 4)
      | none => ([c], rest)
    else if c = '0' then
      let (d, n) := octalChar rest
      (literal d, rest.drop n)
    else if c.isDigit then (braced [c], rest)
    else if c = 'U' ∨ c = 'L' then
      match reference? rest with
      | some (name, after) => (['!', c, '@'] ++ braced name ++ ['@', c, '!'], after)
      | none => ([c], rest)
    else (literal c, rest)

theorem escaped_length_le (c : Char) (rest : List Char) : (escaped c rest).2.length ≤ rest.length := by
  unfold escaped
  split
  · simp
  · split
    · split <;> simp
    · split
      · simp
      · split
        · simp
        · split
          · split
            · next h => exact Nat.le_of_lt (reference?_length_lt h)
            · simp
          · simp

def toPlain : List Char → List Char
  | [] => []
  | ['\\'] => ['\\']
  | c :: d :: rest =>
    if c = '\\' then
      have := escaped_length_le d rest
      (escaped d rest).1 ++ toPlain (escaped d rest).2
    else if c = '$' then
      match _h : reference? (c :: d :: rest) with
      | some (name, after) => braced name ++ toPlain after
      | none => ['$', '$'] ++ toPlain (d :: rest)
    else c :: toPlain (d :: rest)
  | [c] => literal c
termination_by s => s.length
decreasing_by
  · simp; omega
  · exact reference?_length_lt _h
  · simp
  · simp

/-- Changes what stands between two marks, and drops the marks. -/
def changeMarked (opening closing : List Char) (change : List Char → List Char) :
    Nat → List Char → List Char
  | 0, s => s
  | fuel + 1, s =>
    match breakAt? opening s with
    | none => s
    | some (before, after) =>
      match breakAt? closing after with
      | none => s
      | some (inside, rest) =>
        before ++ change inside ++ changeMarked opening closing change fuel rest

/-- Changes the case of text between marks: first to upper case, then to lower case. -/
def changeCase (s : List Char) : List Char :=
  let upper := changeMarked "!U@".toList "@U!".toList Unicode.upper s.length s
  changeMarked "!L@".toList "@L!".toList Unicode.lower upper.length upper

end Stencil.Pattern.Replacement
