import Stencil.Decimal.Numeral
import Stencil.Json.Basic
import Stencil.Unicode.Category

/-!
# Reading JSON5

JSON with the licences of JSON5: comments, names without quotes as keys, strings in single quotes and over
several lines, a comma after the last item, and numbers with any sign, in hexadecimal, or with a point on
either end. What is no number and what is infinite reads as null.
-/
namespace Stencil.Json.Extended

open Stencil.Text Stencil.Unicode

def isLineEnd (c : Char) : Bool := c == '\n' || c == '\r' || c == '\u2028' || c == '\u2029'

def isBlank (c : Char) : Bool :=
  isLineEnd c || c == '\t' || c == '\x0b' || c == '\x0c' || c == '\ufeff' || Category.ofChar c == .zs

inductive Gap where
  | blanks
  | lineComment
  | blockComment

def skipGap? (gap : Gap) (s : List Char) : Option (List Char) :=
  match gap, s with
  | .blockComment, '*' :: '/' :: rest => skipGap? .blanks rest
  | .blockComment, _ :: rest => skipGap? .blockComment rest
  | .blockComment, [] => none
  | .lineComment, c :: rest => skipGap? (if isLineEnd c then .blanks else .lineComment) rest
  | .blanks, '/' :: '/' :: rest => skipGap? .lineComment rest
  | .blanks, '/' :: '*' :: rest => skipGap? .blockComment rest
  | .blanks, c :: rest => if isBlank c then skipGap? .blanks rest else some (c :: rest)
  | _, [] => some []

def skip? : List Char → Option (List Char) := skipGap? .blanks

/-- The characters of `\u` escapes from the first digit on: one, or a surrogate pair as one. Also the number
of characters that are read. -/
def readUnits? (s : List Char) : Option (List Char × Nat) := do
  let (n, rest) ← readHex? 4 s
  match charOfCode? n with
  | some c => some ([c], 4)
  | none =>
    match rest with
    | '\\' :: 'u' :: more => do
      let (m, _) ← readHex? 4 more
      if n < 0xDC00 ∧ 0xDC00 ≤ m ∧ m < 0xE000 then
        some ([Char.ofNat (0x10000 + 0x400 * (n - 0xD800) + (m - 0xDC00))], 10)
      else none
    | _ => none

def simpleEscape : Char → Char
  | 'b' => '\x08'
  | 'f' => '\x0c'
  | 'n' => '\n'
  | 'r' => '\r'
  | 't' => '\t'
  | 'v' => '\x0b'
  | c => c

/-- What the text after a backslash stands for, and the number of characters that are read. A line end stands
for nothing, and a zero that no digit follows for the character with code zero. -/
def readEscape? : List Char → Option (List Char × Nat)
  | [] => none
  | '\r' :: '\n' :: _ => some ([], 2)
  | 'u' :: rest => (readUnits? rest).map fun (cs, count) => (cs, count + 1)
  | 'x' :: rest => (readHex? 2 rest).map fun (n, _) => ([Char.ofNat n], 3)
  | c :: rest =>
    if isLineEnd c then some ([], 1)
    else if c = '0' ∧ !rest.head?.any Char.isDigit then some (['\x00'], 1)
    else if c.isDigit then none
    else some ([simpleEscape c], 1)

/-- Reads a string behind its opening quote; `read` holds its characters so far, last one first. -/
def readText? (quote : Char) (read : List Char) : List Char → Option (String × List Char)
  | [] => none
  | c :: rest =>
    if c = quote then some (String.ofList read.reverse, rest)
    else if c = '\\' then
      match readEscape? rest with
      | some (cs, count) => readText? quote (cs.reverse ++ read) (rest.drop count)
      | none => none
    else if c = '\n' ∨ c = '\r' then none
    else readText? quote (c :: read) rest
termination_by s => s.length
decreasing_by
  · simp only [List.length_drop, List.length_cons]
    omega
  · simp

def isNameStart (c : Char) : Bool :=
  c == '$' || c == '_'
    || match Category.ofChar c with
      | .lu | .ll | .lt | .lm | .lo | .nl => true
      | _ => false

def isNamePart (c : Char) : Bool :=
  isNameStart c || c == '\u200c' || c == '\u200d'
    || match Category.ofChar c with
      | .mn | .mc | .nd | .pc => true
      | _ => false

def readName? (read : List Char) : List Char → Option (String × List Char)
  | '\\' :: 'u' :: a :: b :: c :: d :: rest => do
    let (n, _) ← readHex? 4 [a, b, c, d]
    let e ← charOfCode? n
    if (if read = [] then isNameStart e else isNamePart e) then readName? (e :: read) rest else none
  | c :: rest =>
    if (if read = [] then isNameStart c else isNamePart c) then readName? (c :: read) rest
    else finish (c :: rest)
  | [] => finish []
where
  finish (rest : List Char) : Option (String × List Char) :=
    if read = [] then none else some (String.ofList read.reverse, rest)

def readKey? : List Char → Option (String × List Char)
  | '"' :: rest => readText? '"' [] rest
  | '\'' :: rest => readText? '\'' [] rest
  | s => readName? [] s

/-- A whole number, in floating point if it does not fit into 64 bits. -/
def ofWhole (negative : Bool) (n : Nat) : Json :=
  if negative then
    if n ≤ Nat.pow 2 63 then .int (-(n : Int)) else .float (-Decimal.ofDecimal n 0)
  else if n < Nat.pow 2 64 then .int n
  else .float (Decimal.ofDecimal n 0)

def readExponent? : List Char → Option (Option Int × List Char)
  | [] => some (none, [])
  | c :: rest =>
    if c = 'e' ∨ c = 'E' then
      let (down, s) := match rest with
        | '-' :: r => (true, r)
        | '+' :: r => (false, r)
        | _ => (false, rest)
      match s.takeWhile Char.isDigit with
      | [] => none
      | digits =>
        let e := Decimal.natOfDigits digits
        some (some (if down then -(e : Int) else e), s.dropWhile Char.isDigit)
    else some (none, c :: rest)

def readDecimal? (negative : Bool) (s : List Char) : Option (Json × List Char) := do
  let whole := s.takeWhile Char.isDigit
  let rest := s.dropWhile Char.isDigit
  let (hasPoint, places, rest) := match rest with
    | '.' :: r => (true, r.takeWhile Char.isDigit, r.dropWhile Char.isDigit)
    | _ => (false, [], rest)
  if (whole = [] ∧ places = []) ∨ (whole.head? = some '0' ∧ whole ≠ ['0']) then none
  else
    let (exponent, rest) ← readExponent? rest
    if !hasPoint ∧ exponent = none then some (ofWhole negative (Decimal.natOfDigits whole), rest)
    else
      let x := Decimal.ofDecimal (Decimal.natOfDigits (whole ++ places))
        (exponent.getD 0 - places.length)
      some (if x.isInf then .null else .float (Decimal.negateIf negative x), rest)

def readMagnitude? (negative : Bool) (s : List Char) : Option (Json × List Char) :=
  match s with
  | 'I' :: 'n' :: 'f' :: 'i' :: 'n' :: 'i' :: 't' :: 'y' :: rest => some (.null, rest)
  | 'N' :: 'a' :: 'N' :: rest => some (.null, rest)
  | '0' :: c :: rest =>
    if c = 'x' ∨ c = 'X' then
      match rest.takeWhile isHexDigit with
      | [] => none
      | digits => some (ofWhole negative (ofHex digits), rest.dropWhile isHexDigit)
    else readDecimal? negative ('0' :: c :: rest)
  | _ => readDecimal? negative s

def readNumber? : List Char → Option (Json × List Char)
  | '-' :: rest => readMagnitude? true rest
  | '+' :: rest => readMagnitude? false rest
  | s => readMagnitude? false s

def readScalar? (s : List Char) : Option (Json × List Char) :=
  match s with
  | 'n' :: 'u' :: 'l' :: 'l' :: rest => some (.null, rest)
  | 't' :: 'r' :: 'u' :: 'e' :: rest => some (.bool true, rest)
  | 'f' :: 'a' :: 'l' :: 's' :: 'e' :: rest => some (.bool false, rest)
  | '"' :: rest => (readText? '"' [] rest).map fun (t, after) => (.string t, after)
  | '\'' :: rest => (readText? '\'' [] rest).map fun (t, after) => (.string t, after)
  | _ => readNumber? s

mutual

/-- Reads a value, with the first token at the start. The first argument bounds the number of steps. -/
def readValue? : Nat → List Char → Option (Json × List Char)
  | 0, _ => none
  | steps + 1, s =>
    match s with
    | '[' :: rest => readItems? steps [] rest
    | '\x7b' :: rest => readMembers? steps [] rest
    | _ => readScalar? s

def readItems? : Nat → List Json → List Char → Option (Json × List Char)
  | 0, _, _ => none
  | steps + 1, read, s =>
    match skip? s with
    | some (']' :: rest) => some (.array read.reverse, rest)
    | some start =>
      match readValue? steps start with
      | none => none
      | some (j, rest) =>
        match skip? rest with
        | some (',' :: more) => readItems? steps (j :: read) more
        | some (']' :: more) => some (.array (j :: read).reverse, more)
        | _ => none
    | none => none

def readMembers? : Nat → List (String × Json) → List Char → Option (Json × List Char)
  | 0, _, _ => none
  | steps + 1, read, s =>
    match skip? s with
    | some ('\x7d' :: rest) => some (.object read, rest)
    | some start =>
      match (readKey? start).bind fun (key, rest) => (skip? rest).map fun rest => (key, rest) with
      | some (key, ':' :: rest) =>
        match (skip? rest).bind (readValue? steps) with
        | none => none
        | some (j, rest) =>
          match skip? rest with
          | some (',' :: more) => readMembers? steps (Table.insert key j read) more
          | some ('\x7d' :: more) => some (.object (Table.insert key j read), more)
          | _ => none
      | _ => none
    | none => none

end

def parse? (text : String) : Option Json := do
  let s ← skip? text.toList
  let (j, rest) ← readValue? (2 * s.length + 2) s
  if (← skip? rest) = [] then some j else none

end Stencil.Json.Extended
