import Stencil.Json.Basic

/-!
# Reading JSON

The grammar of JSON and nothing beyond it: no trailing commas, no comments, no text after the value.
Containers may nest to a fixed depth. Of equal keys the last counts.
-/
namespace Stencil.Json

def maxNesting : Nat := 127

def skipBlanks (s : List Char) : List Char :=
  s.dropWhile fun c => c == ' ' || c == '\t' || c == '\n' || c == '\r'

/-- Multiplies by a power of ten that may lie outside the range of doubles; too large a result is none.
Three steps reach zero from any 64-bit number. -/
def scaleByTen? : Nat → Float → Int → Option Float
  | 0, _, _ => some 0
  | steps + 1, x, exponent =>
    if exponent.natAbs ≤ 308 then
      let power := Decimal.ofDecimal 1 exponent.natAbs
      if 0 ≤ exponent then
        let y := x * power
        if y.isInf then none else some y
      else some (x / power)
    else if x == 0.0 then some x
    else if 0 ≤ exponent then none
    else scaleByTen? steps (x / 1e308) (exponent + 308)

def ofParts? (negative : Bool) (digits : Nat) (exponent : Int) : Option Json :=
  (scaleByTen? 4 digits.toUInt64.toFloat exponent).map fun x =>
    float (Decimal.negateIf negative x)

/-- Reads digits onto a significand as long as it fits into 64 bits: the significand, how many digits it
took, and the rest, which begins with a digit if one did not fit. -/
def readDigits (digits taken : Nat) : List Char → Nat × Nat × List Char
  | [] => (digits, taken, [])
  | c :: rest =>
    if c.isDigit then
      let digits' := 10 * digits + (c.toNat - '0'.toNat)
      if digits' < Nat.pow 2 64 then readDigits digits' (taken + 1) rest else (digits, taken, c :: rest)
    else (digits, taken, c :: rest)

def readExponent? (negative : Bool) (digits : Nat) (start : Int) (s : List Char) :
    Option (Json × List Char) :=
  let (down, s) := match s with
    | '-' :: r => (true, r)
    | '+' :: r => (false, r)
    | _ => (false, s)
  let shown := s.takeWhile Char.isDigit
  if shown = [] then none
  else
    let e : Int := shown.foldl (fun n c => 10 * n + (c.toNat - '0'.toNat)) 0
    (ofParts? negative digits (if down then start - e else start + e)).map fun j =>
      (j, s.dropWhile Char.isDigit)

def readEnd? (negative : Bool) (digits : Nat) (exponent : Int) (s : List Char) :
    Option (Json × List Char) :=
  match s with
  | c :: rest =>
    if c = 'e' ∨ c = 'E' then readExponent? negative digits exponent rest
    else (ofParts? negative digits exponent).map fun j => (j, s)
  | [] => (ofParts? negative digits exponent).map fun j => (j, s)

/-- Reads a number from behind its point. Digits that do not fit are dropped. -/
def readPlaces? (negative : Bool) (digits : Nat) (exponent : Int) (s : List Char) :
    Option (Json × List Char) :=
  let (digits', taken, rest) := readDigits digits 0 s
  let tail := rest.dropWhile Char.isDigit
  if taken = 0 ∧ tail.length = s.length then none
  else readEnd? negative digits' (exponent - taken) tail

/-- Reads a number from its first digit on. A zero may not be followed by a digit. -/
def readNumber? (negative : Bool) (s : List Char) : Option (Json × List Char) :=
  let (digits, taken, rest) := readDigits 0 0 s
  if taken = 0 ∨ (s.head? = some '0' ∧ 1 < taken) then none
  else
    let dropped := rest.takeWhile Char.isDigit
    match rest.dropWhile Char.isDigit with
    | '.' :: tail => readPlaces? negative digits dropped.length tail
    | tail =>
      if dropped = [] ∧ tail.head? ≠ some 'e' ∧ tail.head? ≠ some 'E' then
        if negative then
          if 0 < digits ∧ digits ≤ Nat.pow 2 63 then some (int (-(digits : Int)), tail)
          else some (float (-digits.toUInt64.toFloat), tail)
        else some (int digits, tail)
      else readEnd? negative digits dropped.length tail

def hex4? (a b c d : Char) : Option Nat := (Text.readHex? 4 [a, b, c, d]).map (·.1)

def simpleEscape? : Char → Option Char
  | '"' => some '"'
  | '\\' => some '\\'
  | '/' => some '/'
  | 'b' => some '\x08'
  | 'f' => some '\x0c'
  | 'n' => some '\n'
  | 'r' => some '\r'
  | 't' => some '\t'
  | _ => none

/-- Reads a string behind its opening quote; `read` holds its characters so far, last one first. Two halves
of a surrogate pair make one character; half a pair is refused. -/
def readString? (read : List Char) : List Char → Option (String × List Char)
  | '"' :: rest => some (String.ofList read.reverse, rest)
  | '\\' :: 'u' :: a :: b :: c :: d :: rest =>
    match hex4? a b c d with
    | none => none
    | some n =>
      if n < 0xD800 ∨ 0xE000 ≤ n then readString? (Char.ofNat n :: read) rest
      else if 0xDC00 ≤ n then none
      else
        match rest with
        | '\\' :: 'u' :: e :: f :: g :: h :: rest' =>
          match hex4? e f g h with
          | none => none
          | some m =>
            if 0xDC00 ≤ m ∧ m < 0xE000 then
              readString?
                (Char.ofNat (0x10000 + 0x400 * (n - 0xD800) + (m - 0xDC00)) :: read) rest'
            else none
        | _ => none
  | '\\' :: c :: rest =>
    match simpleEscape? c with
    | some d => readString? (d :: read) rest
    | none => none
  | c :: rest => if c.toNat < 0x20 then none else readString? (c :: read) rest
  | [] => none

def readWord? (word : String) (value : Json) (s : List Char) : Option (Json × List Char) :=
  if word.toList.isPrefixOf s then some (value, s.drop word.length) else none

mutual

/-- Reads a value, in which containers may nest `depth` deep. The first argument bounds the number of
steps. -/
def readValue? : Nat → Nat → List Char → Option (Json × List Char)
  | 0, _, _ => none
  | steps + 1, depth, s =>
    match skipBlanks s with
    | [] => none
    | '"' :: rest => (readString? [] rest).map fun (t, r) => (string t, r)
    | '[' :: rest =>
      match depth with
      | 0 => none
      | depth + 1 =>
        match skipBlanks rest with
        | ']' :: tail => some (array [], tail)
        | _ => readItems? steps depth [] rest
    | '\x7b' :: rest =>
      match depth with
      | 0 => none
      | depth + 1 =>
        match skipBlanks rest with
        | '\x7d' :: tail => some (object [], tail)
        | _ => readMembers? steps depth [] rest
    | '-' :: rest => readNumber? true rest
    | 't' :: rest => readWord? "true" (bool true) ('t' :: rest)
    | 'f' :: rest => readWord? "false" (bool false) ('f' :: rest)
    | 'n' :: rest => readWord? "null" null ('n' :: rest)
    | start => readNumber? false start

def readItems? : Nat → Nat → List Json → List Char → Option (Json × List Char)
  | 0, _, _, _ => none
  | steps + 1, depth, read, s =>
    match readValue? steps depth s with
    | none => none
    | some (j, rest) =>
      match skipBlanks rest with
      | ',' :: tail => readItems? steps depth (j :: read) tail
      | ']' :: tail => some (array (j :: read).reverse, tail)
      | _ => none

def readMembers? : Nat → Nat → List (String × Json) → List Char → Option (Json × List Char)
  | 0, _, _, _ => none
  | steps + 1, depth, read, s =>
    match skipBlanks s with
    | '"' :: rest =>
      match readString? [] rest with
      | none => none
      | some (key, after) =>
        match skipBlanks after with
        | ':' :: more =>
          match readValue? steps depth more with
          | none => none
          | some (j, tail) =>
            match skipBlanks tail with
            | ',' :: tail' => readMembers? steps depth (Table.insert key j read) tail'
            | '\x7d' :: tail' => some (object (Table.insert key j read), tail')
            | _ => none
        | _ => none
    | _ => none

end

def parse? (text : String) : Option Json :=
  let s := text.toList
  match readValue? (2 * s.length + 2) maxNesting s with
  | some (j, rest) => if skipBlanks rest = [] then some j else none
  | none => none

end Stencil.Json
