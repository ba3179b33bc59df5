import Stencil.Decimal.Layout
import Stencil.Decimal.Numeral
import Stencil.Text.Blank
import Stencil.Unicode.Case

/-!
# Formats

Formats in the manner of printf with one value: `%`, flags, width, precision and a conversion. A format is
read as a list of pieces, which are written one after the other; the first fault ends it.
-/
namespace Stencil.Format

open Stencil.Text

/-- Widest field and most places that a conversion may ask for. -/
def maxWidth : Nat := 4096

inductive Fault where
  | width (digits : String)
  | precision (digits : String)
  | unfinished
  | unknownConversion (conversion : Char)
  | missingArgument (conversion : Char)
  | mismatch (conversion : Char) (isNumber : Bool)
  deriving DecidableEq, Repr

namespace Fault

def kind : Fault → String
  | width _ => "IllegalFormatWidth"
  | precision _ => "IllegalFormatPrecision"
  | unfinished => "UnknownFormatConversion"
  | unknownConversion _ => "UnknownFormatConversion"
  | missingArgument _ => "MissingFormatArgument"
  | mismatch _ _ => "IllegalFormatConversion"

def message : Fault → String
  | width digits => digits
  | precision digits => digits
  | unfinished => "%"
  | unknownConversion c => "Conversion = '" ++ String.singleton c ++ "'"
  | missingArgument c => "Format specifier '%" ++ String.singleton c ++ "'"
  | mismatch c isNumber => String.singleton c ++ " != " ++ (if isNumber then "float" else "text")

def annotation (f : Fault) (format value : String) : String :=
  "[" ++ f.kind ++ ": " ++ f.message ++ " \"" ++ format ++ "\"," ++ value ++ "]"

end Fault

structure Spec where
  left : Bool
  plus : Bool
  space : Bool
  zero : Bool
  group : Bool
  alternate : Bool
  width : Nat
  precision : Option Nat
  conversion : Char
  deriving DecidableEq, Repr

inductive Piece where
  | literal (c : Char)
  | conversion (spec : Spec)
  | fault (f : Fault)
  deriving DecidableEq, Repr

def isFlag (c : Char) : Bool :=
  c == '-' || c == '+' || c == ' ' || c == '0' || c == ',' || c == '#'

/-- Reads the number at the start of a text; none if there are no digits. A number over `maxWidth` is a
fault. -/
def number (fault : String → Fault) (s : List Char) : Except Fault (Option Nat × List Char) :=
  let digits := s.takeWhile Char.isDigit
  let rest := s.dropWhile Char.isDigit
  if digits = [] then .ok (none, rest)
  else
    let n := Decimal.natOfDigits digits
    if n ≤ maxWidth then .ok (some n, rest) else .error (fault (String.ofList digits))

/-- Reads a precision; a lone point is precision zero. -/
def precision (s : List Char) : Except Fault (Option Nat × List Char) :=
  match s with
  | '.' :: rest => (number .precision rest).map fun (places, tail) => (some (places.getD 0), tail)
  | _ => .ok (none, s)

def spec (s : List Char) : Except Fault (Spec × List Char) :=
  let flags := s.takeWhile isFlag
  match number .width (s.dropWhile isFlag) with
  | .error f => .error f
  | .ok (width, afterWidth) =>
    match precision afterWidth with
    | .error f => .error f
    | .ok (places, afterPrecision) =>
      match afterPrecision with
      | [] => .error .unfinished
      | c :: rest =>
        .ok ({ left := '-' ∈ flags, plus := '+' ∈ flags, space := ' ' ∈ flags
               zero := '0' ∈ flags, group := ',' ∈ flags, alternate := '#' ∈ flags
               width := width.getD 0, precision := places, conversion := c }, rest)

theorem number_length_le {fault : String → Fault} {s rest : List Char} {n : Option Nat}
    (h : number fault s = .ok (n, rest)) : rest.length ≤ s.length := by
  have hd := (List.dropWhile_suffix Char.isDigit (l := s)).length_le
  unfold number at h
  simp only at h
  split at h
  · simp only [Except.ok.injEq, Prod.mk.injEq] at h
    exact h.2 ▸ hd
  · split at h
    · simp only [Except.ok.injEq, Prod.mk.injEq] at h
      exact h.2 ▸ hd
    · simp at h

theorem precision_length_le {s rest : List Char} {n : Option Nat}
    (h : precision s = .ok (n, rest)) : rest.length ≤ s.length := by
  unfold precision at h
  split at h
  · next tail =>
    cases hn : number .precision tail with
    | error f => simp [hn, Except.map] at h
    | ok q =>
      simp only [hn, Except.map, Except.ok.injEq, Prod.mk.injEq] at h
      have := number_length_le (show number .precision tail = .ok (q.1, q.2) from hn)
      rw [h.2] at this
      simp
      omega
  · simp only [Except.ok.injEq, Prod.mk.injEq] at h
    exact h.2 ▸ Nat.le_refl _

theorem spec_length_lt {s rest : List Char} {p : Spec} (h : spec s = .ok (p, rest)) :
    rest.length < s.length := by
  have hf := (List.dropWhile_suffix isFlag (l := s)).length_le
  unfold spec at h
  dsimp only at h
  split at h
  · simp at h
  · next hw =>
    have h1 := number_length_le hw
    split at h
    · simp at h
    · next hq =>
      have h2 := precision_length_le hq
      split at h
      · simp at h
      · simp only [Except.ok.injEq, Prod.mk.injEq] at h
        rw [h.2] at h2
        simp at h2
        omega

def pieces : List Char → List Piece
  | [] => []
  | c :: rest =>
    if c = '%' then
      match _h : spec rest with
      | .error f => [.fault f]
      | .ok (p, rest') => .conversion p :: pieces rest'
    else .literal c :: pieces rest
termination_by s => s.length
decreasing_by
  · have := spec_length_lt _h
    simp
    omega
  · simp

def integer? (value : List Char) : Option Int :=
  (Decimal.signed? 128 value).or <|
    ((Decimal.float? value).filter Decimal.isWhole).map fun x =>
      Decimal.toIntClamped x (-(Int.pow 2 127)) (Int.pow 2 127 - 1)

def mismatch (conversion : Char) (value : List Char) : Fault :=
  .mismatch conversion (Decimal.float? value).isSome

def sign (p : Spec) (negative : Bool) : String :=
  if negative then "-" else if p.plus then "+" else if p.space then " " else ""

def groupThousands : List Char → List Char
  | [] => []
  | c :: rest =>
    if rest ≠ [] ∧ rest.length % 3 = 0 then c :: ',' :: groupThousands rest
    else c :: groupThousands rest

/-- Fills a field up to its width: blanks behind on the left flag, zeros between sign and digits on the zero
flag of a number, otherwise blanks in front. -/
def pad (p : Spec) (sign body : String) (numeric : Bool) : String :=
  let fill := p.width - (sign.length + body.length)
  if p.left then sign ++ body ++ String.ofList (List.replicate fill ' ')
  else if p.zero && numeric then sign ++ String.ofList (List.replicate fill '0') ++ body
  else String.ofList (List.replicate fill ' ') ++ sign ++ body

/-- A negative integer is written in base 8 or 16 as its remainder modulo `2 ^ 64`. -/
def formatInteger (p : Spec) (n : Int) : String :=
  let bits := (n % Int.pow 2 64).toNat
  let based (base : Nat) (mark : String) (isUpper : Bool) : String :=
    let digits := Nat.toDigits base bits
    let digits := if isUpper then digits.map Char.toUpper else digits
    pad p (if p.alternate then mark else "") (String.ofList digits) true
  match p.conversion with
  | 'x' => based 16 "0x" false
  | 'X' => based 16 "0X" true
  | 'o' => based 8 "0" false
  | _ =>
    let digits := Nat.toDigits 10 n.natAbs
    pad p (sign p (n < 0)) (String.ofList (if p.group then groupThousands digits else digits)) true

def fixed (p : Spec) (x : Float) (places : Nat) : String :=
  let text := (Decimal.fixed x places).toList
  if p.group then
    String.ofList (groupThousands (text.takeWhile (· != '.')) ++ text.dropWhile (· != '.'))
  else String.ofList text

def scientific (x : Float) (places : Nat) : String :=
  let (mantissa, e) := Decimal.scientificParts x places
  let digits := toString e.natAbs
  mantissa ++ "e" ++ (if e < 0 then "-" else "+")
    ++ (if digits.length < 2 then "0" ++ digits else digits)

/-- Positional notation for magnitudes from `10 ^ -4` to below `10 ^ precision`, otherwise scientific. -/
def general (p : Spec) (x : Float) (precision : Nat) : String :=
  let digits := max precision 1
  let zero := Decimal.significand x == 0
  let e : Int := if zero then 0 else Decimal.toIntClamped x.log10.floor (-1000) 1000
  if !zero && (x < 1e-4 || (digits : Int) ≤ e) then scientific x (digits - 1)
  else fixed p x ((digits : Int) - 1 - e).toNat

def formatFloat (p : Spec) (x : Float) : String :=
  let cased (s : String) : String :=
    if p.conversion.isUpper then String.ofList (s.toList.map Char.toUpper) else s
  if !x.isFinite then
    pad p (sign p (x < 0)) (cased (if x.isNaN then "NaN" else "Infinity")) false
  else
    let magnitude := x.abs
    let precision := p.precision.getD 6
    let body := match p.conversion.toLower with
      | 'e' => scientific magnitude precision
      | 'g' => general p magnitude precision
      | _ => fixed p magnitude precision
    pad p (sign p (Decimal.isNegative x && x != 0.0)) (cased body) true

def convert (p : Spec) (value : String) : Except Fault String :=
  let trimmed := trim value.toList
  let words (s : String) : Except Fault String := .ok (pad p "" s false)
  match p.conversion with
  | 'd' | 'i' | 'x' | 'X' | 'o' =>
    match integer? trimmed with
    | some n => .ok (formatInteger p n)
    | none => .error (mismatch p.conversion trimmed)
  | 'f' | 'F' | 'e' | 'E' | 'g' | 'G' =>
    match Decimal.float? trimmed with
    | some x => .ok (formatFloat p x)
    | none => .error (mismatch p.conversion trimmed)
  | 's' | 'S' =>
    let shown := match p.precision with
      | some n => value.toList.take n
      | none => value.toList
    words (String.ofList (if p.conversion = 'S' then Unicode.upper shown else shown))
  | 'c' =>
    match value.toList with
    | c :: _ => words (String.ofList (if p.alternate then Unicode.upperChar c else [c]))
    | [] => .error (mismatch 'c' trimmed)
  | 'b' | 'B' =>
    let truth := !(trimmed = [] || trimmed = "false".toList)
    words (if p.conversion = 'B' then (if truth then "TRUE" else "FALSE")
      else (if truth then "true" else "false"))
  | c => .error (.unknownConversion c)

/-- Writes pieces; the flag tells whether the value is still to be used. -/
def write (value : String) : Bool → List Piece → Except Fault String
  | _, [] => .ok ""
  | fresh, .literal c :: rest => (write value fresh rest).map (String.singleton c ++ ·)
  | _, .fault f :: _ => .error f
  | fresh, .conversion p :: rest =>
    if p.conversion = '%' then (write value fresh rest).map ("%" ++ ·)
    else if p.conversion = 'n' then (write value fresh rest).map ("\n" ++ ·)
    else if !fresh then .error (.missingArgument p.conversion)
    else
      match convert p value with
      | .error f => .error f
      | .ok s => (write value false rest).map (s ++ ·)

def format (format value : String) : Except Fault String := write value true (pieces format.toList)

end Stencil.Format
