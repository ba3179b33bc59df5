import Stencil.Format
import Stencil.Proofs.ByOffset.Bytes
import Stencil.Proofs.Numerals

/-!
# Formats by counts

A field is filled by the difference of two lengths, commas are set by what a count of bytes leaves, and the places of a
scientific notation are one less than its digits. None of these numbers falls below zero, so a format gives what it
gives in terms of what lies ahead.
-/
namespace Stencil.ByOffset.Formats

open Stencil.Text Stencil.Format

def padded (p : Spec) (sign body : String) (numeric : Bool) : Checked String := do
  let length := sign.length + body.length
  if p.width ≤ length then return sign ++ body
  else
    let fill ← minus p.width length
    if p.left then return sign ++ body ++ String.ofList (List.replicate fill ' ')
    else if p.zero && numeric then return sign ++ String.ofList (List.replicate fill '0') ++ body
    else return String.ofList (List.replicate fill ' ') ++ sign ++ body

def isGroupEnd (size i : Nat) : Checked Bool := if 0 < i then (· % 3 == 0) <$> minus size i else pure false

/-- Sets commas between digits, of which there are so many bytes in all and so many characters before these. -/
def groupedFrom (size : Nat) : Nat → List Char → Checked (List Char)
  | _, [] => return []
  | i, c :: rest => do
    let comma ← isGroupEnd size i
    let more ← groupedFrom size (i + 1) rest
    return if comma then ',' :: c :: more else c :: more

def grouped (digits : List Char) : Checked (List Char) := groupedFrom (byteLength digits) 0 digits

def digitsOf (p : Spec) (n : Int) : Checked (List Char) :=
  if p.group then grouped (Nat.toDigits 10 n.natAbs) else pure (Nat.toDigits 10 n.natAbs)

def integer (p : Spec) (n : Int) : Checked String :=
  let bits := (n % Int.pow 2 64).toNat
  let based (base : Nat) (mark : String) (isUpper : Bool) : Checked String :=
    let digits := Nat.toDigits base bits
    let digits := if isUpper then digits.map Char.toUpper else digits
    padded p (if p.alternate then mark else "") (String.ofList digits) true
  match p.conversion with
  | 'x' => based 16 "0x" false
  | 'X' => based 16 "0X" true
  | 'o' => based 8 "0" false
  | _ => do padded p (sign p (n < 0)) (String.ofList (← digitsOf p n)) true

def fixed (p : Spec) (x : Float) (places : Nat) : Checked String := do
  let text := (Decimal.fixed x places).toList
  if p.group then
    return String.ofList ((← grouped (text.takeWhile (· != '.'))) ++ text.dropWhile (· != '.'))
  else return String.ofList text

def general (p : Spec) (x : Float) (precision : Nat) : Checked String := do
  let digits := max precision 1
  let zero := Decimal.significand x == 0
  let e : Int := if zero then 0 else Decimal.toIntClamped x.log10.floor (-1000) 1000
  if !zero && (x < 1e-4 || (digits : Int) ≤ e) then return scientific x (← minus digits 1)
  else fixed p x ((digits : Int) - 1 - e).toNat

def magnitudeText (p : Spec) (x : Float) (precision : Nat) : Checked String :=
  match p.conversion.toLower with
  | 'e' => pure (scientific x precision)
  | 'g' => general p x precision
  | _ => fixed p x precision

def float (p : Spec) (x : Float) : Checked String :=
  let cased (s : String) : String :=
    if p.conversion.isUpper then String.ofList (s.toList.map Char.toUpper) else s
  if !x.isFinite then padded p (sign p (x < 0)) (cased (if x.isNaN then "NaN" else "Infinity")) false
  else do
    let body ← magnitudeText p x.abs (p.precision.getD 6)
    padded p (sign p (Decimal.isNegative x && x != 0.0)) (cased body) true

def integerOrFault (p : Spec) (value : List Char) : Checked (Except Format.Fault String) :=
  match integer? value with
  | some n => .ok <$> integer p n
  | none => return .error (mismatch p.conversion value)

def floatOrFault (p : Spec) (value : List Char) : Checked (Except Format.Fault String) :=
  match Decimal.float? value with
  | some x => .ok <$> float p x
  | none => return .error (mismatch p.conversion value)

def firstOrFault (p : Spec) (value trimmed : List Char) : Checked (Except Format.Fault String) :=
  match value with
  | c :: _ => .ok <$> padded p "" (String.ofList (if p.alternate then Unicode.upperChar c else [c])) false
  | [] => return .error (mismatch 'c' trimmed)

def convert (p : Spec) (value : String) : Checked (Except Format.Fault String) :=
  let trimmed := trim value.toList
  let words (s : String) : Checked (Except Format.Fault String) := .ok <$> padded p "" s false
  match p.conversion with
  | 'd' | 'i' | 'x' | 'X' | 'o' => integerOrFault p trimmed
  | 'f' | 'F' | 'e' | 'E' | 'g' | 'G' => floatOrFault p trimmed
  | 's' | 'S' =>
    let shown := match p.precision with
      | some n => value.toList.take n
      | none => value.toList
    words (String.ofList (if p.conversion = 'S' then Unicode.upper shown else shown))
  | 'c' => firstOrFault p value.toList trimmed
  | 'b' | 'B' =>
    let truth := !(trimmed = [] || trimmed = "false".toList)
    words (if p.conversion = 'B' then (if truth then "TRUE" else "FALSE")
      else (if truth then "true" else "false"))
  | c => return .error (.unknownConversion c)

def write (value : String) : Bool → List Piece → Checked (Except Format.Fault String)
  | _, [] => return .ok ""
  | fresh, .literal c :: rest => do return (← write value fresh rest).map (String.singleton c ++ ·)
  | _, .fault f :: _ => return .error f
  | fresh, .conversion p :: rest => do
    if p.conversion = '%' then return (← write value fresh rest).map ("%" ++ ·)
    else if p.conversion = 'n' then return (← write value fresh rest).map ("\n" ++ ·)
    else if !fresh then return .error (.missingArgument p.conversion)
    else
      match ← convert p value with
      | .error f => return .error f
      | .ok s => return (← write value false rest).map (s ++ ·)

def format (format value : String) : Checked (Except Format.Fault String) := write value true (pieces format.toList)

theorem padded_eq (p : Spec) (sign body : String) (numeric : Bool) :
    padded p sign body numeric = pure (pad p sign body numeric) := by
  rw [padded, pad]
  split
  · next hwide =>
    have hfill : p.width - (sign.length + body.length) = 0 := Nat.sub_eq_zero_of_le hwide
    simp [hfill]
  · next hnarrow =>
    rw [minus_of_le (Nat.le_of_not_le hnarrow), pure_bind]
    split
    · rfl
    split <;> rfl

section Groups

variable {digits rest : List Char}

theorem byteLength_of_ascii (h : ∀ c ∈ rest, c.toNat < 128) : byteLength rest = rest.length := by
  induction rest with
  | nil => rfl
  | cons c rest ih =>
    rw [byteLength_cons, utf8Size_of_lt (h c (by simp)), ih fun d hd => h d (by simp [hd]), List.length_cons,
      Nat.add_comm]

theorem groupThousands_cons (c : Char) (rest : List Char) :
    groupThousands (c :: rest) =
      c :: if rest ≠ [] ∧ rest.length % 3 = 0 then ',' :: groupThousands rest else groupThousands rest := by
  rw [groupThousands]
  split <;> rfl

/-- A comma stands before the digits that are left if there are digits before them and their number is a multiple of
three. -/
theorem groupedFrom_eq (rest : List Char) (i : Nat) :
    groupedFrom (i + rest.length) i rest =
      pure (if 0 < i ∧ rest ≠ [] ∧ rest.length % 3 = 0 then ',' :: groupThousands rest else groupThousands rest) := by
  induction rest generalizing i with
  | nil =>
    rw [groupedFrom, if_neg (by simp)]
    rfl
  | cons c rest ih =>
    have hsize : i + (c :: rest).length = i + 1 + rest.length := by
      rw [List.length_cons]
      omega
    have hleft : i + 1 + rest.length - i = (c :: rest).length := by omega
    have hcomma : isGroupEnd (i + 1 + rest.length) i = pure (decide (0 < i ∧ (c :: rest).length % 3 = 0)) := by
      rw [isGroupEnd, minus_of_le (by omega), hleft]
      by_cases hi : 0 < i <;> simp [hi]
      rfl
    rw [groupedFrom, hsize, hcomma, pure_bind, ih (i + 1), pure_bind, groupThousands_cons]
    simp

theorem grouped_eq (h : ∀ c ∈ digits, c.toNat < 128) : grouped digits = pure (groupThousands digits) := by
  have hfrom := groupedFrom_eq digits 0
  rwa [Nat.zero_add, if_neg fun h => absurd h.1 (Nat.lt_irrefl 0), ← byteLength_of_ascii h] at hfrom

end Groups

theorem toNat_lt_of_isDigit {c : Char} (h : c.isDigit = true) : c.toNat < 128 := by
  have hrange := Decimal.range_of_isDigit h
  omega

theorem integer_eq (p : Spec) (n : Int) : integer p n = pure (formatInteger p n) := by
  have hgrouped : grouped (Nat.toDigits 10 n.natAbs) = pure (groupThousands (Nat.toDigits 10 n.natAbs)) :=
    grouped_eq fun c hc => toNat_lt_of_isDigit (Decimal.isDigit_of_mem_toDigits hc)
  unfold integer formatInteger
  dsimp only
  split
  · next h => simp only [h, padded_eq]
  · next h => simp only [h, padded_eq]
  · next h => simp only [h, padded_eq]
  · simp only [digitsOf, hgrouped]
    split
    · simp only [pure_bind, padded_eq]
    · simp only [pure_bind, padded_eq]

/-- Positional notation has digits, and at most a point. -/
theorem isDigit_of_mem_positional {units places : Nat} {c : Char} (hc : c ∈ (Decimal.positional units places).toList) :
    c.isDigit = true ∨ c = '.' := by
  have hdigits : ∀ d ∈ (toString units).toList, d.isDigit = true := by
    intro d hd
    have htext : toString units = String.ofList (Nat.toDigits 10 units) := Nat.repr_eq_ofList_toDigits
    rw [htext, String.toList_ofList] at hd
    exact Decimal.isDigit_of_mem_toDigits hd
  have hpadded (n : Nat) : ∀ d ∈ List.replicate n '0' ++ (toString units).toList, d.isDigit = true := by
    intro d hd
    rcases List.mem_append.mp hd with hzero | hd
    · rw [List.eq_of_mem_replicate hzero]
      rfl
    · exact hdigits d hd
  unfold Decimal.positional at hc
  dsimp only at hc
  split at hc
  · exact .inl (hdigits c (by simpa using hc))
  · simp only [String.toList_append, String.toList_ofList, List.mem_append] at hc
    rcases hc with (hc | hc) | hc
    · exact .inl (hpadded _ c (List.mem_of_mem_take hc))
    · exact .inr (by simpa using hc)
    · exact .inl (hpadded _ c (List.mem_of_mem_drop hc))

theorem fixed_eq (p : Spec) (x : Float) (places : Nat) : fixed p x places = pure (Format.fixed p x places) := by
  have hascii : ∀ c ∈ (Decimal.fixed x places).toList.takeWhile (· != '.'), c.toNat < 128 := by
    intro c hc
    rcases isDigit_of_mem_positional ((List.takeWhile_prefix _).subset hc) with hdigit | rfl
    · exact toNat_lt_of_isDigit hdigit
    · decide
  rw [fixed, Format.fixed, grouped_eq hascii]
  split <;> rfl

theorem general_eq (p : Spec) (x : Float) (precision : Nat) :
    general p x precision = pure (Format.general p x precision) := by
  rw [general, Format.general, minus_of_le (Nat.le_max_right precision 1)]
  simp only [pure_bind, fixed_eq]
  exact (apply_ite pure _ _ _).symm

theorem float_eq (p : Spec) (x : Float) : float p x = pure (formatFloat p x) := by
  have hmagnitude : magnitudeText p x.abs (p.precision.getD 6) =
      pure (match p.conversion.toLower with
        | 'e' => scientific x.abs (p.precision.getD 6)
        | 'g' => Format.general p x.abs (p.precision.getD 6)
        | _ => Format.fixed p x.abs (p.precision.getD 6)) := by
    rw [magnitudeText]
    split
    · rfl
    · exact general_eq ..
    · exact fixed_eq ..
  rw [float, formatFloat]
  split
  · exact padded_eq ..
  · rw [hmagnitude, pure_bind]
    exact padded_eq ..

theorem integerOrFault_eq (p : Spec) (value : List Char) :
    integerOrFault p value = pure (match integer? value with
      | some n => .ok (formatInteger p n)
      | none => .error (mismatch p.conversion value)) := by
  rw [integerOrFault]
  split
  · rw [integer_eq, map_pure]
  · rfl

theorem floatOrFault_eq (p : Spec) (value : List Char) :
    floatOrFault p value = pure (match Decimal.float? value with
      | some x => .ok (formatFloat p x)
      | none => .error (mismatch p.conversion value)) := by
  rw [floatOrFault]
  split
  · rw [float_eq, map_pure]
  · rfl

theorem firstOrFault_eq (p : Spec) (value trimmed : List Char) :
    firstOrFault p value trimmed = pure (match value with
      | c :: _ => .ok (pad p "" (String.ofList (if p.alternate then Unicode.upperChar c else [c])) false)
      | [] => .error (mismatch 'c' trimmed)) := by
  cases value with
  | nil => rfl
  | cons c rest => rw [firstOrFault, padded_eq, map_pure]

theorem convert_eq (p : Spec) (value : String) : convert p value = pure (Format.convert p value) := by
  unfold convert Format.convert
  simp only [integerOrFault_eq, floatOrFault_eq, firstOrFault_eq, padded_eq, map_pure]
  split <;> simp only [*] <;> rfl

theorem write_eq (value : String) (fresh : Bool) (ps : List Piece) :
    write value fresh ps = pure (Format.write value fresh ps) := by
  fun_induction Format.write value fresh ps with
  | case1 => rfl
  | case2 fresh c rest ih =>
    rw [write, ih]
    rfl
  | case3 => rfl
  | case4 fresh p rest hc ih =>
    rw [write, if_pos hc, ih]
    rfl
  | case5 fresh p rest hc hn ih =>
    rw [write, if_neg hc, if_pos hn, ih]
    rfl
  | case6 fresh p rest hc hn hused =>
    rw [write, if_neg hc, if_neg hn, if_pos hused]
  | case7 fresh p rest hc hn hfresh f hconvert =>
    rw [write, if_neg hc, if_neg hn, if_neg hfresh, convert_eq, hconvert]
    rfl
  | case8 fresh p rest hc hn hfresh s hconvert ih =>
    rw [write, if_neg hc, if_neg hn, if_neg hfresh, convert_eq, hconvert, pure_bind, ih]
    rfl

/-- Formats give what they give, and nothing in them faults. -/
theorem format_eq (format value : String) : Formats.format format value = pure (Format.format format value) :=
  write_eq value true (pieces format.toList)

end Stencil.ByOffset.Formats
