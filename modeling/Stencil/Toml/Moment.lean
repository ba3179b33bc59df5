import Stencil.Decimal.Numeral

/-!
# TOML moments

Dates, times of day, and both together, which may have an offset from universal time. A date is a day of the
calendar; a minute may have a second more than sixty. Fractions of a second are kept to the nanosecond, and
the text of a moment has one form.
-/
namespace Stencil.Toml

structure Date where
  year : Nat
  month : Nat
  day : Nat
  deriving DecidableEq

structure TimeOfDay where
  hour : Nat
  minute : Nat
  second : Nat
  nanosecond : Nat
  deriving DecidableEq

/-- What local time is ahead of universal time: nothing, or a number of minutes. -/
inductive Offset where
  | universal
  | minutes (ahead : Int)
  deriving DecidableEq

inductive Moment where
  | date (d : Date)
  | time (t : TimeOfDay)
  | dateTime (d : Date) (t : TimeOfDay) (offset : Option Offset)
  deriving DecidableEq

def countText (width n : Nat) : String :=
  let digits := Nat.toDigits 10 n
  String.ofList (List.replicate (width - digits.length) '0' ++ digits)

/-- The day as `1979-05-27`. -/
def Date.text (d : Date) : String :=
  countText 4 d.year ++ "-" ++ countText 2 d.month ++ "-" ++ countText 2 d.day

/-- The places of a fraction of a second with their point; no zero ends them. -/
def placesText (nanosecond : Nat) : String :=
  if nanosecond = 0 then ""
  else "." ++ String.ofList ((countText 9 nanosecond).toList.reverse.dropWhile (· == '0')).reverse

/-- The time as `07:32:00`, or with places as `07:32:00.5`. -/
def TimeOfDay.text (t : TimeOfDay) : String :=
  countText 2 t.hour ++ ":" ++ countText 2 t.minute ++ ":" ++ countText 2 t.second
    ++ placesText t.nanosecond

/-- The offset as `Z`, or as `+01:30`. -/
def Offset.text : Offset → String
  | universal => "Z"
  | minutes ahead =>
    (if ahead < 0 then "-" else "+") ++ countText 2 (ahead.natAbs / 60) ++ ":"
      ++ countText 2 (ahead.natAbs % 60)

/-- The text of a moment: between a date and a time stands a `T`. -/
def Moment.text : Moment → String
  | date d => d.text
  | time t => t.text
  | dateTime d t offset => d.text ++ "T" ++ t.text ++ (offset.map Offset.text).getD ""

def readCount? (width least greatest : Nat) (s : List Char) : Option (Nat × List Char) :=
  let digits := s.take width
  let n := Decimal.natOfDigits digits
  if digits.length = width ∧ digits.all Char.isDigit ∧ least ≤ n ∧ n ≤ greatest then
    some (n, s.drop width)
  else none

def readMark? (mark : Char) : List Char → Option (List Char)
  | c :: rest => if c = mark then some rest else none
  | [] => none

def isLeapYear (year : Nat) : Bool := year % 4 == 0 && (year % 100 != 0 || year % 400 == 0)

def daysIn (year month : Nat) : Nat :=
  if month = 2 then if isLeapYear year then 29 else 28
  else if month ∈ [4, 6, 9, 11] then 30
  else 31

def readDate? (s : List Char) : Option (Date × List Char) := do
  let (year, s) ← readCount? 4 0 9999 s
  let s ← readMark? '-' s
  let (month, s) ← readCount? 2 1 12 s
  let s ← readMark? '-' s
  let (day, s) ← readCount? 2 1 (daysIn year month) s
  return (⟨year, month, day⟩, s)

/-- The nanoseconds that places after the point stand for; places after the ninth are left out. -/
def nanosecondsOf (places : List Char) : Nat :=
  let kept := places.take 9
  Decimal.natOfDigits kept * Nat.pow 10 (9 - kept.length)

def readPlaces? : List Char → Option (Nat × List Char)
  | '.' :: rest =>
    match rest.takeWhile Char.isDigit with
    | [] => none
    | places => some (nanosecondsOf places, rest.dropWhile Char.isDigit)
  | s => some (0, s)

def readTime? (s : List Char) : Option (TimeOfDay × List Char) := do
  let (hour, s) ← readCount? 2 0 23 s
  let s ← readMark? ':' s
  let (minute, s) ← readCount? 2 0 59 s
  let s ← readMark? ':' s
  let (second, s) ← readCount? 2 0 60 s
  let (nanosecond, s) ← readPlaces? s
  return (⟨hour, minute, second, nanosecond⟩, s)

def readOffset? : List Char → Option (Option Offset × List Char)
  | [] => some (none, [])
  | c :: rest =>
    if c = 'Z' ∨ c = 'z' then some (some .universal, rest)
    else if c = '+' ∨ c = '-' then do
      let (hours, s) ← readCount? 2 0 23 rest
      let s ← readMark? ':' s
      let (minutes, s) ← readCount? 2 0 59 s
      let ahead : Int := 60 * hours + minutes
      return (some (.minutes (if c = '-' then -ahead else ahead)), s)
    else some (none, c :: rest)

/-- Reads a date, a time of day, or a date with a time. A blank after a date that begins no time is left. -/
def readMoment? (s : List Char) : Option (Moment × List Char) :=
  match readDate? s with
  | none => (readTime? s).map fun (t, rest) => (.time t, rest)
  | some (d, rest) =>
    match rest with
    | c :: more =>
      if c = 'T' ∨ c = 't' ∨ c = ' ' then
        match readTime? more with
        | some (t, after) => (readOffset? after).map fun (offset, rest) => (.dateTime d t offset, rest)
        | none => some (.date d, rest)
      else some (.date d, rest)
    | [] => some (.date d, [])

end Stencil.Toml
