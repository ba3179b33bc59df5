/-!
# Faults of patterns

Why a pattern is refused and where. A report shows the pattern with marks under the place.
-/
namespace Stencil.Pattern

structure Place where
  line : Nat
  column : Nat
  deriving DecidableEq, Repr

namespace Place

def first : Place := ⟨1, 1⟩

def after (p : Place) (c : Char) : Place :=
  if c = '\n' then ⟨p.line + 1, 1⟩ else ⟨p.line, p.column + 1⟩

end Place

structure Span where
  start : Place
  stop : Place
  deriving DecidableEq, Repr

namespace Span

def at_ (p : Place) : Span := ⟨p, p⟩

def isOnOneLine (s : Span) : Bool := s.start.line == s.stop.line

end Span

inductive Cause where
  | classEscape
  | classRange
  | classRangeBound
  | classUnclosed
  | decimalInvalid
  | hexEmpty
  | hexInvalid
  | hexDigit
  | escapeUnfinished
  | escapeUnknown
  | flagDanglingNegation
  | flagDuplicate
  | flagRepeatedNegation
  | flagUnfinished
  | flagUnknown
  | groupNameDuplicate
  | groupNameEmpty
  | groupNameInvalid
  | groupNameUnfinished
  | groupUnclosed
  | groupUnopened
  | nesting
  | repetitionRange
  | repetitionNumber
  | repetitionUnclosed
  | repetitionMissing
  | wordBoundaryUnclosed
  | wordBoundaryUnknown
  | wordBoundaryUnfinished
  | propertyLetter
  | backreference
  | lookAround
  | unicodeNotAllowed
  | notText
  | propertyUnknown
  | propertyValueUnknown
  deriving DecidableEq, Repr

/-- How deep groups, classes, repetitions, sequences and alternatives may nest. -/
def maxNesting : Nat := 250

/-- Most bytes that a compiled pattern may take. -/
def maxSize : Nat := 10485760

def Cause.message : Cause → String
  | classEscape => "invalid escape sequence found in character class"
  | classRange => "invalid character class range, the start must be <= the end"
  | classRangeBound => "invalid range boundary, must be a literal"
  | classUnclosed => "unclosed character class"
  | decimalInvalid => "decimal literal invalid"
  | hexEmpty => "hexadecimal literal empty"
  | hexInvalid => "hexadecimal literal is not a Unicode scalar value"
  | hexDigit => "invalid hexadecimal digit"
  | escapeUnfinished => "incomplete escape sequence, reached end of pattern prematurely"
  | escapeUnknown => "unrecognized escape sequence"
  | flagDanglingNegation => "dangling flag negation operator"
  | flagDuplicate => "duplicate flag"
  | flagRepeatedNegation => "flag negation operator repeated"
  | flagUnfinished => "expected flag but got end of regex"
  | flagUnknown => "unrecognized flag"
  | groupNameDuplicate => "duplicate capture group name"
  | groupNameEmpty => "empty capture group name"
  | groupNameInvalid => "invalid capture group character"
  | groupNameUnfinished => "unclosed capture group name"
  | groupUnclosed => "unclosed group"
  | groupUnopened => "unopened group"
  | nesting =>
    "exceed the maximum number of nested parentheses/brackets (" ++ toString maxNesting ++ ")"
  | repetitionRange => "invalid repetition count range, the start must be <= the end"
  | repetitionNumber => "repetition quantifier expects a valid decimal"
  | repetitionUnclosed => "unclosed counted repetition"
  | repetitionMissing => "repetition operator missing expression"
  | wordBoundaryUnclosed =>
    "special word boundary assertion is either unclosed or contains an invalid character"
  | wordBoundaryUnknown =>
    "unrecognized special word boundary assertion, valid choices are: start, end, start-half or end-half"
  | wordBoundaryUnfinished =>
    "found either the beginning of a special word boundary or a bounded repetition on a \\b with an "
      ++ "opening brace, but no closing brace"
  | propertyLetter => "invalid Unicode character class"
  | backreference => "backreferences are not supported"
  | lookAround => "look-around, including look-ahead and look-behind, is not supported"
  | unicodeNotAllowed => "Unicode not allowed here"
  | notText => "pattern can match invalid UTF-8"
  | propertyUnknown => "Unicode property not found"
  | propertyValueUnknown => "Unicode property value not found"

/-- Why a pattern is refused. A second span shows what the first conflicts with. -/
inductive Fault where
  | malformed (cause : Cause) (span : Span) (other : Option Span)
  | tooLarge
  deriving DecidableEq, Repr

namespace Fault

def summary : Fault → String
  | malformed cause _ _ => "error: " ++ cause.message
  | tooLarge => "Compiled regex exceeds size limit of " ++ toString maxSize ++ " bytes."

def blanks (n : Nat) : String := String.ofList (List.replicate n ' ')

def splitLines (pattern : String) : List String :=
  let lines := pattern.splitOn "\n"
  let lines := if lines.getLast? = some "" then lines.dropLast else lines
  lines.map fun line => if line.endsWith "\r" then (line.dropEnd 1).toString else line

/-- Marks under the spans of one line, which stand in order; `column` columns are filled. -/
def marks (column : Nat) : List Span → String
  | [] => ""
  | s :: rest =>
    let gap := s.start.column - 1 - column
    let width := max 1 (s.stop.column - s.start.column)
    blanks gap ++ String.ofList (List.replicate width '^') ++ marks (column + gap + width) rest

def inOrder (s t : Span) : Bool :=
  s.start.line < t.start.line || (s.start.line == t.start.line && s.start.column ≤ t.start.column)

/-- The lines of a pattern with their numbers, if there are several, and marks under the spans. -/
def marked (pattern : String) (spans : List Span) : String :=
  let lines := splitLines pattern
  let count := lines.length + (if pattern.endsWith "\n" then 1 else 0)
  let width := if count ≤ 1 then 0 else (toString count).length
  let numbered := (List.range lines.length).zip lines
  String.join <| numbered.map fun (i, line) =>
    let number := toString (i + 1)
    let label := if width = 0 then blanks 4 else blanks (width - number.length) ++ number ++ ": "
    let here := spans.filter fun s => s.isOnOneLine && s.start.line == i + 1
    label ++ line ++ "\n" ++
      (if here.isEmpty then ""
      else blanks (if width = 0 then 4 else width + 2) ++ marks 0 here ++ "\n")

def divider : String := String.ofList (List.replicate 79 '~') ++ "\n"

def lineNote (s : Span) : String :=
  "on line " ++ toString s.start.line ++ " (column " ++ toString s.start.column
    ++ ") through line " ++ toString s.stop.line ++ " (column " ++ toString (s.stop.column - 1) ++ ")"

def report (pattern : String) : Fault → String
  | tooLarge => tooLarge.summary
  | malformed cause span other =>
    let spans := (span :: other.toList).mergeSort inOrder
    let shown := marked pattern spans
    let end_ := (malformed cause span other).summary
    if '\n' ∈ pattern.toList then
      let notes := (spans.filter fun s => !s.isOnOneLine).map lineNote
      "regex parse error:\n" ++ divider ++ shown ++ divider
        ++ (if notes.isEmpty then "" else "\n".intercalate notes ++ "\n") ++ end_
    else "regex parse error:\n" ++ shown ++ end_

end Fault

end Stencil.Pattern
