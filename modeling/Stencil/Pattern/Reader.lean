import Stencil.Pattern.Term
import Stencil.Text.Blank
import Stencil.Text.Hex
import Stencil.Unicode.Letter

/-!
# Reading patterns

A pattern is read from left to right. Groups that are open stand on a stack, and so do classes that are
open within a class, so that the first fault in the text is the one reported.
-/
namespace Stencil.Pattern

open Stencil.Text

/-- What is left of a pattern. Where it is `verbose`, blanks and comments do not count. -/
structure Source where
  rest : List Char
  place : Place
  verbose : Bool

namespace Source

def next (s : Source) : Source :=
  match s.rest with
  | [] => s
  | c :: rest => { s with rest, place := s.place.after c }

def dropBlanks (comment : Bool) (place : Place) : List Char → Place × List Char
  | [] => (place, [])
  | c :: rest =>
    if comment then dropBlanks (c != '\n') (place.after c) rest
    else if isBlank c then dropBlanks false (place.after c) rest
    else if c = '#' then dropBlanks true (place.after c) rest
    else (place, c :: rest)

def skip (s : Source) : Source :=
  if s.verbose then
    let (place, rest) := dropBlanks false s.place s.rest
    { s with rest, place }
  else s

def nextSkip (s : Source) : Source := s.next.skip

def peek? (s : Source) : Option Char := s.rest.head?

def peekSecond? (s : Source) : Option Char := s.rest[1]?

def peekCounting? (s : Source) : Option Char :=
  if s.verbose then
    match (s.rest.drop 1).dropWhile isBlank with
    | '#' :: rest => (rest.dropWhile isBlank).head?
    | rest => rest.head?
  else s.peekSecond?

def charSpan (s : Source) : Span := ⟨s.place, s.next.place⟩

def here (s : Source) : Span := .at_ s.place

def from_ (s : Source) (start : Place) : Span := ⟨start, s.place⟩

def eat? (s : Source) : List Char → Option Source
  | [] => some s
  | c :: rest => if s.peek? = some c then s.next.eat? rest else none

end Source

def refuse {α : Type} (cause : Cause) (span : Span) : Except Fault α :=
  .error (.malformed cause span none)

def hexDigits : Nat → Nat → Source → Except Fault (Nat × Source)
  | 0, value, s => .ok (value, s)
  | count + 1, value, s =>
    match s.peek? with
    | none => refuse .escapeUnfinished s.here
    | some c =>
      match hexValue? c with
      | none => refuse .hexDigit s.charSpan
      | some d => hexDigits count (16 * value + d) s.nextSkip

def hexBraced (opened : Place) : Nat → List Nat → Source → Except Fault ((List Nat) × Source)
  | 0, _, s => refuse .escapeUnfinished (s.from_ opened)
  | fuel + 1, digits, s =>
    match s.peek? with
    | none => refuse .escapeUnfinished (s.from_ opened)
    | some '\x7d' => .ok (digits.reverse, s)
    | some c =>
      match hexValue? c with
      | none => refuse .hexDigit s.charSpan
      | some d => hexBraced opened fuel (d :: digits) s.nextSkip

/-- Reads the digits after `\x`, `\u` or `\U`; `start` is the place of the backslash. -/
def hexLiteral (start : Place) (count : Nat) (s : Source) : Except Fault (Literal × Source) := do
  let s := s.nextSkip
  match s.peek? with
  | none => refuse .escapeUnfinished s.here
  | some '\x7b' =>
    let (digits, inner) ← hexBraced s.place s.rest.length [] s.nextSkip
    let after := inner.nextSkip
    if digits = [] then refuse .hexEmpty (after.from_ s.place)
    else
      match charOfCode? (digits.foldl (fun n d => min (16 * n + d) 0x110000) 0) with
      | none => refuse .hexInvalid (inner.from_ s.next.place)
      | some c => .ok (⟨c, false, after.from_ start⟩, after)
  | some _ =>
    let (code, after) ← hexDigits count 0 s
    match charOfCode? code with
    | none => refuse .hexInvalid (after.from_ s.place)
    | some c => .ok (⟨c, count == 2, after.from_ start⟩, after)

def propertyBraced : Nat → List Char → Source → Except Fault (List Char × Source)
  | 0, _, s => refuse .escapeUnfinished s.here
  | fuel + 1, name, s =>
    match s.peek? with
    | none => refuse .escapeUnfinished s.here
    | some '\x7d' => .ok (name.reverse, s.next)
    | some c => propertyBraced fuel (c :: name) s.nextSkip

/-- A name in braces may have a value after `!=`, which stands for the other values, a colon or an equals
sign. -/
def propertyName (name : List Char) : PropertyName :=
  let split (mark : String) (differs : Bool) : Option PropertyName :=
    match (String.ofList name).splitOn mark with
    | _ :: [] | [] => none
    | first :: rest => some (.valued first (mark.intercalate rest) differs)
  (((split "!=" true).or (split ":" false)).or (split "=" false)).getD (.named (String.ofList name))

def property (s : Source) : Except Fault (PropertyName × Source) := do
  let s := s.nextSkip
  match s.peek? with
  | none => refuse .escapeUnfinished s.here
  | some '\x7b' =>
    let (name, after) ← propertyBraced s.rest.length [] s.nextSkip
    return (propertyName name, after)
  | some '\\' => refuse .propertyLetter s.charSpan
  | some c => return (.named (String.singleton c), s.nextSkip)

/-- Characters that mean something in patterns and stand for themselves after a backslash. -/
def isMeta (c : Char) : Bool := c ∈ "\\.+*?()|[]\x7b\x7d^$#&-~".toList

def isEscapable (c : Char) : Bool :=
  c.toNat < 128 && !c.isAlphanum && c != '<' && c != '>'

def controlChar? : Char → Option Char
  | 'a' => some '\x07'
  | 'f' => some '\x0c'
  | 't' => some '\t'
  | 'n' => some '\n'
  | 'r' => some '\r'
  | 'v' => some '\x0b'
  | _ => none

def simpleAnchor? : Char → Option Anchor
  | 'A' => some .textStart
  | 'z' => some .textEnd
  | 'B' => some .notWordBoundary
  | '<' => some .wordStart
  | '>' => some .wordEnd
  | _ => none

def shorthand? : Char → Option (Shorthand × Bool)
  | 'd' => some (.digit, false)
  | 's' => some (.space, false)
  | 'w' => some (.word, false)
  | 'D' => some (.digit, true)
  | 'S' => some (.space, true)
  | 'W' => some (.word, true)
  | _ => none

def wordBoundary? (name : String) : Option Anchor :=
  if name = "start" then some .wordStart
  else if name = "end" then some .wordEnd
  else if name = "start-half" then some .wordStartHalf
  else if name = "end-half" then some .wordEndHalf
  else none

def isBoundaryChar (c : Char) : Bool := c.isAlpha || c == '-'

def boundaryName : Nat → List Char → Source → List Char × Source
  | 0, name, s => (name.reverse, s)
  | fuel + 1, name, s =>
    match s.peek? with
    | some c => if isBoundaryChar c then boundaryName fuel (c :: name) s.nextSkip else (name.reverse, s)
    | none => (name.reverse, s)

/-- Reads the name of a kind of word boundary in braces. A brace before anything but a letter or a hyphen
begins a repetition instead. -/
def specialBoundary (start : Place) (s : Source) : Except Fault ((Option Anchor) × Source) :=
  let inner := s.nextSkip
  match inner.peek? with
  | none => refuse .wordBoundaryUnfinished (inner.from_ start)
  | some c =>
    if isBoundaryChar c then
      let (name, close) := boundaryName inner.rest.length [] inner
      if close.peek? = some '\x7d' then
        match wordBoundary? (String.ofList name) with
        | some a => .ok (some a, close.next)
        | none => refuse .wordBoundaryUnknown ⟨inner.place, close.place⟩
      else refuse .wordBoundaryUnclosed (close.from_ s.place)
    else .ok (none, s)

def escape (s : Source) : Except Fault (Term × Source) := do
  let start := s.place
  let s := s.next
  match s.peek? with
  | none => refuse .escapeUnfinished (s.from_ start)
  | some c =>
    let after := s.next
    let span := after.from_ start
    if c.isDigit then refuse .backreference span
    else if c = 'x' ∨ c = 'u' ∨ c = 'U' then
      let (l, rest) ← hexLiteral start (if c = 'x' then 2 else if c = 'u' then 4 else 8) s
      return (.literal l, rest)
    else if c = 'p' ∨ c = 'P' then
      let (p, rest) ← property s
      return (.property p (c == 'P') (rest.from_ start), rest)
    else if isMeta c ∨ isEscapable c then return (.literal ⟨c, false, span⟩, after)
    else if c = 'b' then
      if after.peek? = some '\x7b' then
        match ← specialBoundary start after with
        | (some a, rest) => return (.anchor a (rest.from_ start), rest)
        | (none, rest) => return (.anchor .wordBoundary span, rest)
      else return (.anchor .wordBoundary span, after)
    else
      match shorthand? c, controlChar? c, simpleAnchor? c with
      | some (k, negated), _, _ => return (.shorthand k negated span, after)
      | _, some d, _ => return (.literal ⟨d, false, span⟩, after)
      | _, _, some a => return (.anchor a span, after)
      | _, _, _ => refuse .escapeUnknown span

def primitive (s : Source) : Except Fault (Term × Source) :=
  match s.peek? with
  | some '\\' => escape s
  | some '.' => .ok (.any s.charSpan, s.next)
  | some '^' => .ok (.anchor .lineStart s.charSpan, s.next)
  | some '$' => .ok (.anchor .lineEnd s.charSpan, s.next)
  | some c => .ok (.literal ⟨c, false, s.charSpan⟩, s.next)
  | none => .ok (.empty, s)

/-- A class whose closing bracket has not come yet. The left operand of an operator waits for the right
one. -/
structure OpenClass where
  opened : Span
  negated : Bool
  waiting : Option (ClassOperator × ClassTerm)
  /-- The items of the current operand, the latest first. -/
  items : List ClassTerm
  place : Place

namespace OpenClass

def operand (k : OpenClass) : ClassTerm :=
  match k.items with
  | [] => .empty (.at_ k.place)
  | [item] => item
  | latest :: _ =>
    .union k.items.reverse ⟨((k.items.getLast?.map (·.span.start)).getD k.place), latest.span.stop⟩

def body (k : OpenClass) : ClassTerm :=
  match k.waiting with
  | none => k.operand
  | some (op, left) => .binary op left k.operand ⟨left.span.start, k.operand.span.stop⟩

def add (k : OpenClass) (item : ClassTerm) : OpenClass := { k with items := item :: k.items }

def operate (k : OpenClass) (op : ClassOperator) (place : Place) : OpenClass :=
  { k with waiting := some (op, k.body), items := [], place }

end OpenClass

def leadingHyphens (start : Place) :
    Nat → List ClassTerm → Source → Except Fault (List ClassTerm × Source)
  | 0, items, s => .ok (items, s)
  | fuel + 1, items, s =>
    if s.peek? = some '-' then
      let after := s.nextSkip
      if after.rest = [] then refuse .classUnclosed (.at_ start)
      else leadingHyphens start fuel (.literal ⟨'-', false, s.charSpan⟩ :: items) after
    else .ok (items, s)

def openClass (s : Source) : Except Fault (OpenClass × Source) := do
  let start := s.place
  let unclosed {α : Type} (s : Source) : Except Fault α := refuse .classUnclosed (s.from_ start)
  let s := s.nextSkip
  if s.rest = [] then unclosed s
  else
    let negated := s.peek? == some '^'
    let s := if negated then s.nextSkip else s
    if s.rest = [] then unclosed s
    else
      let place := s.place
      let (items, s) ← leadingHyphens start s.rest.length [] s
      if items = [] ∧ s.peek? = some ']' then
        let after := s.nextSkip
        if after.rest = [] then unclosed after
        else
          let bracket := .literal ⟨']', false, s.charSpan⟩
          return (⟨after.from_ start, negated, none, [bracket], place⟩, after)
      else return (⟨s.from_ start, negated, none, items, place⟩, s)

def rangesOf : List Char → List (Nat × Nat)
  | a :: b :: rest => (a.toNat, b.toNat) :: rangesOf rest
  | _ => []

def posixRanges? (name : String) : Option (List (Nat × Nat)) :=
  let ranges (ends : String) : List (Nat × Nat) := rangesOf ends.toList
  match name with
  | "alnum" => some (ranges "09AZaz")
  | "alpha" => some (ranges "AZaz")
  | "ascii" => some [(0, 127)]
  | "blank" => some (ranges "\t\t  ")
  | "cntrl" => some [(0, 31), (127, 127)]
  | "digit" => some (ranges "09")
  | "graph" => some (ranges "!~")
  | "lower" => some (ranges "az")
  | "print" => some (ranges " ~")
  | "punct" => some (ranges "!/:@[`\x7b~")
  | "space" => some [(9, 13), (32, 32)]
  | "upper" => some (ranges "AZ")
  | "word" => some (ranges "09AZ__az")
  | "xdigit" => some (ranges "09AFaf")
  | _ => none

/-- Reads a class of POSIX, such as `[:alpha:]`, if one comes next. -/
def posix? (s : Source) : Option (ClassTerm × Source) := do
  let inner ← s.eat? ['[', ':']
  let negated := inner.peek? == some '^'
  let named := if negated then inner.next else inner
  let name := named.rest.takeWhile (· != ':')
  let ranges ← posixRanges? (String.ofList name)
  let after ← named.eat? (name ++ [':', ']'])
  return (.posix ranges negated (after.from_ s.place), after)

def classPrimitive (s : Source) : Except Fault (Term × Source) :=
  match s.peek? with
  | some '\\' => escape s
  | some c => .ok (.literal ⟨c, false, s.charSpan⟩, s.next)
  | none => .ok (.empty, s)

def classItem : Term → Except Fault ClassTerm
  | .literal l => .ok (.literal l)
  | .shorthand k negated span => .ok (.shorthand k negated span)
  | .property p negated span => .ok (.property p negated span)
  | .anchor _ span => refuse .classEscape span
  | _ => refuse .classEscape (.at_ .first)

def rangeBound : Term → Except Fault Literal
  | .literal l => .ok l
  | .shorthand _ _ span | .property _ _ span | .anchor _ span => refuse .classRangeBound span
  | _ => refuse .classRangeBound (.at_ .first)

def Term.span : Term → Span
  | .literal l => l.span
  | .any span | .anchor _ span | .shorthand _ _ span | .property _ _ span | .bracket _ _ span
  | .repetition _ _ _ _ span | .group _ _ span | .alternatives _ span | .sequence _ span => span
  | .empty | .directive _ => .at_ .first

/-- Reads an item of a class or a range. A hyphen before a closing bracket or another hyphen makes no
range. -/
def classRange (opened : Span) (s : Source) : Except Fault (ClassTerm × Source) := do
  let (low, after) ← classPrimitive s
  let after := after.skip
  if after.rest = [] then refuse .classUnclosed opened
  else
    let second := after.peekCounting?
    if after.peek? ≠ some '-' ∨ second = some ']' ∨ second = some '-' then
      return (← classItem low, after)
    else
      let s := after.nextSkip
      if s.rest = [] then refuse .classUnclosed opened
      else
        let (high, rest) ← classPrimitive s
        let a ← rangeBound low
        let b ← rangeBound high
        let span : Span := ⟨low.span.start, high.span.stop⟩
        if a.char ≤ b.char then return (.range a b span, rest)
        else refuse .classRange span

def classOperator? (s : Source) : Option ClassOperator :=
  match s.rest with
  | '&' :: '&' :: _ => some .intersection
  | '-' :: '-' :: _ => some .difference
  | '~' :: '~' :: _ => some .symmetricDifference
  | _ => none

/-- Reads a class to its closing bracket; `outer` are the classes around the innermost open one. Every step
takes a character at least. -/
def classRest (k : OpenClass) (outer : List OpenClass) : Nat → Source → Except Fault (Term × Source)
  | 0, _ => refuse .classUnclosed k.opened
  | fuel + 1, s => do
    let s := s.skip
    match s.peek? with
    | none => refuse .classUnclosed k.opened
    | some '[' =>
      match posix? s with
      | some (item, rest) => classRest (k.add item) outer fuel rest
      | none =>
        let (inner, rest) ← openClass s
        classRest inner (k :: outer) fuel rest
    | some ']' =>
      let after := s.next
      let span := after.from_ k.opened.start
      match outer with
      | [] => return (.bracket k.negated k.body span, after)
      | parent :: others => classRest (parent.add (.bracket k.negated k.body span)) others fuel after
    | some _ =>
      match classOperator? s with
      | some op =>
        let after := s.next.next
        classRest (k.operate op after.place) outer fuel after
      | none =>
        let (item, rest) ← classRange k.opened s
        classRest (k.add item) outer fuel rest

def bracket (s : Source) : Except Fault (Term × Source) := do
  let (k, rest) ← openClass s
  classRest k [] (rest.rest.length + 1) rest

/-- Reads flags up to a colon or a closing parenthesis. `seen` holds those read, the latest first, and
`negation` the span of the hyphen. -/
def flags (seen : List (Flag × Bool × Span)) (negation : Option Span) (dangling : Bool) :
    Nat → Source → Except Fault (List (Flag × Bool) × Source)
  | 0, s => refuse .flagUnfinished s.here
  | fuel + 1, s =>
    match s.peek? with
    | none => refuse .flagUnfinished s.here
    | some c =>
      let finish (s : Source) : Source × Bool := (s.next, s.next.rest = [])
      if c = ':' ∨ c = ')' then
        match negation, dangling with
        | some span, true => refuse .flagDanglingNegation span
        | _, _ => .ok (seen.reverse.map fun (f, on, _) => (f, on), s)
      else if c = '-' then
        match negation with
        | some span => .error (.malformed .flagRepeatedNegation s.charSpan (some span))
        | none =>
          match finish s with
          | (after, true) => refuse .flagUnfinished after.here
          | (after, false) => flags seen (some s.charSpan) true fuel after
      else
        match Flag.ofChar? c with
        | none => refuse .flagUnknown s.charSpan
        | some f =>
          match seen.find? (·.1 == f) with
          | some (_, _, span) => .error (.malformed .flagDuplicate s.charSpan (some span))
          | none =>
            match finish s with
            | (after, true) => refuse .flagUnfinished after.here
            | (after, false) =>
              flags ((f, negation.isNone, s.charSpan) :: seen) negation false fuel after

def isNameChar (first : Bool) (c : Char) : Bool :=
  if first then c == '_' || Unicode.isAlphabetic c
  else c == '_' || c == '.' || c == '[' || c == ']' || Unicode.isAlphanumeric c

def groupNameRest (first : Bool) :
    Nat → List Char → Source → Except Fault (List Char × Source)
  | 0, _, s => refuse .groupNameUnfinished s.here
  | fuel + 1, name, s =>
    match s.peek? with
    | none => refuse .groupNameUnfinished s.here
    | some '>' => .ok (name.reverse, s)
    | some c =>
      if isNameChar first c then groupNameRest false fuel (c :: name) s.next
      else refuse .groupNameInvalid s.charSpan

def groupName (names : List (String × Span)) (s : Source) :
    Except Fault ((String × Span) × Source) := do
  let (name, close) ← groupNameRest true (s.rest.length + 1) [] s
  let span := close.from_ s.place
  if name = [] then refuse .groupNameEmpty (.at_ s.place)
  else
    let name := String.ofList name
    match names.find? (·.1 == name) with
    | some (_, other) => .error (.malformed .groupNameDuplicate span (some other))
    | none => return ((name, span), close.next)

def setting? (settings : List (Flag × Bool)) (flag : Flag) : Option Bool :=
  (settings.find? (·.1 == flag)).map (·.2)

inductive Opening where
  | directive (settings : List (Flag × Bool))
  | group (kind : GroupKind)

/-- Reads an opening parenthesis and what tells the kind of the group; `index` is the number that a
numbered group gets. -/
def opening (names : List (String × Span)) (index : Nat) (s : Source) :
    Except Fault ((Opening × List (String × Span)) × Source) := do
  let opened := s.charSpan
  let s := s.nextSkip
  match ["?=", "?!", "?<=", "?<!"].findSome? fun mark => s.eat? mark.toList with
  | some after => refuse .lookAround ⟨opened.start, after.place⟩
  | none =>
    match (s.eat? ['?', 'P', '<']).or (s.eat? ['?', '<']) with
    | some inner =>
      let ((name, span), after) ← groupName names inner
      return ((.group (.numbered index (some name)), (name, span) :: names), after)
    | none =>
      match s.eat? ['?'] with
      | none => return ((.group (.numbered index none), names), s)
      | some inner =>
        if inner.rest = [] then refuse .groupUnclosed opened
        else
          let (settings, close) ← flags [] none false inner.rest.length inner
          if close.peek? = some ')' then
            if close.place = inner.place then refuse .repetitionMissing s.here
            else return ((.directive settings, names), close.next)
          else return ((.group (.plain settings), names), close.next)

/-- What has been read of a group, or of the pattern outside all groups. -/
structure Level where
  /-- Where the current branch starts, and its terms with their places, the latest first. -/
  start : Place
  terms : List (Place × Term)
  /-- Where the first branch starts, and the branches that are complete, the latest first. -/
  first : Place
  branches : List Term

namespace Level

def open_ (place : Place) : Level := ⟨place, [], place, []⟩

def branch (l : Level) (stop : Place) : Term :=
  match l.terms with
  | [] => .empty
  | [(_, t)] => t
  | _ => .sequence (l.terms.reverse.map (·.2)) ⟨l.start, stop⟩

def term (l : Level) (stop : Place) : Term :=
  match l.branches with
  | [] => l.branch stop
  | _ => .alternatives ((l.branch stop :: l.branches).reverse) ⟨l.first, stop⟩

def add (l : Level) (place : Place) (t : Term) : Level :=
  { l with terms := (place, t) :: l.terms }

def split (l : Level) (stop start : Place) : Level :=
  { l with start, terms := [], branches := l.branch stop :: l.branches }

end Level

/-- A group that is open: what was read around it, its kind and its opening parenthesis, and whether the
text around it is verbose. -/
structure OpenGroup where
  outer : Level
  kind : GroupKind
  opened : Span
  verbose : Bool

structure Naming where
  names : List (String × Span)
  count : Nat

/-- The term that a repetition operator at `s` applies to, and what was read before it. -/
def repeated (l : Level) (s : Source) : Except Fault (Place × Term × Level) :=
  match l.terms with
  | [] | (_, .empty) :: _ | (_, .directive _) :: _ => refuse .repetitionMissing s.here
  | (place, t) :: rest => .ok (place, t, { l with terms := rest })

def lazy? (s : Source) : Bool × Source := if s.peek? = some '?' then (true, s.next) else (false, s)

def uncounted (least : Nat) (most : Option Nat) (l : Level) (s : Source) :
    Except Fault (Level × Source) := do
  let (place, t, l) ← repeated l s
  let (isLazy, after) := lazy? s.next
  return (l.add place (.repetition least most (!isLazy) t (after.from_ place)), after)

def decimalDigits : Nat → List Char → Source → List Char × Source
  | 0, digits, s => (digits.reverse, s)
  | fuel + 1, digits, s =>
    match s.peek? with
    | some c =>
      if c.isDigit then decimalDigits fuel (c :: digits) s.nextSkip else (digits.reverse, s)
    | none => (digits.reverse, s)

def blanksOf : Nat → Source → Source
  | 0, s => s
  | fuel + 1, s =>
    match s.peek? with
    | some c => if isBlank c then blanksOf fuel s.nextSkip else s
    | none => s

def count? (digits : List Char) : Option Nat :=
  let n := digits.foldl (fun n c => min (10 * n + (c.toNat - '0'.toNat)) (Nat.pow 2 32)) 0
  if n < Nat.pow 2 32 then some n else none

/-- Reads a number between blanks. A missing number is a fault that its reader may ignore. -/
def decimal (s : Source) : Except Fault Nat × Source :=
  let start := blanksOf s.rest.length s
  let (digits, stop) := decimalDigits start.rest.length [] start
  let span := stop.from_ start.place
  let after := blanksOf stop.rest.length stop
  if digits = [] then (refuse .repetitionNumber span, after)
  else
    match count? digits with
    | some n => (.ok n, after)
    | none => (refuse .decimalInvalid span, after)

def counted (l : Level) (s : Source) : Except Fault (Level × Source) := do
  let start := s.place
  let (place, t, l) ← repeated l s
  let unclosed {α : Type} (s : Source) : Except Fault α := refuse .repetitionUnclosed (s.from_ start)
  let inner := s.nextSkip
  if inner.rest = [] then unclosed inner
  else
    let (least, after) := decimal inner
    if after.rest = [] then unclosed after
    else
      let (least, most, close) ←
        if after.peek? = some ',' then do
          let second := after.nextSkip
          if second.rest = [] then unclosed second
          else if second.peek? = some '\x7d' then pure (← least, none, second)
          else
            let least ← least
            let (most, close) := decimal second
            pure (least, some (← most), close)
        else do
          let n ← least
          pure (n, some n, after)
      if close.peek? ≠ some '\x7d' then unclosed close
      else
        let (isLazy, after) := lazy? close.nextSkip
        if most.any (· < least) then refuse .repetitionRange (after.from_ start)
        else return (l.add place (.repetition least most (!isLazy) t (after.from_ place)), after)

/-- Reads the rest of a pattern. Every step takes a character at least. -/
def termRest (l : Level) (groups : List OpenGroup) (naming : Naming) :
    Nat → Source → Except Fault Term
  | 0, s => .ok (l.term s.place)
  | fuel + 1, s => do
    let s := s.skip
    match s.peek? with
    | none =>
      match groups with
      | [] => return l.term s.place
      | g :: _ => refuse .groupUnclosed g.opened
    | some '(' =>
      let ((o, names), after) ← opening naming.names (naming.count + 1) s
      match o with
      | .directive settings =>
        let verbose := (setting? settings .verbose).getD after.verbose
        termRest (l.add s.place (.directive settings)) groups ⟨names, naming.count⟩ fuel
          { after with verbose }
      | .group kind =>
        let settings := match kind with
          | .plain settings => settings
          | .numbered _ _ => []
        let count := match kind with
          | .plain _ => naming.count
          | .numbered index _ => index
        let verbose := (setting? settings .verbose).getD s.verbose
        termRest (.open_ after.place) (⟨l, kind, s.charSpan, s.verbose⟩ :: groups) ⟨names, count⟩ fuel
          { after with verbose }
    | some ')' =>
      match groups with
      | [] => refuse .groupUnopened s.charSpan
      | g :: outer =>
        let after := { s.next with verbose := g.verbose }
        let t := Term.group g.kind (l.term s.place) (after.from_ g.opened.start)
        termRest (g.outer.add g.opened.start t) outer naming fuel after
    | some '|' => termRest (l.split s.place s.next.place) groups naming fuel s.next
    | some '[' =>
      let (t, after) ← bracket s
      termRest (l.add s.place t) groups naming fuel after
    | some '?' =>
      let (l, after) ← uncounted 0 (some 1) l s
      termRest l groups naming fuel after
    | some '*' =>
      let (l, after) ← uncounted 0 none l s
      termRest l groups naming fuel after
    | some '+' =>
      let (l, after) ← uncounted 1 none l s
      termRest l groups naming fuel after
    | some '\x7b' =>
      let (l, after) ← counted l s
      termRest l groups naming fuel after
    | some _ =>
      let (t, after) ← primitive s
      termRest (l.add s.place t) groups naming fuel after

def Term.parse (text : List Char) : Except Fault Term := do
  let t ← termRest (.open_ .first) [] ⟨[], 0⟩ (text.length + 1) ⟨text, .first, false⟩
  match t.tooDeep? maxNesting with
  | some span => refuse .nesting span
  | none => return t

end Stencil.Pattern
