import Stencil.Pattern.Fault

/-!
# Terms of patterns

A pattern as it is written: sequences, alternatives, repetitions, groups, classes in brackets, and what
these are made of. Spans are kept where a fault may still be found after reading.
-/
namespace Stencil.Pattern

inductive Flag where
  | ignoreCase | multiLine | dotAll | swapGreed | unicode | carriageReturns | verbose
  deriving DecidableEq, Repr

def Flag.ofChar? : Char → Option Flag
  | 'i' => some ignoreCase
  | 'm' => some multiLine
  | 's' => some dotAll
  | 'U' => some swapGreed
  | 'u' => some unicode
  | 'R' => some carriageReturns
  | 'x' => some verbose
  | _ => none

inductive Shorthand where
  | digit | space | word
  deriving DecidableEq, Repr

inductive Anchor where
  | lineStart | lineEnd | textStart | textEnd
  | wordBoundary | notWordBoundary | wordStart | wordEnd | wordStartHalf | wordEndHalf
  deriving DecidableEq, Repr

/-- The name of a property, with a value where one is given, which the property has or, if `differs`, has
not. -/
inductive PropertyName where
  | named (name : String)
  | valued (name value : String) (differs : Bool)
  deriving DecidableEq, Repr

/-- A character that stands for itself. `isByte` tells that it was written with two hexadecimal digits,
which may also mean a byte. -/
structure Literal where
  char : Char
  isByte : Bool
  span : Span
  deriving DecidableEq, Repr

inductive ClassOperator where
  | intersection | difference | symmetricDifference
  deriving DecidableEq, Repr

inductive ClassTerm where
  | empty (span : Span)
  | literal (l : Literal)
  | range (low high : Literal) (span : Span)
  | posix (ranges : List (Nat × Nat)) (negated : Bool) (span : Span)
  | shorthand (s : Shorthand) (negated : Bool) (span : Span)
  | property (p : PropertyName) (negated : Bool) (span : Span)
  | bracket (negated : Bool) (body : ClassTerm) (span : Span)
  | union (items : List ClassTerm) (span : Span)
  | binary (op : ClassOperator) (left right : ClassTerm) (span : Span)
  deriving Repr

def ClassTerm.span : ClassTerm → Span
  | empty s | range _ _ s | posix _ _ s | shorthand _ _ s | property _ _ s | bracket _ _ s
  | union _ s | binary _ _ _ s => s
  | literal l => l.span

/-- Groups are numbered, and may be named, or only hold together. -/
inductive GroupKind where
  | numbered (index : Nat) (name : Option String)
  | plain (settings : List (Flag × Bool))
  deriving DecidableEq, Repr

inductive Term where
  | empty
  | directive (settings : List (Flag × Bool))
  | literal (l : Literal)
  | any (span : Span)
  | anchor (a : Anchor) (span : Span)
  | shorthand (s : Shorthand) (negated : Bool) (span : Span)
  | property (p : PropertyName) (negated : Bool) (span : Span)
  | bracket (negated : Bool) (body : ClassTerm) (span : Span)
  | repetition (least : Nat) (most : Option Nat) (greedy : Bool) (body : Term) (span : Span)
  | group (kind : GroupKind) (body : Term) (span : Span)
  | alternatives (branches : List Term) (span : Span)
  | sequence (terms : List Term) (span : Span)
  deriving Repr, Inhabited

mutual

def ClassTerm.tooDeep? : Nat → ClassTerm → Option Span
  | 0, .bracket _ _ span | 0, .union _ span | 0, .binary _ _ _ span => some span
  | room + 1, .bracket _ body _ => body.tooDeep? room
  | room + 1, .union items _ => ClassTerm.tooDeepIn? room items
  | room + 1, .binary _ left right _ => (left.tooDeep? room).or (right.tooDeep? room)
  | _, _ => none

def ClassTerm.tooDeepIn? : Nat → List ClassTerm → Option Span
  | _, [] => none
  | room, t :: rest => (t.tooDeep? room).or (ClassTerm.tooDeepIn? room rest)

end

mutual

def Term.tooDeep? : Nat → Term → Option Span
  | 0, .bracket _ _ span | 0, .repetition _ _ _ _ span | 0, .group _ _ span
  | 0, .alternatives _ span | 0, .sequence _ span => some span
  | room + 1, .bracket _ body _ => body.tooDeep? room
  | room + 1, .repetition _ _ _ body _ => body.tooDeep? room
  | room + 1, .group _ body _ => body.tooDeep? room
  | room + 1, .alternatives branches _ => Term.tooDeepIn? room branches
  | room + 1, .sequence terms _ => Term.tooDeepIn? room terms
  | _, _ => none

def Term.tooDeepIn? : Nat → List Term → Option Span
  | _, [] => none
  | room, t :: rest => (t.tooDeep? room).or (Term.tooDeepIn? room rest)

end

end Stencil.Pattern
