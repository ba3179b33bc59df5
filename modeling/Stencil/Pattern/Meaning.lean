import Stencil.Pattern.Node
import Stencil.Unicode.Folding
import Stencil.Unicode.Property

/-!
# Meaning of terms

What a pattern as it is written stands for: its flags are resolved, and what remains is a node.
-/
namespace Stencil.Pattern

open Stencil.Unicode

structure Settings where
  ignoreCase : Bool
  multiLine : Bool
  dotAll : Bool
  swapGreed : Bool
  unicode : Bool
  carriageReturns : Bool
  deriving DecidableEq, Repr

namespace Settings

def standard : Settings := ⟨false, false, false, false, true, false⟩

def set (s : Settings) : Flag × Bool → Settings
  | (.ignoreCase, on) => { s with ignoreCase := on }
  | (.multiLine, on) => { s with multiLine := on }
  | (.dotAll, on) => { s with dotAll := on }
  | (.swapGreed, on) => { s with swapGreed := on }
  | (.unicode, on) => { s with unicode := on }
  | (.carriageReturns, on) => { s with carriageReturns := on }
  | (.verbose, _) => s

def setAll (s : Settings) (settings : List (Flag × Bool)) : Settings := settings.foldl set s

end Settings

def perlSet (unicode : Bool) : Shorthand → CharSet
  | .digit => if unicode then Category.set [.nd] else .ofRanges [(0x30, 0x39)]
  | .space => if unicode then white else .ofRanges [(9, 13), (32, 32)]
  | .word =>
    if unicode then wordSet
    else .ofRanges [(0x30, 0x39), (0x41, 0x5A), (0x5F, 0x5F), (0x61, 0x7A)]

/-- Closes a set under case if case is ignored, and then negates it. Without Unicode a negated set would
hold bytes that are no text. -/
def foldNegate (s : Settings) (negated : Bool) (span : Span) (set : CharSet) : Except Fault CharSet :=
  let set :=
    if s.ignoreCase then (if s.unicode then set.closeCase else set.closeAsciiCase) else set
  if !negated then .ok set
  else if s.unicode then .ok set.negate
  else .error (.malformed .notText span none)

def shorthandSet (s : Settings) (k : Shorthand) (negated : Bool) (span : Span) :
    Except Fault CharSet :=
  let set := perlSet s.unicode k
  if !negated then .ok set
  else if s.unicode then .ok set.negate
  else .error (.malformed .notText span none)

def propertySet (s : Settings) (p : PropertyName) (negated : Bool) (span : Span) :
    Except Fault CharSet :=
  if !s.unicode then .error (.malformed .unicodeNotAllowed span none)
  else
    let (found, differs) := match p with
      | .named name => (namedSet name, false)
      | .valued name value differs => (valueSet name value, differs)
    match found with
    | .ok set => foldNegate s (negated != differs) span set
    | .error .property => .error (.malformed .propertyUnknown span none)
    | .error .value => .error (.malformed .propertyValueUnknown span none)

/-- Without Unicode two hexadecimal digits mean a byte, which is text only within ASCII. -/
def literalChar (s : Settings) (l : Literal) : Except Fault Char :=
  if !s.unicode && l.isByte && 0x7F < l.char.toNat then .error (.malformed .notText l.span none)
  else .ok l.char

/-- The code of a character in a class; without Unicode it must be within ASCII. -/
def classCode (s : Settings) (l : Literal) : Except Fault Nat := do
  let c ← literalChar s l
  if !s.unicode && 0x7F < c.toNat then .error (.malformed .unicodeNotAllowed l.span none)
  else return c.toNat

def ClassOperator.apply : ClassOperator → CharSet → CharSet → CharSet
  | intersection => CharSet.inter
  | difference => CharSet.diff
  | symmetricDifference => CharSet.symmDiff

mutual

/-- The set that stands in brackets. The operands of an operator are closed under case before it works on
them. -/
def classSet (s : Settings) : ClassTerm → Except Fault CharSet
  | .empty _ => .ok .empty
  | .literal l => do
    let n ← classCode s l
    return .ofRanges [(n, n)]
  | .range low high _ => do
    let a ← classCode s low
    let b ← classCode s high
    return .ofRanges [(a, b)]
  | .posix ranges negated span => foldNegate s negated span (.ofRanges ranges)
  | .shorthand k negated span => shorthandSet s k negated span
  | .property p negated span => propertySet s p negated span
  | .bracket negated body span => do foldNegate s negated span (← classSet s body)
  | .union items _ => do return .unions (← classSets s items)
  | .binary op left right span => do
    let a ← foldNegate s false span (← classSet s left)
    let b ← foldNegate s false span (← classSet s right)
    return op.apply a b

def classSets (s : Settings) : List ClassTerm → Except Fault (List CharSet)
  | [] => .ok []
  | t :: rest => do
    let set ← classSet s t
    return set :: (← classSets s rest)

end

def literalSet (s : Settings) (c : Char) : CharSet :=
  if !s.ignoreCase then .single c
  else if s.unicode then (CharSet.single c).closeCase
  else (CharSet.single c).closeAsciiCase

/-- What a dot stands for: any character, less the ends of lines where these are not asked for. -/
def dotSet (s : Settings) (span : Span) : Except Fault CharSet :=
  if !s.unicode then .error (.malformed .notText span none)
  else if s.dotAll then .ok .full
  else if s.carriageReturns then .ok (CharSet.ofRanges [(10, 10), (13, 13)]).negate
  else .ok (CharSet.single '\n').negate

def anchorLook (s : Settings) : Anchor → Look
  | .lineStart => if s.multiLine then .lineStart s.carriageReturns else .textStart
  | .lineEnd => if s.multiLine then .lineEnd s.carriageReturns else .textEnd
  | .textStart => .textStart
  | .textEnd => .textEnd
  | kind => .word kind s.unicode

namespace Node

mutual

/-- Resolves the flags of a term, and tells which flags hold after it. -/
def ofTerm (s : Settings) : Term → Except Fault (Node × Settings)
  | .empty => .ok (empty, s)
  | .directive settings => .ok (empty, s.setAll settings)
  | .literal l => do return (oneOf (literalSet s (← literalChar s l)), s)
  | .any span => do return (oneOf (← dotSet s span), s)
  | .anchor a _ => .ok (look (anchorLook s a), s)
  | .shorthand k negated span => do return (oneOf (← shorthandSet s k negated span), s)
  | .property p negated span => do return (oneOf (← propertySet s p negated span), s)
  | .bracket negated body span => do
    return (oneOf (← foldNegate s negated span (← classSet s body)), s)
  | .repetition least most greedy body _ => do
    let (n, after) ← ofTerm s body
    return (repeated least most (greedy != s.swapGreed) n, after)
  | .group (.numbered index _) body _ => do
    let (n, _) ← ofTerm s body
    return (capture index n, s)
  | .group (.plain settings) body _ => do
    let (n, _) ← ofTerm (s.setAll settings) body
    return (n, s)
  | .alternatives branches _ => do
    let (ns, after) ← ofTerms s branches
    return (choice ns, after)
  | .sequence terms _ => do
    let (ns, after) ← ofTerms s terms
    return (sequence ns, after)

def ofTerms (s : Settings) : List Term → Except Fault (List Node × Settings)
  | [] => .ok ([], s)
  | t :: rest => do
    let (n, after) ← ofTerm s t
    let (ns, last) ← ofTerms after rest
    return (n :: ns, last)

end

end Node

mutual

def Term.names : Term → List (String × Nat)
  | .group (.numbered index (some name)) body _ => (name, index) :: body.names
  | .group _ body _ => body.names
  | .repetition _ _ _ body _ => body.names
  | .alternatives branches _ => Term.namesIn branches
  | .sequence terms _ => Term.namesIn terms
  | _ => []

def Term.namesIn : List Term → List (String × Nat)
  | [] => []
  | t :: rest => t.names ++ Term.namesIn rest

end

end Stencil.Pattern
