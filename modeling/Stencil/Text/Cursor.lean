import Stencil.Text.Bracket
import Stencil.Text.Search

/-!
# Cursors

A place in a text, with the moves the readers of tags are made of. A move that may fail gives no cursor
when it does, so a failed move leaves its caller where it was.
-/
namespace Stencil.Text

/-- A place in a text: what lies behind it, nearest character first, and what lies ahead. -/
structure Cursor where
  behind : List Char
  ahead : List Char
  deriving DecidableEq, Repr

namespace Cursor

def ofText (s : List Char) : Cursor := ⟨[], s⟩

/-- The place at a byte offset; the end of the text for offsets past it, the start for offsets that fall
inside a character. -/
def atByte (s : List Char) (offset : Nat) : Cursor :=
  match splitAtByte (min offset (byteLength s)) s with
  | some (before, after) => ⟨before.reverse, after⟩
  | none => ofText s

def text (k : Cursor) : List Char := k.behind.reverse ++ k.ahead

def pos (k : Cursor) : Nat := byteLength k.behind

def isDone (k : Cursor) : Bool := k.ahead.isEmpty

def peek (k : Cursor) : Option Char := k.ahead.head?

/-- The place after `taken`, where `rest` is what lies ahead. -/
def past (k : Cursor) (taken rest : List Char) : Cursor := ⟨taken.reverse ++ k.behind, rest⟩

def advance (k : Cursor) (n : Nat) : Cursor := k.past (k.ahead.take n) (k.ahead.drop n)

def seek (k : Cursor) (offset : Nat) : Cursor := atByte k.text offset

def skipBlanks (k : Cursor) : Cursor :=
  k.past (k.ahead.takeWhile isBlank) (k.ahead.dropWhile isBlank)

def eat? (k : Cursor) (start : String) : Option Cursor :=
  (dropStart? start.toList k.ahead).map (k.past start.toList)

def startsWith (k : Cursor) (start : String) : Bool := (k.eat? start).isSome

def find (k : Cursor) (delim : Char) : Option Nat :=
  (cut delim (escapedAfter k.behind) k.ahead).map fun (skipped, _) => k.pos + byteLength skipped

def isFlag (c : Char) : Bool := c == 'g' || c == 'i' || c == 'm' || c == 's' || c == 'x'

def skipFlags (k : Cursor) : Cursor :=
  k.past (k.ahead.takeWhile isFlag) (k.ahead.dropWhile isFlag)

def skipMarked? (k : Cursor) (mark : Char) : Option Cursor :=
  match k.ahead with
  | [] => none
  | c :: rest =>
    if c = mark then (through? mark rest).map fun (taken, after) => k.past (c :: taken) after
    else none

def skipRegexLiteral? (k : Cursor) : Option Cursor := (k.skipMarked? '/').map skipFlags

def skipQuoted? (k : Cursor) : Option Cursor := k.skipMarked? '"'

def skipBalanced? (k : Cursor) : Option Cursor :=
  match k.ahead with
  | [] => none
  | c :: rest => (throughBracket? c rest).map fun (taken, after) => k.past (c :: taken) after

theorem text_past {k : Cursor} {taken rest : List Char} (h : k.ahead = taken ++ rest) :
    (k.past taken rest).text = k.text := by
  simp [text, past, h]

end Cursor

end Stencil.Text
