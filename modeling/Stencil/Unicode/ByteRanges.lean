import Stencil.Text.Utf8
import Stencil.Unicode.CharSet

/-!
# Ranges of bytes

The forms of the characters in a range, as few sequences of ranges of bytes: each choice of one byte from
each range of a sequence is the form of a character.
-/
namespace Stencil.Unicode

structure ByteRange where
  first : UInt8
  last : UInt8
  deriving DecidableEq, Repr

/-- The longest ranges of characters whose forms have the same length, without surrogates. -/
def formRanges : List (Nat × Nat) :=
  [(0, 0x7F), (0x80, 0x7FF), (0x800, 0xD7FF), (0xE000, 0xFFFF), (0x10000, maxCode)]

/-- Cuts a range where the bytes before the last `n` change, so that in each part these bytes are the same,
or the last `n` bytes take all values. -/
def cutAt (n : Nat) : Nat × Nat → List (Nat × Nat)
  | (a, b) =>
    let size := Nat.pow 64 n
    if a / size = b / size then [(a, b)]
    else
      let start := if a % size = 0 then a else (a / size + 1) * size
      let stop := if b % size = size - 1 then b + 1 else b / size * size
      [(a, start - 1), (start, stop - 1), (stop, b)].filter fun (a, b) => a ≤ b

def formSequences (range : Nat × Nat) : List (List ByteRange) :=
  if range.2 ≤ 0x7F then [[⟨range.1.toUInt8, range.2.toUInt8⟩]]
  else
    ((cutAt 1 range).flatMap (cutAt 2)).flatMap (cutAt 3) |>.map fun (a, b) =>
      (Text.utf8Char (Char.ofNat a)).zipWith ByteRange.mk (Text.utf8Char (Char.ofNat b))

def byteSequences (range : Nat × Nat) : List (List ByteRange) :=
  formRanges.flatMap fun (low, high) =>
    let part := (max range.1 low, min range.2 high)
    if part.1 ≤ part.2 then formSequences part else []

def CharSet.byteSequences (s : CharSet) : List (List ByteRange) :=
  s.ranges.toList.flatMap Unicode.byteSequences

end Stencil.Unicode
