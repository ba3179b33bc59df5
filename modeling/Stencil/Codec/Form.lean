import Stencil.Text.Hex
import Stencil.Text.Utf8

/-!
# Form encoding

The encoding of text in the fields of a form: letters and digits of ASCII and `*-._` stand for themselves,
a blank is written as a plus sign, and every other byte of the text in UTF-8 as a percent sign and two
hexadecimal digits.
-/
namespace Stencil.Codec.Form

open Stencil.Text

def isPlain (c : Char) : Bool := c.isAlphanum || c == '*' || c == '-' || c == '.' || c == '_'

def percent (b : UInt8) : List Char :=
  ['%', (hexDigit (b.toNat / 16)).toUpper, (hexDigit (b.toNat % 16)).toUpper]

def encodeChar (c : Char) : List Char :=
  if c = ' ' then ['+'] else if isPlain c then [c] else (utf8Char c).flatMap percent

def encode (s : List Char) : List Char := s.flatMap encodeChar

/-- Reads percent signs with two digits; a percent sign without them stands for itself. -/
def unpercent : List UInt8 → List UInt8
  | a :: b :: c :: rest =>
    if a.toNat = 37 then
      match hexValue? (Char.ofNat b.toNat), hexValue? (Char.ofNat c.toNat) with
      | some m, some n => (16 * m + n).toUInt8 :: unpercent rest
      | _, _ => a :: unpercent (b :: c :: rest)
    else a :: unpercent (b :: c :: rest)
  | s => s

/-- Reads plus signs as blanks and then percent signs; bytes that are not text are replaced. -/
def decode (s : List Char) : List Char :=
  ofUtf8Lossy (unpercent (utf8 (s.map fun c => if c = '+' then ' ' else c)))

end Stencil.Codec.Form
