import Stencil.Text.Blank
import Stencil.Text.Utf8

/-!
# Base 64

Three bytes as four characters of the standard alphabet, padded at the end. Only what encoding produces is
read: the padding must be there, and the bits that it leaves over must be zero.
-/
namespace Stencil.Codec.Base64

def digit (n : Nat) : Char :=
  if n < 26 then Char.ofNat ('A'.toNat + n)
  else if n < 52 then Char.ofNat ('a'.toNat + (n - 26))
  else if n < 62 then Char.ofNat ('0'.toNat + (n - 52))
  else if n = 62 then '+'
  else '/'

def value? (c : Char) : Option Nat :=
  if 'A' ≤ c ∧ c ≤ 'Z' then some (c.toNat - 'A'.toNat)
  else if 'a' ≤ c ∧ c ≤ 'z' then some (c.toNat - 'a'.toNat + 26)
  else if '0' ≤ c ∧ c ≤ '9' then some (c.toNat - '0'.toNat + 52)
  else if c = '+' then some 62
  else if c = '/' then some 63
  else none

def encode : List UInt8 → List Char
  | a :: b :: c :: rest =>
    digit (a.toNat / 4) :: digit (a.toNat % 4 * 16 + b.toNat / 16)
      :: digit (b.toNat % 16 * 4 + c.toNat / 64) :: digit (c.toNat % 64) :: encode rest
  | [a, b] =>
    [digit (a.toNat / 4), digit (a.toNat % 4 * 16 + b.toNat / 16), digit (b.toNat % 16 * 4), '=']
  | [a] => [digit (a.toNat / 4), digit (a.toNat % 4 * 16), '=', '=']
  | [] => []

def decode? : List Char → Option (List UInt8)
  | [] => some []
  | [a, b, '=', '='] =>
    match value? a, value? b with
    | some p, some q => if q % 16 = 0 then some [(4 * p + q / 16).toUInt8] else none
    | _, _ => none
  | [a, b, c, '='] =>
    match value? a, value? b, value? c with
    | some p, some q, some r =>
      if r % 4 = 0 then some [(4 * p + q / 16).toUInt8, (q % 16 * 16 + r / 4).toUInt8] else none
    | _, _, _ => none
  | a :: b :: c :: d :: rest =>
    match value? a, value? b, value? c, value? d, decode? rest with
    | some p, some q, some r, some s, some bytes =>
      some ((4 * p + q / 16).toUInt8 :: (q % 16 * 16 + r / 4).toUInt8
        :: (r % 4 * 64 + s).toUInt8 :: bytes)
    | _, _, _, _, _ => none
  | _ => none

def encodeText (s : List Char) : List Char := encode (Text.utf8 s)

/-- Reads text that was encoded; blanks around it do not count. -/
def decodeText? (s : List Char) : Option (List Char) := (decode? (Text.trim s)).bind Text.ofUtf8?

end Stencil.Codec.Base64
