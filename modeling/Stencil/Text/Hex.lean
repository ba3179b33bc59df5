/-!
# Hexadecimal digits

Numbers below sixteen as characters, and characters by their code points.
-/
namespace Stencil.Text

def hexDigit (n : Nat) : Char := Char.ofNat (if n < 10 then '0'.toNat + n else 'a'.toNat + n - 10)

def hexValue? (c : Char) : Option Nat :=
  if c.isDigit then some (c.toNat - '0'.toNat)
  else if 'a' ≤ c ∧ c ≤ 'f' then some (c.toNat - 'a'.toNat + 10)
  else if 'A' ≤ c ∧ c ≤ 'F' then some (c.toNat - 'A'.toNat + 10)
  else none

def isHexDigit (c : Char) : Bool := (hexValue? c).isSome

/-- The number that some digits write; other characters count as zeros. -/
def ofHex (digits : List Char) : Nat := digits.foldl (fun n c => 16 * n + (hexValue? c).getD 0) 0

def readHex? (count : Nat) (s : List Char) : Option (Nat × List Char) :=
  let digits := s.take count
  if digits.length = count ∧ digits.all isHexDigit then some (ofHex digits, s.drop count) else none

/-- The character with a code point, which surrogates do not have. -/
def charOfCode? (n : Nat) : Option Char :=
  if n < 0xD800 ∨ (0xDFFF < n ∧ n ≤ 0x10FFFF) then some (Char.ofNat n) else none

theorem length_of_readHex? {count n : Nat} {s rest : List Char}
    (h : readHex? count s = some (n, rest)) : rest.length + count = s.length := by
  simp only [readHex?] at h
  split at h
  · next hs =>
    simp only [Option.some.injEq, Prod.mk.injEq] at h
    have := hs.1
    simp only [List.length_take] at this
    simp [← h.2]
    omega
  · simp at h

end Stencil.Text
