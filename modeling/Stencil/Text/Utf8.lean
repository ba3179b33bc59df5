/-!
# UTF-8

Text as bytes. Bytes that are not the form of a character are read as one replacement character for each
longest start of a form.
-/
namespace Stencil.Text

def utf8Char (c : Char) : List UInt8 :=
  let n := c.toNat
  if n < 0x80 then [n.toUInt8]
  else if n < 0x800 then [(0xC0 + n / 64).toUInt8, (0x80 + n % 64).toUInt8]
  else if n < 0x10000 then
    [(0xE0 + n / 4096).toUInt8, (0x80 + n / 64 % 64).toUInt8, (0x80 + n % 64).toUInt8]
  else
    [(0xF0 + n / 262144).toUInt8, (0x80 + n / 4096 % 64).toUInt8, (0x80 + n / 64 % 64).toUInt8,
      (0x80 + n % 64).toUInt8]

def utf8 (s : List Char) : List UInt8 := s.flatMap utf8Char

/-- Reads so many more bytes of a character, the next of which lies between the two bounds. The character
is missing if a byte is; that byte is not read. -/
def utf8Tail (code : Nat) : Nat → Nat → Nat → List UInt8 → Option Char × List UInt8
  | _, _, 0, s => (some (Char.ofNat code), s)
  | _, _, _ + 1, [] => (none, [])
  | low, high, n + 1, b :: rest =>
    if low ≤ b.toNat ∧ b.toNat ≤ high then utf8Tail (64 * code + b.toNat % 64) 0x80 0xBF n rest
    else (none, b :: rest)

def utf8Next (b : UInt8) (rest : List UInt8) : Option Char × List UInt8 :=
  let n := b.toNat
  if n < 0x80 then (some (Char.ofNat n), rest)
  else if n < 0xC2 then (none, rest)
  else if n < 0xE0 then utf8Tail (n % 32) 0x80 0xBF 1 rest
  else if n = 0xE0 then utf8Tail 0 0xA0 0xBF 2 rest
  else if n = 0xED then utf8Tail 13 0x80 0x9F 2 rest
  else if n < 0xF0 then utf8Tail (n % 16) 0x80 0xBF 2 rest
  else if n = 0xF0 then utf8Tail 0 0x90 0xBF 3 rest
  else if n < 0xF4 then utf8Tail (n % 8) 0x80 0xBF 3 rest
  else if n = 0xF4 then utf8Tail 4 0x80 0x8F 3 rest
  else (none, rest)

theorem utf8Tail_length_le (code low high n : Nat) (s : List UInt8) :
    (utf8Tail code low high n s).2.length ≤ s.length := by
  induction s generalizing code low high n with
  | nil => cases n <;> simp [utf8Tail]
  | cons b rest ih =>
    cases n with
    | zero => simp [utf8Tail]
    | succ n =>
      rw [utf8Tail]
      split
      · have := ih (64 * code + b.toNat % 64) 0x80 0xBF n
        simp
        omega
      · simp

theorem utf8Next_length_le (b : UInt8) (rest : List UInt8) :
    (utf8Next b rest).2.length ≤ rest.length := by
  unfold utf8Next
  dsimp only
  repeat' split
  all_goals first
    | exact utf8Tail_length_le ..
    | exact Nat.le_refl _

/-- The characters of some bytes; `none` stands for what is not the form of a character. -/
def readUtf8 : List UInt8 → List (Option Char)
  | [] => []
  | b :: rest => (utf8Next b rest).1 :: readUtf8 (utf8Next b rest).2
termination_by s => s.length
decreasing_by
  have := utf8Next_length_le b rest
  simp
  omega

/-- The text of some bytes, with replacement characters where they are no text. -/
def ofUtf8Lossy (bytes : List UInt8) : List Char := (readUtf8 bytes).map (·.getD '\ufffd')

def ofUtf8? (bytes : List UInt8) : Option (List Char) :=
  let chars := readUtf8 bytes
  if chars.all Option.isSome then some (chars.filterMap id) else none

end Stencil.Text
