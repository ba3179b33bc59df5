import Stencil.Text.Hex

/-!
# Message digests

MD5 and SHA-1. Both work on a message padded to blocks of sixteen words and fold the blocks into a state of
a few words.
-/
namespace Stencil.Codec.Digest

def rotate (x : UInt32) (n : UInt32) : UInt32 := (x <<< n) ||| (x >>> (32 - n))

/-- The message with a one bit and zeros up to eight bytes short of a block. -/
def padded (message : List UInt8) : List UInt8 :=
  message ++ 0x80 :: List.replicate ((119 - message.length % 64) % 64) 0

def bytesLow (n : Nat) : List UInt8 := (List.range 8).map fun i => (n / Nat.pow 256 i).toUInt8

def wordLow (bytes : List UInt8) : UInt32 :=
  bytes.foldr (fun b w => w * 256 + b.toUInt32) 0

def wordHigh (bytes : List UInt8) : UInt32 :=
  bytes.foldl (fun w b => w * 256 + b.toUInt32) 0

def wordBytes (w : UInt32) : List UInt8 :=
  [w.toUInt8, (w >>> 8).toUInt8, (w >>> 16).toUInt8, (w >>> 24).toUInt8]

/-- Cuts a list into parts of `n`; an incomplete part at the end is dropped. -/
def parts {α : Type} (n : Nat) (xs : List α) : List (List α) :=
  (List.range (xs.length / n)).map fun i => (xs.drop (i * n)).take n

def blocks (word : List UInt8 → UInt32) (bytes : List UInt8) : List (List UInt32) :=
  (parts 64 bytes).map fun block => (parts 4 block).map word

def md5Shifts : List UInt32 := [7, 12, 17, 22, 5, 9, 14, 20, 4, 11, 16, 23, 6, 10, 15, 21]

def md5Constants : Array UInt32 :=
  #[0xd76aa478, 0xe8c7b756, 0x242070db, 0xc1bdceee, 0xf57c0faf, 0x4787c62a, 0xa8304613, 0xfd469501,
    0x698098d8, 0x8b44f7af, 0xffff5bb1, 0x895cd7be, 0x6b901122, 0xfd987193, 0xa679438e, 0x49b40821,
    0xf61e2562, 0xc040b340, 0x265e5a51, 0xe9b6c7aa, 0xd62f105d, 0x02441453, 0xd8a1e681, 0xe7d3fbc8,
    0x21e1cde6, 0xc33707d6, 0xf4d50d87, 0x455a14ed, 0xa9e3e905, 0xfcefa3f8, 0x676f02d9, 0x8d2a4c8a,
    0xfffa3942, 0x8771f681, 0x6d9d6122, 0xfde5380c, 0xa4beea44, 0x4bdecfa9, 0xf6bb4b60, 0xbebfbc70,
    0x289b7ec6, 0xeaa127fa, 0xd4ef3085, 0x04881d05, 0xd9d4d039, 0xe6db99e5, 0x1fa27cf8, 0xc4ac5665,
    0xf4292244, 0x432aff97, 0xab9423a7, 0xfc93a039, 0x655b59c3, 0x8f0ccc92, 0xffeff47d, 0x85845dd1,
    0x6fa87e4f, 0xfe2ce6e0, 0xa3014314, 0x4e0811a1, 0xf7537e82, 0xbd3af235, 0x2ad7d2bb, 0xeb86d391]

structure Md5State where
  a : UInt32
  b : UInt32
  c : UInt32
  d : UInt32

def md5Step (block : Array UInt32) (s : Md5State) (i : Nat) : Md5State :=
  let (f, word) :=
    if i < 16 then ((s.b &&& s.c) ||| (~~~s.b &&& s.d), i)
    else if i < 32 then ((s.d &&& s.b) ||| (~~~s.d &&& s.c), (5 * i + 1) % 16)
    else if i < 48 then (s.b ^^^ s.c ^^^ s.d, (3 * i + 5) % 16)
    else (s.c ^^^ (s.b ||| ~~~s.d), 7 * i % 16)
  let sum := s.a + f + md5Constants.getD i 0 + block.getD word 0
  let shift := md5Shifts.getD (4 * (i / 16) + i % 4) 0
  ⟨s.d, s.b + rotate sum shift, s.b, s.c⟩

def md5Block (s : Md5State) (block : List UInt32) : Md5State :=
  let t := (List.range 64).foldl (md5Step block.toArray) s
  ⟨s.a + t.a, s.b + t.b, s.c + t.c, s.d + t.d⟩

def md5 (message : List UInt8) : List UInt8 :=
  let bytes := padded message ++ bytesLow (8 * message.length)
  let s := (blocks wordLow bytes).foldl md5Block ⟨0x67452301, 0xefcdab89, 0x98badcfe, 0x10325476⟩
  [s.a, s.b, s.c, s.d].flatMap wordBytes

structure Sha1State where
  a : UInt32
  b : UInt32
  c : UInt32
  d : UInt32
  e : UInt32

def sha1Words (block : List UInt32) : Array UInt32 :=
  (List.range 64).foldl
    (fun w i =>
      w.push (rotate
        (w.getD (i + 13) 0 ^^^ w.getD (i + 8) 0 ^^^ w.getD (i + 2) 0 ^^^ w.getD i 0) 1))
    block.toArray

def sha1Step (words : Array UInt32) (s : Sha1State) (i : Nat) : Sha1State :=
  let (f, k) : UInt32 × UInt32 :=
    if i < 20 then ((s.b &&& s.c) ||| (~~~s.b &&& s.d), 0x5a827999)
    else if i < 40 then (s.b ^^^ s.c ^^^ s.d, 0x6ed9eba1)
    else if i < 60 then ((s.b &&& s.c) ||| (s.b &&& s.d) ||| (s.c &&& s.d), 0x8f1bbcdc)
    else (s.b ^^^ s.c ^^^ s.d, 0xca62c1d6)
  ⟨rotate s.a 5 + f + s.e + k + words.getD i 0, s.a, rotate s.b 30, s.c, s.d⟩

def sha1Block (s : Sha1State) (block : List UInt32) : Sha1State :=
  let t := (List.range 80).foldl (sha1Step (sha1Words block)) s
  ⟨s.a + t.a, s.b + t.b, s.c + t.c, s.d + t.d, s.e + t.e⟩

def sha1 (message : List UInt8) : List UInt8 :=
  let bytes := padded message ++ (bytesLow (8 * message.length)).reverse
  let s := (blocks wordHigh bytes).foldl sha1Block
    ⟨0x67452301, 0xefcdab89, 0x98badcfe, 0x10325476, 0xc3d2e1f0⟩
  [s.a, s.b, s.c, s.d, s.e].flatMap fun w => (wordBytes w).reverse

def hex (bytes : List UInt8) : List Char :=
  bytes.flatMap fun b => [Text.hexDigit (b.toNat / 16), Text.hexDigit (b.toNat % 16)]

end Stencil.Codec.Digest
