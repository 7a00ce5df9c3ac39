/-
# SHA-256

The hash function of FIPS 180-4 on lists of bytes.  Words are natural numbers below
`2 ^ 32`; the message is padded to blocks of sixteen words, and every block is folded into
the eight words of the state.
-/

import Mathlib.Algebra.Group.Nat.Defs

namespace HermesClaude.Library.Sha256

/-- The first 32 bits of the fractional parts of the cube roots of the first 64 primes. -/
def roundConstants : List Nat :=
  [0x428a2f98, 0x71374491, 0xb5c0fbcf, 0xe9b5dba5, 0x3956c25b, 0x59f111f1, 0x923f82a4, 0xab1c5ed5,
    0xd807aa98, 0x12835b01, 0x243185be, 0x550c7dc3, 0x72be5d74, 0x80deb1fe, 0x9bdc06a7, 0xc19bf174,
    0xe49b69c1, 0xefbe4786, 0x0fc19dc6, 0x240ca1cc, 0x2de92c6f, 0x4a7484aa, 0x5cb0a9dc, 0x76f988da,
    0x983e5152, 0xa831c66d, 0xb00327c8, 0xbf597fc7, 0xc6e00bf3, 0xd5a79147, 0x06ca6351, 0x14292967,
    0x27b70a85, 0x2e1b2138, 0x4d2c6dfc, 0x53380d13, 0x650a7354, 0x766a0abb, 0x81c2c92e, 0x92722c85,
    0xa2bfe8a1, 0xa81a664b, 0xc24b8b70, 0xc76c51a3, 0xd192e819, 0xd6990624, 0xf40e3585, 0x106aa070,
    0x19a4c116, 0x1e376c08, 0x2748774c, 0x34b0bcb5, 0x391c0cb3, 0x4ed8aa4a, 0x5b9cca4f, 0x682e6ff3,
    0x748f82ee, 0x78a5636f, 0x84c87814, 0x8cc70208, 0x90befffa, 0xa4506ceb, 0xbef9a3f7, 0xc67178f2]

/-- The words `a` to `h`. -/
structure State where
  a : Nat
  b : Nat
  c : Nat
  d : Nat
  e : Nat
  f : Nat
  g : Nat
  h : Nat
deriving DecidableEq

/-- The eight words of a state. -/
def State.words (s : State) : List Nat := [s.a, s.b, s.c, s.d, s.e, s.f, s.g, s.h]

/-- The first 32 bits of the fractional parts of the square roots of the first 8 primes. -/
def initial : State where
  a := 0x6a09e667
  b := 0xbb67ae85
  c := 0x3c6ef372
  d := 0xa54ff53a
  e := 0x510e527f
  f := 0x9b05688c
  g := 0x1f83d9ab
  h := 0x5be0cd19

/-- A word rotated to the right. -/
def rotateRight (x n : Nat) : Nat := (x >>> n ||| x <<< (32 - n)) % 2 ^ 32

/-- The message schedule from a window of sixteen words on. -/
def schedule : Nat → List Nat → List Nat
  | 0, window => window
  | n + 1, w :: window =>
    let w1 := window.getD 0 0
    let w14 := window.getD 13 0
    let s0 := rotateRight w1 7 ^^^ rotateRight w1 18 ^^^ w1 >>> 3
    let s1 := rotateRight w14 17 ^^^ rotateRight w14 19 ^^^ w14 >>> 10
    w :: schedule n (window ++ [(w + s0 + window.getD 8 0 + s1) % 2 ^ 32])
  | _ + 1, [] => []

/-- One round, with its constant and its word of the schedule. -/
def round (s : State) (kw : Nat × Nat) : State :=
  let s1 := rotateRight s.e 6 ^^^ rotateRight s.e 11 ^^^ rotateRight s.e 25
  let choice := (s.e &&& s.f) ^^^ ((0xffffffff ^^^ s.e) &&& s.g)
  let t1 := s.h + s1 + choice + kw.1 + kw.2
  let s0 := rotateRight s.a 2 ^^^ rotateRight s.a 13 ^^^ rotateRight s.a 22
  let majority := (s.a &&& s.b) ^^^ (s.a &&& s.c) ^^^ (s.b &&& s.c)
  { a := (t1 + s0 + majority) % 2 ^ 32
    b := s.a
    c := s.b
    d := s.c
    e := (s.d + t1) % 2 ^ 32
    f := s.e
    g := s.f
    h := s.g }

/-- One block of sixteen words. -/
def compress (s : State) (block : List Nat) : State :=
  let r := (roundConstants.zip (schedule 48 block)).foldl round s
  { a := (s.a + r.a) % 2 ^ 32
    b := (s.b + r.b) % 2 ^ 32
    c := (s.c + r.c) % 2 ^ 32
    d := (s.d + r.d) % 2 ^ 32
    e := (s.e + r.e) % 2 ^ 32
    f := (s.f + r.f) % 2 ^ 32
    g := (s.g + r.g) % 2 ^ 32
    h := (s.h + r.h) % 2 ^ 32 }

/-- So many blocks, one after the other. -/
def compressBlocks : Nat → List Nat → State → State
  | 0, _, s => s
  | n + 1, words, s => compressBlocks n (words.drop 16) (compress s (words.take 16))

theorem compressBlocks_add (m n : Nat) (words : List Nat) (s : State) :
    compressBlocks (m + n) words s =
      compressBlocks n (words.drop (16 * m)) (compressBlocks m words s) := by
  induction m generalizing words s with
  | zero => simp [compressBlocks]
  | succ m ih =>
    rw [Nat.add_right_comm, compressBlocks, compressBlocks, ih, List.drop_drop, Nat.mul_succ,
      Nat.add_comm 16]

/-- The message with a one bit, zeros and its length in bits behind it. -/
def pad (data : List UInt8) : List Nat :=
  let bits := 8 * data.length
  data.map UInt8.toNat ++ 0x80 :: (List.replicate ((119 - data.length % 64) % 64) 0 ++
    [bits / 2 ^ 56 % 256, bits / 2 ^ 48 % 256, bits / 2 ^ 40 % 256, bits / 2 ^ 32 % 256,
      bits / 2 ^ 24 % 256, bits / 2 ^ 16 % 256, bits / 2 ^ 8 % 256, bits % 256])

/-- Four bytes to a word. -/
def toWords : List Nat → List Nat
  | a :: b :: c :: d :: rest => (a * 2 ^ 24 + b * 2 ^ 16 + c * 2 ^ 8 + d) :: toWords rest
  | _ => []

/-- The eight words of the digest. -/
def digest (data : List UInt8) : List Nat :=
  let words := toWords (pad data)
  let s := compressBlocks (words.length / 16) words initial
  [s.a, s.b, s.c, s.d, s.e, s.f, s.g, s.h]

theorem digest_eq (data : List UInt8) : digest data =
    (compressBlocks ((toWords (pad data)).length / 16) (toWords (pad data)) initial).words := rfl

/-- The hexadecimal digits of a word. -/
def hexDigits (word : Nat) : List Nat :=
  [word / 2 ^ 28 % 16, word / 2 ^ 24 % 16, word / 2 ^ 20 % 16, word / 2 ^ 16 % 16,
    word / 2 ^ 12 % 16, word / 2 ^ 8 % 16, word / 2 ^ 4 % 16, word % 16]

/-- The digits of the digest. -/
def hexDigest (data : List UInt8) : List Nat :=
  (digest data).flatMap hexDigits

theorem length_hexDigest (data : List UInt8) : (hexDigest data).length = 64 := rfl

theorem hexDigest_lt {data : List UInt8} {n : Nat} (h : n ∈ hexDigest data) : n < 16 := by
  obtain ⟨word, -, hn⟩ := List.mem_flatMap.mp h
  simp only [hexDigits, List.mem_cons, List.not_mem_nil, or_false] at hn
  omega

/-- The digest of the three letters `abc`. -/
example : digest [0x61, 0x62, 0x63] = [0xba7816bf, 0x8f01cfea, 0x414140de, 0x5dae2223, 0xb00361a3,
    0x96177a9c, 0xb410ff61, 0xf20015ad] := by
  decide +kernel

end HermesClaude.Library.Sha256
