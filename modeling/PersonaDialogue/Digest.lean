/-!
# SHA-256

The hash function of 256 bits over byte strings, and its lower-case hexadecimal form.  The message is
padded to whole blocks of 64 bytes, and each block is mixed into eight words of 32 bits in 64 rounds.
-/

namespace PersonaDialogue.Digest

-- Powers are the built-in ones, also where others are in scope.
attribute [local instance (20000)] instPowNat

/-- The round constants: the first 32 bits of the fractional parts of the cube roots of the first 64
primes. -/
def roundConstants : List UInt32 := [
  0x428a2f98, 0x71374491, 0xb5c0fbcf, 0xe9b5dba5, 0x3956c25b, 0x59f111f1, 0x923f82a4, 0xab1c5ed5,
  0xd807aa98, 0x12835b01, 0x243185be, 0x550c7dc3, 0x72be5d74, 0x80deb1fe, 0x9bdc06a7, 0xc19bf174,
  0xe49b69c1, 0xefbe4786, 0x0fc19dc6, 0x240ca1cc, 0x2de92c6f, 0x4a7484aa, 0x5cb0a9dc, 0x76f988da,
  0x983e5152, 0xa831c66d, 0xb00327c8, 0xbf597fc7, 0xc6e00bf3, 0xd5a79147, 0x06ca6351, 0x14292967,
  0x27b70a85, 0x2e1b2138, 0x4d2c6dfc, 0x53380d13, 0x650a7354, 0x766a0abb, 0x81c2c92e, 0x92722c85,
  0xa2bfe8a1, 0xa81a664b, 0xc24b8b70, 0xc76c51a3, 0xd192e819, 0xd6990624, 0xf40e3585, 0x106aa070,
  0x19a4c116, 0x1e376c08, 0x2748774c, 0x34b0bcb5, 0x391c0cb3, 0x4ed8aa4a, 0x5b9cca4f, 0x682e6ff3,
  0x748f82ee, 0x78a5636f, 0x84c87814, 0x8cc70208, 0x90befffa, 0xa4506ceb, 0xbef9a3f7, 0xc67178f2]

/-- The eight words that every block is mixed into. -/
structure Mix where
  a : UInt32
  b : UInt32
  c : UInt32
  d : UInt32
  e : UInt32
  f : UInt32
  g : UInt32
  h : UInt32
deriving DecidableEq

/-- The words before the first block: the first 32 bits of the fractional parts of the square roots of
the first eight primes. -/
def Mix.initial : Mix :=
  ⟨0x6a09e667, 0xbb67ae85, 0x3c6ef372, 0xa54ff53a, 0x510e527f, 0x9b05688c, 0x1f83d9ab, 0x5be0cd19⟩

/-- Rotation to the right, by less than 32. -/
def rotate (x n : UInt32) : UInt32 := (x >>> n) ||| (x <<< (32 - n))

/-- One round with the sum of the round's constant and schedule word. -/
def Mix.round (m : Mix) (kw : UInt32) : Mix :=
  let s1 := rotate m.e 6 ^^^ rotate m.e 11 ^^^ rotate m.e 25
  let choice := (m.e &&& m.f) ^^^ ((~~~ m.e) &&& m.g)
  let t1 := m.h + s1 + choice + kw
  let s0 := rotate m.a 2 ^^^ rotate m.a 13 ^^^ rotate m.a 22
  let majority := (m.a &&& m.b) ^^^ (m.a &&& m.c) ^^^ (m.b &&& m.c)
  ⟨t1 + (s0 + majority), m.a, m.b, m.c, m.d + t1, m.e, m.f, m.g⟩

def Mix.add (m n : Mix) : Mix :=
  ⟨m.a + n.a, m.b + n.b, m.c + n.c, m.d + n.d, m.e + n.e, m.f + n.f, m.g + n.g, m.h + n.h⟩

def Mix.words (m : Mix) : List UInt32 := [m.a, m.b, m.c, m.d, m.e, m.f, m.g, m.h]

/-- The next word of the schedule, given the last sixteen, oldest first. -/
def nextWord (w0 w1 w9 w14 : UInt32) : UInt32 :=
  let s0 := rotate w1 7 ^^^ rotate w1 18 ^^^ (w1 >>> 3)
  let s1 := rotate w14 17 ^^^ rotate w14 19 ^^^ (w14 >>> 10)
  w0 + s0 + w9 + s1

/-- Runs the rounds for a list of constants over a window of sixteen schedule words. -/
def rounds : List UInt32 → List UInt32 → Mix → Mix
  | k :: ks, w0 :: w1 :: w2 :: w3 :: w4 :: w5 :: w6 :: w7 :: w8 :: w9 :: w10 :: w11 :: w12 :: w13 ::
      w14 :: w15 :: _, m =>
    rounds ks
      [w1, w2, w3, w4, w5, w6, w7, w8, w9, w10, w11, w12, w13, w14, w15, nextWord w0 w1 w9 w14]
      (m.round (k + w0))
  | _, _, m => m

def Mix.block (m : Mix) (words : List UInt32) : Mix := m.add (rounds roundConstants words m)

/-- Bytes as words of four, the first byte highest. -/
def wordsOfBytes : List UInt8 → List UInt32
  | a :: b :: c :: d :: rest =>
    ((a.toUInt32 <<< 24) ||| (b.toUInt32 <<< 16) ||| (c.toUInt32 <<< 8) ||| d.toUInt32) ::
      wordsOfBytes rest
  | _ => []

/-- The byte of `n` that stands `place` bytes from the right. -/
def byteOf (n place : Nat) : UInt8 := UInt8.ofNat (n / 256 ^ place)

/-- The bytes that fill a message of a length up to whole blocks: a one bit, zeros, and the length in
bits in eight bytes. -/
def padding (length : Nat) : List UInt8 :=
  [0x80] ++ List.replicate ((119 - length % 64) % 64) 0 ++
    [7, 6, 5, 4, 3, 2, 1, 0].map (byteOf (8 * length))

/-- Mixes in as many blocks of sixteen words as there are, at most `count`. -/
def blocks (m : Mix) (words : List UInt32) : Nat → Mix
  | 0 => m
  | count + 1 =>
    match words with
    | [] => m
    | _ => blocks (m.block (words.take 16)) (words.drop 16) count

def mixOf (message : List UInt8) : Mix :=
  let words := wordsOfBytes (message ++ padding message.length)
  blocks Mix.initial words (words.length / 16)

def hexDigit (n : UInt32) : Char :=
  let n := n.toNat % 16
  if n < 10 then Char.ofNat (48 + n) else Char.ofNat (87 + n)

def hexWord (w : UInt32) : List Char :=
  ([28, 24, 20, 16, 12, 8, 4, 0] : List UInt32).map fun n => hexDigit (w >>> n)

/-- The hash of a message in lower-case hexadecimal. -/
def sha256 (message : List UInt8) : String := String.ofList ((mixOf message).words.flatMap hexWord)

end PersonaDialogue.Digest
