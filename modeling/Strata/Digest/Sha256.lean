/-!
# SHA-256

The digest of FIPS 180-4 over a list of bytes, and its hexadecimal text.
-/

namespace Strata.Sha256

/-- The first 32 bits of the fractional parts of the cube roots of the first 64 primes. -/
def roundConstants : List UInt32 := [
  0x428a2f98, 0x71374491, 0xb5c0fbcf, 0xe9b5dba5, 0x3956c25b, 0x59f111f1, 0x923f82a4, 0xab1c5ed5,
  0xd807aa98, 0x12835b01, 0x243185be, 0x550c7dc3, 0x72be5d74, 0x80deb1fe, 0x9bdc06a7, 0xc19bf174,
  0xe49b69c1, 0xefbe4786, 0x0fc19dc6, 0x240ca1cc, 0x2de92c6f, 0x4a7484aa, 0x5cb0a9dc, 0x76f988da,
  0x983e5152, 0xa831c66d, 0xb00327c8, 0xbf597fc7, 0xc6e00bf3, 0xd5a79147, 0x06ca6351, 0x14292967,
  0x27b70a85, 0x2e1b2138, 0x4d2c6dfc, 0x53380d13, 0x650a7354, 0x766a0abb, 0x81c2c92e, 0x92722c85,
  0xa2bfe8a1, 0xa81a664b, 0xc24b8b70, 0xc76c51a3, 0xd192e819, 0xd6990624, 0xf40e3585, 0x106aa070,
  0x19a4c116, 0x1e376c08, 0x2748774c, 0x34b0bcb5, 0x391c0cb3, 0x4ed8aa4a, 0x5b9cca4f, 0x682e6ff3,
  0x748f82ee, 0x78a5636f, 0x84c87814, 0x8cc70208, 0x90befffa, 0xa4506ceb, 0xbef9a3f7, 0xc67178f2]

/-- Eight words: the chaining value, and the working variables `a` to `h`. -/
structure Words where
  a : UInt32
  b : UInt32
  c : UInt32
  d : UInt32
  e : UInt32
  f : UInt32
  g : UInt32
  h : UInt32

/-- The first 32 bits of the fractional parts of the square roots of the first 8 primes. -/
def start : Words :=
  ⟨0x6a09e667, 0xbb67ae85, 0x3c6ef372, 0xa54ff53a, 0x510e527f, 0x9b05688c, 0x1f83d9ab, 0x5be0cd19⟩

/-- Rotation to the right. -/
def rotate (x : UInt32) (n : UInt32) : UInt32 := (x >>> n) ||| (x <<< (32 - n))

/-- The word of the schedule that follows, from the sixteen before it, the latest first. -/
def nextWord (latest : List UInt32) : UInt32 :=
  let at' (i : Nat) : UInt32 := latest.getD i 0
  let w2 := at' 1
  let w15 := at' 14
  let s0 := rotate w15 7 ^^^ rotate w15 18 ^^^ (w15 >>> 3)
  let s1 := rotate w2 17 ^^^ rotate w2 19 ^^^ (w2 >>> 10)
  at' 15 + s0 + at' 6 + s1

/-- The schedule of a block, the latest word first: its sixteen words and `more` others. -/
def schedule (block : List UInt32) : Nat → List UInt32
  | 0 => block.reverse
  | more + 1 =>
    let latest := schedule block more
    nextWord latest :: latest

/-- One round. -/
def round (v : Words) (constant word : UInt32) : Words :=
  let s1 := rotate v.e 6 ^^^ rotate v.e 11 ^^^ rotate v.e 25
  let choice := (v.e &&& v.f) ^^^ (~~~v.e &&& v.g)
  let t1 := v.h + s1 + choice + constant + word
  let s0 := rotate v.a 2 ^^^ rotate v.a 13 ^^^ rotate v.a 22
  let majority := (v.a &&& v.b) ^^^ (v.a &&& v.c) ^^^ (v.b &&& v.c)
  ⟨t1 + (s0 + majority), v.a, v.b, v.c, v.d + t1, v.e, v.f, v.g⟩

/-- Takes a block of sixteen words into the chaining value. -/
def compress (value : Words) (block : List UInt32) : Words :=
  let words := (schedule block 48).reverse
  let v := (roundConstants.zip words).foldl (fun v p => round v p.1 p.2) value
  ⟨value.a + v.a, value.b + v.b, value.c + v.c, value.d + v.d,
    value.e + v.e, value.f + v.f, value.g + v.g, value.h + v.h⟩

/-- A number in base 256, in so many bytes, the most significant first. -/
def bigEndian (n : Nat) : Nat → List UInt8
  | 0 => []
  | count + 1 => UInt8.ofNat (n >>> (8 * count)) :: bigEndian n count

/-- The message followed by one bit, by zeros up to eight bytes before the end of a block, and by
its length in bits. -/
def pad (message : List UInt8) : List UInt8 :=
  message ++ 0x80 :: List.replicate ((119 - message.length % 64) % 64) 0
    ++ bigEndian (8 * message.length) 8

/-- Takes bytes into the chaining value, sixteen words of four bytes at a time. `words` are those of
the block at hand, the latest first. -/
def absorb (value : Words) (words : List UInt32) : List UInt8 → Words
  | b0 :: b1 :: b2 :: b3 :: rest =>
    let word := b0.toUInt32 <<< 24 ||| b1.toUInt32 <<< 16 ||| b2.toUInt32 <<< 8 ||| b3.toUInt32
    if words.length = 15 then absorb (compress value (word :: words).reverse) [] rest
    else absorb value (word :: words) rest
  | _ => value

/-- The digest of a message. -/
def digest (message : List UInt8) : List UInt8 :=
  let v := absorb start [] (pad message)
  [v.a, v.b, v.c, v.d, v.e, v.f, v.g, v.h].flatMap fun word => bigEndian word.toNat 4

/-- The two hexadecimal digits of a byte. -/
def hexByte (b : UInt8) : List Char := [Nat.digitChar (b.toNat / 16), Nat.digitChar (b.toNat % 16)]

/-- The digest of a message in hexadecimal. -/
def hex (message : List UInt8) : String := String.ofList ((digest message).flatMap hexByte)

end Strata.Sha256
