/-
  The SHA-256 digest of a list of bytes.
-/
import VeiledGateway.Text.CodePoint

set_option autoImplicit false

namespace VeiledGateway.Sha256

/-- The first 32 bits of the fractional parts of the cube roots of the first 64 primes. -/
def roundConstants : List UInt32 := [
  0x428a2f98, 0x71374491, 0xb5c0fbcf, 0xe9b5dba5, 0x3956c25b, 0x59f111f1, 0x923f82a4, 0xab1c5ed5,
  0xd807aa98, 0x12835b01, 0x243185be, 0x550c7dc3, 0x72be5d74, 0x80deb1fe, 0x9bdc06a7, 0xc19bf174,
  0xe49b69c1, 0xefbe4786, 0x0fc19dc6, 0x240ca1cc, 0x2de92c6f, 0x4a7484aa, 0x5cb0a9dc, 0x76f988da,
  0x983e5152, 0xa831c66d, 0xb00327c8, 0xbf597fc7, 0xc6e00bf3, 0xd5a79147, 0x06ca6351, 0x14292967,
  0x27b70a85, 0x2e1b2138, 0x4d2c6dfc, 0x53380d13, 0x650a7354, 0x766a0abb, 0x81c2c92e, 0x92722c85,
  0xa2bfe8a1, 0xa81a664b, 0xc24b8b70, 0xc76c51a3, 0xd192e819, 0xd6990624, 0xf40e3585, 0x106aa070,
  0x19a4c116, 0x1e376c08, 0x2748774c, 0x34b0bcb5, 0x391c0cb3, 0x4ed8aa4a, 0x5b9cca4f, 0x682e6ff3,
  0x748f82ee, 0x78a5636f, 0x84c87814, 0x8cc70208, 0x90befffa, 0xa4506ceb, 0xbef9a3f7, 0xc67178f2]

/-- The eight working words. -/
structure Words where
  a : UInt32
  b : UInt32
  c : UInt32
  d : UInt32
  e : UInt32
  f : UInt32
  g : UInt32
  h : UInt32

/-- The first 32 bits of the fractional parts of the square roots of the first eight primes. -/
def Words.start : Words :=
  ⟨0x6a09e667, 0xbb67ae85, 0x3c6ef372, 0xa54ff53a, 0x510e527f, 0x9b05688c, 0x1f83d9ab, 0x5be0cd19⟩

def Words.add (v w : Words) : Words :=
  ⟨v.a + w.a, v.b + w.b, v.c + w.c, v.d + w.d, v.e + w.e, v.f + w.f, v.g + w.g, v.h + w.h⟩

def Words.toList (w : Words) : List UInt32 :=
  [w.a, w.b, w.c, w.d, w.e, w.f, w.g, w.h]

def rotateRight (x : UInt32) (n : UInt32) : UInt32 :=
  (x >>> n) ||| (x <<< (32 - n))

def round (w : Words) (constant word : UInt32) : Words :=
  let s1 := rotateRight w.e 6 ^^^ rotateRight w.e 11 ^^^ rotateRight w.e 25
  let choice := (w.e &&& w.f) ^^^ ((~~~ w.e) &&& w.g)
  let t1 := w.h + s1 + choice + constant + word
  let s0 := rotateRight w.a 2 ^^^ rotateRight w.a 13 ^^^ rotateRight w.a 22
  let majority := (w.a &&& w.b) ^^^ (w.a &&& w.c) ^^^ (w.b &&& w.c)
  ⟨t1 + (s0 + majority), w.a, w.b, w.c, w.d + t1, w.e, w.f, w.g⟩

/-- The words of a block, each byte in its place from the left. -/
def blockWords : List UInt8 → List UInt32
  | a :: b :: c :: d :: rest =>
    ((a.toUInt32 <<< 24) ||| (b.toUInt32 <<< 16) ||| (c.toUInt32 <<< 8) ||| d.toUInt32)
      :: blockWords rest
  | _ => []

/-- The rounds over a window of the sixteen latest schedule words. -/
def rounds : List UInt32 → List UInt32 → Words → Words
  | constant :: constants, w0 :: window, w =>
    let next :=
      match window[0]?, window[8]?, window[13]? with
      | some w1, some w9, some w14 =>
        let s0 := rotateRight w1 7 ^^^ rotateRight w1 18 ^^^ (w1 >>> 3)
        let s1 := rotateRight w14 17 ^^^ rotateRight w14 19 ^^^ (w14 >>> 10)
        w0 + s0 + w9 + s1
      | _, _, _ => 0
    rounds constants (window ++ [next]) (round w constant w0)
  | _, _, w => w

def compress (w : Words) (block : List UInt8) : Words :=
  w.add (rounds roundConstants (blockWords block) w)

/-- The message with its end mark and its length in bits, a whole number of blocks long. -/
def pad (message : List UInt8) : List UInt8 :=
  let size := message.length
  let zeros := (119 - size % 64) % 64
  let bits := size * 8
  message ++ [0x80] ++ List.replicate zeros 0
    ++ (List.range 8).map fun i => UInt8.ofNat (bits / Nat.pow 2 (8 * (7 - i)) % 256)

def blocks (fuel : Nat) (w : Words) (message : List UInt8) : Words :=
  match fuel with
  | 0 => w
  | fuel + 1 =>
    if message.isEmpty then w else blocks fuel (compress w (message.take 64)) (message.drop 64)

/-- The digest as eight words. -/
def digest (message : List UInt8) : List UInt32 :=
  let padded := pad message
  (blocks (padded.length / 64) Words.start padded).toList

/-- The digest in 64 lower-case hexadecimal digits. -/
def hexDigest (message : List UInt8) : Text :=
  (digest message).flatMap fun word => Text.hex word.toNat 8

end VeiledGateway.Sha256
