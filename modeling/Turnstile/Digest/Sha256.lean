/-!
# SHA-256

The SHA-256 digest of a byte string (FIPS 180-4). The message is padded with a
one bit, zeros and its bit length to a whole number of 64-byte blocks; each
block extends sixteen big-endian words to a schedule of sixty-four and runs
sixty-four rounds over an eight-word state. The digest is the final state,
written big-endian: thirty-two bytes.
-/

namespace Turnstile.Digest.Sha256

/-- The round constants: the first thirty-two bits of the fractional parts of
the cube roots of the first sixty-four primes. -/
def roundConstants : List UInt32 :=
  [0x428a2f98, 0x71374491, 0xb5c0fbcf, 0xe9b5dba5, 0x3956c25b, 0x59f111f1, 0x923f82a4, 0xab1c5ed5,
   0xd807aa98, 0x12835b01, 0x243185be, 0x550c7dc3, 0x72be5d74, 0x80deb1fe, 0x9bdc06a7, 0xc19bf174,
   0xe49b69c1, 0xefbe4786, 0x0fc19dc6, 0x240ca1cc, 0x2de92c6f, 0x4a7484aa, 0x5cb0a9dc, 0x76f988da,
   0x983e5152, 0xa831c66d, 0xb00327c8, 0xbf597fc7, 0xc6e00bf3, 0xd5a79147, 0x06ca6351, 0x14292967,
   0x27b70a85, 0x2e1b2138, 0x4d2c6dfc, 0x53380d13, 0x650a7354, 0x766a0abb, 0x81c2c92e, 0x92722c85,
   0xa2bfe8a1, 0xa81a664b, 0xc24b8b70, 0xc76c51a3, 0xd192e819, 0xd6990624, 0xf40e3585, 0x106aa070,
   0x19a4c116, 0x1e376c08, 0x2748774c, 0x34b0bcb5, 0x391c0cb3, 0x4ed8aa4a, 0x5b9cca4f, 0x682e6ff3,
   0x748f82ee, 0x78a5636f, 0x84c87814, 0x8cc70208, 0x90befffa, 0xa4506ceb, 0xbef9a3f7, 0xc67178f2]

/-- The initial state: the first thirty-two bits of the fractional parts of the
square roots of the first eight primes. -/
def initialState : List UInt32 :=
  [0x6a09e667, 0xbb67ae85, 0x3c6ef372, 0xa54ff53a, 0x510e527f, 0x9b05688c, 0x1f83d9ab, 0x5be0cd19]

/-- Rotate a word right by `n` places. -/
def rotr (x : UInt32) (n : UInt32) : UInt32 := (x >>> n) ||| (x <<< (32 - n))

def bigSigma0 (x : UInt32) : UInt32 := rotr x 2 ^^^ rotr x 13 ^^^ rotr x 22
def bigSigma1 (x : UInt32) : UInt32 := rotr x 6 ^^^ rotr x 11 ^^^ rotr x 25
def smallSigma0 (x : UInt32) : UInt32 := rotr x 7 ^^^ rotr x 18 ^^^ (x >>> 3)
def smallSigma1 (x : UInt32) : UInt32 := rotr x 17 ^^^ rotr x 19 ^^^ (x >>> 10)

/-- The big-endian words of a byte list, four bytes each; a tail of fewer than
four bytes is dropped (padded messages have none). -/
def words : List UInt8 → List UInt32
  | a :: b :: c :: d :: rest =>
    ((a.toUInt32 <<< 24) ||| (b.toUInt32 <<< 16) ||| (c.toUInt32 <<< 8) ||| d.toUInt32) ::
      words rest
  | _ => []

/-- Extend a schedule, newest word first, by `n` further words. -/
def extendSchedule : Nat → List UInt32 → List UInt32
  | 0, ws => ws
  | n + 1, ws =>
    let w2 := ws.getD 1 0
    let w7 := ws.getD 6 0
    let w15 := ws.getD 14 0
    let w16 := ws.getD 15 0
    extendSchedule n ((smallSigma1 w2 + w7 + smallSigma0 w15 + w16) :: ws)

/-- The sixty-four schedule words of a block given by its sixteen words. -/
def schedule (block : List UInt32) : List UInt32 :=
  (extendSchedule 48 block.reverse).reverse

/-- One compression round over the working state `a … h`. -/
def round (st : List UInt32) (k w : UInt32) : List UInt32 :=
  match st with
  | [a, b, c, d, e, f, g, h] =>
    let t1 := h + bigSigma1 e + ((e &&& f) ^^^ (~~~e &&& g)) + k + w
    let t2 := bigSigma0 a + ((a &&& b) ^^^ (a &&& c) ^^^ (b &&& c))
    [t1 + t2, a, b, c, d + t1, e, f, g]
  | other => other

/-- Compress one block into the state. -/
def compress (st : List UInt32) (block : List UInt32) : List UInt32 :=
  let final := (List.zip roundConstants (schedule block)).foldl
    (fun acc kw => round acc kw.1 kw.2) st
  List.zipWith (· + ·) st final

/-- The padded message: the bytes, the byte 0x80, zeros up to 56 modulo 64, and
the bit length as eight big-endian bytes. -/
def pad (msg : List UInt8) : List UInt8 :=
  let len := msg.length
  let zeros := (119 - len % 64) % 64
  let bits := len * 8
  msg ++ [0x80] ++ List.replicate zeros 0 ++
    (List.range 8).reverse.map (fun i => UInt8.ofNat (bits / Nat.pow 2 (8 * i) % 256))

/-- Compress the blocks of a word list, sixteen words at a time. -/
def compressAll (st : List UInt32) : List UInt32 → List UInt32
  | [] => st
  | w :: ws => compressAll (compress st ((w :: ws).take 16)) ((w :: ws).drop 16)
termination_by ws => ws.length
decreasing_by
  simp only [List.length_drop, List.length_cons]
  omega

/-- The big-endian bytes of a word. -/
def wordBytes (w : UInt32) : List UInt8 :=
  [(w >>> 24).toUInt8, (w >>> 16).toUInt8, (w >>> 8).toUInt8, w.toUInt8]

/-- The thirty-two byte SHA-256 digest of a byte list. -/
def digest (msg : List UInt8) : List UInt8 :=
  (compressAll initialState (words (pad msg))).flatMap wordBytes

end Turnstile.Digest.Sha256
