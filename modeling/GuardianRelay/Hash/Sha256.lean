import GuardianRelay.Bytes

/-!
# SHA-256

The secure hash with 32-bit words: the message is padded to whole blocks of 64 octets that end in its length
in bits, and each block is mixed into a state of eight words in 64 rounds.
-/

namespace GuardianRelay.Sha256

/-- One constant per round: the first bits of the fractional parts of the cube roots of the first primes. -/
def roundConstants : List UInt32 :=
  [ 0x428a2f98, 0x71374491, 0xb5c0fbcf, 0xe9b5dba5, 0x3956c25b, 0x59f111f1, 0x923f82a4, 0xab1c5ed5,
    0xd807aa98, 0x12835b01, 0x243185be, 0x550c7dc3, 0x72be5d74, 0x80deb1fe, 0x9bdc06a7, 0xc19bf174,
    0xe49b69c1, 0xefbe4786, 0x0fc19dc6, 0x240ca1cc, 0x2de92c6f, 0x4a7484aa, 0x5cb0a9dc, 0x76f988da,
    0x983e5152, 0xa831c66d, 0xb00327c8, 0xbf597fc7, 0xc6e00bf3, 0xd5a79147, 0x06ca6351, 0x14292967,
    0x27b70a85, 0x2e1b2138, 0x4d2c6dfc, 0x53380d13, 0x650a7354, 0x766a0abb, 0x81c2c92e, 0x92722c85,
    0xa2bfe8a1, 0xa81a664b, 0xc24b8b70, 0xc76c51a3, 0xd192e819, 0xd6990624, 0xf40e3585, 0x106aa070,
    0x19a4c116, 0x1e376c08, 0x2748774c, 0x34b0bcb5, 0x391c0cb3, 0x4ed8aa4a, 0x5b9cca4f, 0x682e6ff3,
    0x748f82ee, 0x78a5636f, 0x84c87814, 0x8cc70208, 0x90befffa, 0xa4506ceb, 0xbef9a3f7, 0xc67178f2 ]

/-- The state of the compression. -/
structure State where
  (a b c d e f g h : UInt32)

/-- The state before the first block: the first bits of the fractional parts of the square roots of the first
eight primes. -/
def State.initial : State :=
  { a := 0x6a09e667, b := 0xbb67ae85, c := 0x3c6ef372, d := 0xa54ff53a,
    e := 0x510e527f, f := 0x9b05688c, g := 0x1f83d9ab, h := 0x5be0cd19 }

/-- A word turned right by `n` bits. -/
def rotr (x n : UInt32) : UInt32 := (x >>> n) ||| (x <<< (32 - n))

/-- The octets of a message, the mark bit, the zeros and the length in bits. -/
def padded (message : Bytes) : Bytes :=
  let length := message.length
  message ++ 0x80 :: Bytes.zeros ((64 - (length + 1 + 8) % 64) % 64) ++ Bytes.bigEndian 8 (8 * length)

/-- The words of a block, most significant octet first. -/
def words (block : Bytes) : List UInt32 :=
  (Bytes.blocks 4 block).map fun octets => UInt32.ofNat (Bytes.toNatBE octets)

/-- The next `n` schedule words after the sixteen words `window`, earliest first. -/
def extend : Nat → List UInt32 → List UInt32
  | n + 1, w0 :: w1 :: rest =>
    let w9 := rest.getD 7 0
    let w14 := rest.getD 12 0
    let s0 := rotr w1 7 ^^^ rotr w1 18 ^^^ (w1 >>> 3)
    let s1 := rotr w14 17 ^^^ rotr w14 19 ^^^ (w14 >>> 10)
    let next := w0 + s0 + w9 + s1
    next :: extend n (w1 :: rest ++ [next])
  | _, _ => []

/-- The schedule of a block: its sixteen words and those that follow from them. -/
def schedule (block : Bytes) : List UInt32 :=
  let first := words block
  first ++ extend 48 first

/-- One round, with its constant and its schedule word. -/
def State.round (s : State) (step : UInt32 × UInt32) : State :=
  let s1 := rotr s.e 6 ^^^ rotr s.e 11 ^^^ rotr s.e 25
  let choice := (s.e &&& s.f) ^^^ (~~~ s.e &&& s.g)
  let t1 := s.h + s1 + choice + step.1 + step.2
  let s0 := rotr s.a 2 ^^^ rotr s.a 13 ^^^ rotr s.a 22
  let majority := (s.a &&& s.b) ^^^ (s.a &&& s.c) ^^^ (s.b &&& s.c)
  { a := t1 + (s0 + majority), b := s.a, c := s.b, d := s.c, e := s.d + t1, f := s.e, g := s.f, h := s.g }

/-- Mixes a block into the state. -/
def State.absorb (s : State) (block : Bytes) : State :=
  let t := (roundConstants.zip (schedule block)).foldl State.round s
  { a := s.a + t.a, b := s.b + t.b, c := s.c + t.c, d := s.d + t.d,
    e := s.e + t.e, f := s.f + t.f, g := s.g + t.g, h := s.h + t.h }

/-- The octets of a state. -/
def State.toBytes (s : State) : Bytes :=
  [s.a, s.b, s.c, s.d, s.e, s.f, s.g, s.h].flatMap fun w => Bytes.bigEndian 4 w.toNat

theorem State.length_toBytes (s : State) : s.toBytes.length = 32 := by
  simp [State.toBytes]

/-- The hash of a message. -/
def hash (message : Bytes) : FixedBytes 32 :=
  let final := (Bytes.blocks 64 (padded message)).foldl State.absorb State.initial
  ⟨final.toBytes, final.length_toBytes⟩

end GuardianRelay.Sha256
