import GuardianRelay.Bytes

/-!
# SHA-512

The secure hash with 64-bit words: the message is padded to whole blocks of 128 octets that end in its length
in bits, and each block is mixed into a state of eight words in 80 rounds.
-/

namespace GuardianRelay.Sha512

/-- One constant per round: the first bits of the fractional parts of the cube roots of the first primes. -/
def roundConstants : List UInt64 :=
  [ 0x428a2f98d728ae22, 0x7137449123ef65cd, 0xb5c0fbcfec4d3b2f, 0xe9b5dba58189dbbc,
    0x3956c25bf348b538, 0x59f111f1b605d019, 0x923f82a4af194f9b, 0xab1c5ed5da6d8118,
    0xd807aa98a3030242, 0x12835b0145706fbe, 0x243185be4ee4b28c, 0x550c7dc3d5ffb4e2,
    0x72be5d74f27b896f, 0x80deb1fe3b1696b1, 0x9bdc06a725c71235, 0xc19bf174cf692694,
    0xe49b69c19ef14ad2, 0xefbe4786384f25e3, 0x0fc19dc68b8cd5b5, 0x240ca1cc77ac9c65,
    0x2de92c6f592b0275, 0x4a7484aa6ea6e483, 0x5cb0a9dcbd41fbd4, 0x76f988da831153b5,
    0x983e5152ee66dfab, 0xa831c66d2db43210, 0xb00327c898fb213f, 0xbf597fc7beef0ee4,
    0xc6e00bf33da88fc2, 0xd5a79147930aa725, 0x06ca6351e003826f, 0x142929670a0e6e70,
    0x27b70a8546d22ffc, 0x2e1b21385c26c926, 0x4d2c6dfc5ac42aed, 0x53380d139d95b3df,
    0x650a73548baf63de, 0x766a0abb3c77b2a8, 0x81c2c92e47edaee6, 0x92722c851482353b,
    0xa2bfe8a14cf10364, 0xa81a664bbc423001, 0xc24b8b70d0f89791, 0xc76c51a30654be30,
    0xd192e819d6ef5218, 0xd69906245565a910, 0xf40e35855771202a, 0x106aa07032bbd1b8,
    0x19a4c116b8d2d0c8, 0x1e376c085141ab53, 0x2748774cdf8eeb99, 0x34b0bcb5e19b48a8,
    0x391c0cb3c5c95a63, 0x4ed8aa4ae3418acb, 0x5b9cca4f7763e373, 0x682e6ff3d6b2b8a3,
    0x748f82ee5defb2fc, 0x78a5636f43172f60, 0x84c87814a1f0ab72, 0x8cc702081a6439ec,
    0x90befffa23631e28, 0xa4506cebde82bde9, 0xbef9a3f7b2c67915, 0xc67178f2e372532b,
    0xca273eceea26619c, 0xd186b8c721c0c207, 0xeada7dd6cde0eb1e, 0xf57d4f7fee6ed178,
    0x06f067aa72176fba, 0x0a637dc5a2c898a6, 0x113f9804bef90dae, 0x1b710b35131c471b,
    0x28db77f523047d84, 0x32caab7b40c72493, 0x3c9ebe0a15c9bebc, 0x431d67c49c100d4c,
    0x4cc5d4becb3e42b6, 0x597f299cfc657e2a, 0x5fcb6fab3ad6faec, 0x6c44198c4a475817 ]

/-- The state of the compression. -/
structure State where
  (a b c d e f g h : UInt64)

/-- The state before the first block: the first bits of the fractional parts of the square roots of the first
eight primes. -/
def State.initial : State :=
  { a := 0x6a09e667f3bcc908, b := 0xbb67ae8584caa73b, c := 0x3c6ef372fe94f82b, d := 0xa54ff53a5f1d36f1,
    e := 0x510e527fade682d1, f := 0x9b05688c2b3e6c1f, g := 0x1f83d9abfb41bd6b, h := 0x5be0cd19137e2179 }

/-- A word turned right by `n` bits. -/
def rotr (x n : UInt64) : UInt64 := (x >>> n) ||| (x <<< (64 - n))

/-- The octets of a message, the mark bit, the zeros and the length in bits. -/
def padded (message : Bytes) : Bytes :=
  let length := message.length
  message ++ 0x80 :: Bytes.zeros ((128 - (length + 1 + 16) % 128) % 128) ++ Bytes.bigEndian 16 (8 * length)

/-- The words of a block, most significant octet first. -/
def words (block : Bytes) : List UInt64 :=
  (Bytes.blocks 8 block).map fun octets => UInt64.ofNat (Bytes.toNatBE octets)

/-- The next `n` schedule words after the sixteen words `window`, earliest first. -/
def extend : Nat → List UInt64 → List UInt64
  | n + 1, w0 :: w1 :: rest =>
    let w9 := rest.getD 7 0
    let w14 := rest.getD 12 0
    let s0 := rotr w1 1 ^^^ rotr w1 8 ^^^ (w1 >>> 7)
    let s1 := rotr w14 19 ^^^ rotr w14 61 ^^^ (w14 >>> 6)
    let next := w0 + s0 + w9 + s1
    next :: extend n (w1 :: rest ++ [next])
  | _, _ => []

/-- The schedule of a block: its sixteen words and those that follow from them. -/
def schedule (block : Bytes) : List UInt64 :=
  let first := words block
  first ++ extend 64 first

/-- One round, with its constant and its schedule word. -/
def State.round (s : State) (step : UInt64 × UInt64) : State :=
  let s1 := rotr s.e 14 ^^^ rotr s.e 18 ^^^ rotr s.e 41
  let choice := (s.e &&& s.f) ^^^ (~~~ s.e &&& s.g)
  let t1 := s.h + s1 + choice + step.1 + step.2
  let s0 := rotr s.a 28 ^^^ rotr s.a 34 ^^^ rotr s.a 39
  let majority := (s.a &&& s.b) ^^^ (s.a &&& s.c) ^^^ (s.b &&& s.c)
  { a := t1 + (s0 + majority), b := s.a, c := s.b, d := s.c, e := s.d + t1, f := s.e, g := s.f, h := s.g }

/-- Mixes a block into the state. -/
def State.absorb (s : State) (block : Bytes) : State :=
  let t := (roundConstants.zip (schedule block)).foldl State.round s
  { a := s.a + t.a, b := s.b + t.b, c := s.c + t.c, d := s.d + t.d,
    e := s.e + t.e, f := s.f + t.f, g := s.g + t.g, h := s.h + t.h }

/-- The octets of a state. -/
def State.toBytes (s : State) : Bytes :=
  [s.a, s.b, s.c, s.d, s.e, s.f, s.g, s.h].flatMap fun w => Bytes.bigEndian 8 w.toNat

theorem State.length_toBytes (s : State) : s.toBytes.length = 64 := by
  simp [State.toBytes]

/-- The hash of a message. -/
def hash (message : Bytes) : FixedBytes 64 :=
  let final := (Bytes.blocks 128 (padded message)).foldl State.absorb State.initial
  ⟨final.toBytes, final.length_toBytes⟩

end GuardianRelay.Sha512
