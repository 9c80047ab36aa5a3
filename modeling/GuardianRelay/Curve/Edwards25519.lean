import GuardianRelay.Bytes
import GuardianRelay.Curve.Modular
import GuardianRelay.Hash.Sha512

/-!
# Signatures on edwards25519

The twisted Edwards curve `-x² + y² = 1 + d x² y²` over the integers modulo `2²⁵⁵ - 19`. A point is written as 32
octets, least significant first: its ordinate, with the parity of its abscissa in the top bit. Reading is lenient
in two ways that matter to callers: an ordinate at or above the prime stands for its residue, and the sign bit is
allowed at abscissa zero.
-/

namespace GuardianRelay.Edwards25519

/-- The prime of the field. -/
def p : Nat := Nat.pow 2 255 - 19

/-- The order of the base point. -/
def order : Nat := Nat.pow 2 252 + 27742317777372353535851937790883648493

/-- The coefficient of the curve, `-121665 / 121666`. -/
def d : Nat := 37095705934669439343138083508754565189542113879843219016388785533085940283555

/-- A square root of minus one. -/
def rootOfMinusOne : Nat := 19681161376707505956807079304988542015446066515923890162744021073123829784752

/-- A point as `(x / z, y / z)`, with `t = x * y / z`. -/
structure Point where
  (x y z t : Nat)
deriving DecidableEq, Repr

namespace Point

/-- The neutral point. -/
def zero : Point := ⟨0, 1, 1, 0⟩

/-- The sum of two points. -/
def add (a b : Point) : Point :=
  let m := Modular.sub p a.y a.x * Modular.sub p b.y b.x % p
  let q := (a.y + a.x) * (b.y + b.x) % p
  let c := 2 * a.t * b.t % p * d % p
  let w := 2 * a.z * b.z % p
  let e := Modular.sub p q m
  let f := Modular.sub p w c
  let g := (w + c) % p
  let h := (q + m) % p
  ⟨e * f % p, g * h % p, f * g % p, e * h % p⟩

/-- `k` times a point. -/
def mul (k : Nat) (a : Point) : Point :=
  if _h : k = 0 then zero
  else
    let rest := mul (k / 2) (a.add a)
    if k % 2 = 1 then a.add rest else rest
termination_by k
decreasing_by omega

/-- The written form of a point. -/
def encode (a : Point) : FixedBytes 32 :=
  let inv := Modular.inverse p a.z
  let x := a.x * inv % p
  let y := a.y * inv % p
  ⟨Bytes.littleEndian 32 (y + x % 2 * Nat.pow 2 255), by simp⟩

end Point

/-- A square root of `u / v`, if there is one. -/
def sqrtRatio? (u v : Nat) : Option Nat :=
  let v3 := v * v % p * v % p
  let v7 := v3 * v3 % p * v % p
  let candidate := u * v3 % p * Modular.pow p (u * v7 % p) ((p - 5) / 8) % p
  let check := v * (candidate * candidate % p) % p
  if check = u % p then some candidate
  else if check = Modular.sub p 0 u then some (candidate * rootOfMinusOne % p)
  else none

/-- The point that 32 octets write, if they write one. -/
def decode? (b : FixedBytes 32) : Option Point := do
  let number := Bytes.toNatLE b.toList
  let y := number % Nat.pow 2 255 % p
  let y2 := y * y % p
  let root ← sqrtRatio? (Modular.sub p y2 1) ((d * y2 + 1) % p)
  let x := if root % 2 = number / Nat.pow 2 255 then root else (p - root) % p
  return ⟨x, y, 1, x * y % p⟩

/-- Whether 32 octets write a point of the curve. -/
def isPoint (b : FixedBytes 32) : Bool := (decode? b).isSome

/-- The base point: ordinate `4 / 5`, even abscissa. -/
def base : Point :=
  let x := 15112221349535400772501151409588531511454012693041857206046113283949847762202
  let y := 46316835694926478169428394003475163141307993866256225615783033603165251855960
  ⟨x, y, 1, x * y % p⟩

/-- The scalar and the nonce key that a secret expands to. -/
def expand (secret : FixedBytes 32) : Nat × Bytes :=
  let octets := (Sha512.hash secret.toList).toList
  let low := Bytes.toNatLE (octets.take 32)
  (low % Nat.pow 2 254 / 8 * 8 + Nat.pow 2 254, octets.drop 32)

/-- The public key of a secret. -/
def publicKey (secret : FixedBytes 32) : FixedBytes 32 :=
  (Point.mul (expand secret).1 base).encode

/-- The signature of a message. -/
def sign (secret : FixedBytes 32) (message : Bytes) : FixedBytes 64 :=
  let (scalar, nonceKey) := expand secret
  let reduce (b : Bytes) : Nat := Bytes.toNatLE (Sha512.hash b).toList % order
  let nonce := reduce (nonceKey ++ message)
  let commitment := (Point.mul nonce base).encode
  let challenge := reduce (commitment.toList ++ (publicKey secret).toList ++ message)
  ⟨commitment.toList ++ Bytes.littleEndian 32 ((nonce + challenge * scalar) % order), by simp⟩

end GuardianRelay.Edwards25519
