import GuardianRelay.Bytes
import GuardianRelay.Curve.Modular
import GuardianRelay.Hash.Sha256

/-!
# Recoverable signatures on secp256k1

The curve `y² = x³ + 7` over a prime field, with a base point of prime order. A signature of a digest is a pair
`(r, s)` below the order together with an identifier from 0 to 3 that says which of the points with abscissa `r`
was meant; from these the signer's public key can be recovered. Nonces are derived from the key and the digest,
so that a key signs a digest in one way only, and `s` is kept in the lower half of its range.
-/

namespace GuardianRelay.Secp256k1

/-- The prime of the field. -/
def p : Nat := Nat.pow 2 256 - Nat.pow 2 32 - 977

/-- The order of the base point. -/
def n : Nat := 0xfffffffffffffffffffffffffffffffebaaedce6af48a03bbfd25e8cd0364141

/-- A point in coordinates `(x / z², y / z³)`; the point at infinity has `z = 0`. -/
structure Point where
  (x y z : Nat)
deriving DecidableEq, Repr

namespace Point

/-- The point at infinity. -/
def infinity : Point := ⟨1, 1, 0⟩

/-- The base point. -/
def base : Point :=
  { x := 0x79be667ef9dcbbac55a06295ce870b07029bfcdb2dce28d959f2815b16f81798
    y := 0x483ada7726a3c4655da4fbfc0e1108a8fd17b448a68554199c47d08ffb10d4b8
    z := 1 }

/-- Twice a point. -/
def double (a : Point) : Point :=
  if a.z = 0 ∨ a.y = 0 then infinity
  else
    let y2 := a.y * a.y % p
    let s := 4 * a.x * y2 % p
    let m := 3 * a.x * a.x % p
    let x := Modular.sub p (m * m) (2 * s)
    let y := Modular.sub p (m * Modular.sub p s x) (8 * y2 * y2)
    ⟨x, y, 2 * a.y * a.z % p⟩

/-- The sum of two points. -/
def add (a b : Point) : Point :=
  if a.z = 0 then b
  else if b.z = 0 then a
  else
    let az2 := a.z * a.z % p
    let bz2 := b.z * b.z % p
    let u1 := a.x * bz2 % p
    let u2 := b.x * az2 % p
    let s1 := a.y * bz2 % p * b.z % p
    let s2 := b.y * az2 % p * a.z % p
    if u1 = u2 then
      if s1 = s2 then a.double else infinity
    else
      let h := Modular.sub p u2 u1
      let r := Modular.sub p s2 s1
      let h2 := h * h % p
      let h3 := h * h2 % p
      let v := u1 * h2 % p
      let x := Modular.sub p (r * r) (h3 + 2 * v)
      let y := Modular.sub p (r * Modular.sub p v x) (s1 * h3)
      ⟨x, y, h * a.z % p * b.z % p⟩

/-- `k` times a point. -/
def mul (k : Nat) (a : Point) : Point :=
  if _h : k = 0 then infinity
  else
    let rest := mul (k / 2) a.double
    if k % 2 = 1 then a.add rest else rest
termination_by k
decreasing_by omega

/-- The coordinates of a point other than the one at infinity. -/
def affine? (a : Point) : Option (Nat × Nat) :=
  if a.z = 0 then none
  else
    let inv := Modular.inverse p a.z
    let inv2 := inv * inv % p
    some (a.x * inv2 % p, a.y * inv2 % p * inv % p)

end Point

/-- A root of the curve's right side at `x` with the wanted parity, if the curve has a point there. -/
def lift? (x : Nat) (odd : Bool) : Option Point :=
  let square := (x * x % p * x + 7) % p
  let root := Modular.pow p square ((p + 1) / 4)
  if root * root % p ≠ square then none
  else some ⟨x, if (root % 2 == 1) == odd then root else p - root, 1⟩

/-- The message authentication code of HMAC with SHA-256, for keys of at most one block. -/
def hmac (key message : Bytes) : Bytes :=
  let block := key ++ Bytes.zeros (64 - key.length)
  let inner := (Sha256.hash (block.map (· ^^^ 0x36) ++ message)).toList
  (Sha256.hash (block.map (· ^^^ 0x5c) ++ inner)).toList

/-- The state of the generator of nonces. -/
structure NonceState where
  (key value : Bytes)

namespace NonceState

/-- Mixes data into the state. -/
def mix (s : NonceState) (mark : UInt8) (data : Bytes) : NonceState :=
  let key := hmac s.key (s.value ++ mark :: data)
  ⟨key, hmac key s.value⟩

/-- The state seeded with a secret key and a digest. -/
def seed (secret : Nat) (digest : Hash256) : NonceState :=
  let data := Bytes.bigEndian 32 secret ++ Bytes.bigEndian 32 (digest.toNat % n)
  let start : NonceState := ⟨Bytes.zeros 32, List.replicate 32 1⟩
  (start.mix 0 data).mix 1 data

end NonceState

/-- A signature of a digest with its recovery identifier. -/
structure Signature where
  (r s id : Nat)
deriving DecidableEq, Repr

/-- The signature made with a nonce, unless the nonce is unusable. -/
def signWith? (secret message nonce : Nat) : Option Signature := do
  if nonce = 0 ∨ n ≤ nonce then none
  let (x, y) ← (Point.mul nonce Point.base).affine?
  let r := x % n
  let s := Modular.inverse n nonce * ((message + r * secret) % n) % n
  if r = 0 ∨ s = 0 then none
  let id := (if n ≤ x then 2 else 0) + y % 2
  if n / 2 < s then some ⟨r, n - s, if id % 2 = 1 then id - 1 else id + 1⟩ else some ⟨r, s, id⟩

/-- Tries up to `fuel` nonces, in the order in which the generator gives them. -/
def signFrom? (fuel : Nat) (secret message : Nat) (s : NonceState) : Option Signature :=
  match fuel with
  | 0 => none
  | fuel + 1 =>
    let value := hmac s.key s.value
    match signWith? secret message (Bytes.toNatBE value) with
    | some signature => some signature
    | none => signFrom? fuel secret message ((⟨s.key, value⟩ : NonceState).mix 0 [])

/-- How many nonces are tried; that even one is unusable has a chance of `2⁻¹²⁷`. -/
def nonceAttempts : Nat := 64

/-- The signature of a digest. -/
def sign? (secret : Nat) (digest : Hash256) : Option Signature :=
  signFrom? nonceAttempts secret (digest.toNat % n) (NonceState.seed secret digest)

/-- The coordinates of the public key of a secret key. -/
def publicKey? (secret : Nat) : Option (Nat × Nat) := (Point.mul secret Point.base).affine?

/-- The coordinates of the public key that signed a digest, if the signature is one. -/
def recover? (digest : Hash256) (signature : Signature) : Option (Nat × Nat) := do
  let { r, s, id } := signature
  if r = 0 ∨ s = 0 then none
  let x := if id / 2 % 2 = 1 then r + n else r
  if p ≤ x then none
  let point ← lift? x (id % 2 == 1)
  let inv := Modular.inverse n r
  let u1 := Modular.sub n 0 (digest.toNat * inv)
  let u2 := s * inv % n
  ((Point.mul u1 Point.base).add (Point.mul u2 point)).affine?

end GuardianRelay.Secp256k1
