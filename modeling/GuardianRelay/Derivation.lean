import GuardianRelay.Curve.Edwards25519
import GuardianRelay.Error
import GuardianRelay.Hash.Sha256

/-!
# Program-derived addresses

A program owns addresses for which no key can exist: the hash of some seeds, a bump, the program and a mark, where
the bump is the highest for which the hash is no point of the curve. Deriving takes the hash and the test for
points as parameters, because its rules do not depend on them; `Derivation.standard` is what chains use.
-/

namespace GuardianRelay

/-- A hash for seeds and a test for points of a curve. -/
structure Derivation where
  /-- The hash of the seeds with all that follows them. -/
  hash : Bytes → Hash256
  /-- Whether a hash is a point, so that a key for it may exist. -/
  isPoint : Hash256 → Bool

namespace Derivation

/-- SHA-256 and edwards25519. -/
def standard : Derivation := ⟨Sha256.hash, Edwards25519.isPoint⟩

/-- The longest seed. -/
def maxSeedLength : Nat := 32

/-- The greatest number of seeds, the bump included. -/
def maxSeeds : Nat := 16

/-- The mark that ends what is hashed. -/
def mark : Bytes := Bytes.ofText "ProgramDerivedAddress"

/-- Checks seeds that are to be joined by `reserved` more. Their number is judged before their lengths. -/
def checkSeeds (seeds : List Bytes) (reserved : Nat) : Except DeriveError Unit :=
  if maxSeeds < seeds.length + reserved then .error (.tooManySeeds seeds.length)
  else match seeds.findIdx? (maxSeedLength < ·.length) with
    | some index => .error (.invalidSeed index (seeds.getD index []).length)
    | none => .ok ()

/-- What is hashed for seeds of a program. -/
def preimage (program : Address) (seeds : List Bytes) : Bytes := seeds.flatten ++ program.toList ++ mark

/-- The hash of seeds of a program. -/
def candidate (d : Derivation) (program : Address) (seeds : List Bytes) : Address :=
  ⟨d.hash (preimage program seeds)⟩

/-- The address of exactly these seeds, the bump included if there is one. -/
def create (d : Derivation) (program : Address) (seeds : List Bytes) : Except DeriveError Address := do
  checkSeeds seeds 0
  let address := d.candidate program seeds
  if d.isPoint address.bytes then throw .onCurve
  return address

/-- The address with the highest bump below `bumps`. -/
def findBelow (d : Derivation) (program : Address) (seeds : List Bytes) :
    Nat → Except DeriveError (Address × UInt8)
  | 0 => .error .noViableBump
  | bumps + 1 =>
    let bump := UInt8.ofNat bumps
    let address := d.candidate program (seeds ++ [[bump]])
    if d.isPoint address.bytes then findBelow d program seeds bumps else .ok (address, bump)

/-- The address of seeds and its bump. -/
def find (d : Derivation) (program : Address) (seeds : List Bytes) : Except DeriveError (Address × UInt8) := do
  checkSeeds seeds 1
  d.findBelow program seeds 256

/-- The address of seeds. -/
def derive (d : Derivation) (program : Address) (seeds : List Bytes) : Except DeriveError Address :=
  (d.find program seeds).map Prod.fst

end Derivation

end GuardianRelay
