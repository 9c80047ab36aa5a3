import GuardianRelay.Curve.Secp256k1
import GuardianRelay.Error
import GuardianRelay.Hash.Keccak

/-!
# Who signed a digest

Guardians and contract-model accounts sign digests with signatures of 65 bytes: `r`, `s` and a recovery byte, which
is an identifier from 0 to 3, with or without 27 added. The signer's address is the tail of the hash of the public
key that the signature gives back.
-/

namespace GuardianRelay

/-- A recoverable signature: 32 bytes of `r`, 32 bytes of `s`, and the recovery byte. -/
abbrev SignatureBytes := FixedBytes 65

/-- A way to find the signer of a digest. -/
abbrev Recovery := Hash256 → SignatureBytes → Except SigningFault EvmAddress

namespace Recovery

/-- The address of a public key: the last 20 bytes of the hash of its coordinates. -/
def addressOf (key : Nat × Nat) : EvmAddress :=
  let hash := Keccak.hash (Bytes.bigEndian 32 key.1 ++ Bytes.bigEndian 32 key.2)
  ⟨hash.toList.drop 12, by simp⟩

/-- The recovery identifier that a recovery byte stands for. -/
def identifier (byte : UInt8) : Nat :=
  if 27 ≤ byte then byte.toNat - 27 else byte.toNat

/-- The signer of a digest. The identifier is judged first, then the range of the two numbers. -/
def secp256k1 : Recovery := fun digest signature =>
  let octets := signature.toList
  let r := Bytes.toNatBE (octets.take 32)
  let s := Bytes.toNatBE ((octets.drop 32).take 32)
  let id := identifier (octets.getLastD 0)
  if 3 < id then .error .badRecoveryId
  else if Secp256k1.n ≤ r ∨ Secp256k1.n ≤ s then .error .malformedSignature
  else match Secp256k1.recover? digest ⟨r, s, id⟩ with
    | none => .error .malformedSignature
    | some key => .ok (addressOf key)

end Recovery

end GuardianRelay
