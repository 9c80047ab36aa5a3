import GuardianRelay.Recovery

/-!
# Guardians

A guardian set is a numbered list of keys. It stays in force until it expires; a set without an expiration time
does not expire. More than two thirds of its keys have to sign an attestation.
-/

namespace GuardianRelay

/-- The guardians of a period. -/
structure GuardianSet where
  /-- The number of the set. -/
  index : UInt32
  /-- The keys, by guardian. -/
  keys : List EvmAddress
  /-- When the set expires, in seconds of the epoch; zero is never. -/
  expirationTime : UInt32
deriving DecidableEq

namespace GuardianSet

/-- How many guardians have to sign. -/
def quorum (set : GuardianSet) : Nat := set.keys.length * 2 / 3 + 1

/-- Whether the set is in force at a time. -/
def isActiveAt (set : GuardianSet) (now : UInt32) : Bool :=
  set.expirationTime == 0 || now < set.expirationTime

/-- Checks a guardian's signature of a digest, with a way to find signers. -/
def verifyWith (recover : Recovery) (set : GuardianSet) (guardian : UInt8) (digest : Hash256)
    (signature : SignatureBytes) : Except SigningFault Unit :=
  match set.keys[guardian.toNat]? with
  | none => .error (.unknownGuardian guardian)
  | some key => do
    let signer ← recover digest signature
    if signer = key then .ok () else .error .wrongKey

/-- Checks a guardian's signature of a digest. -/
def verify (set : GuardianSet) (guardian : UInt8) (digest : Hash256) (signature : SignatureBytes) :
    Except SigningFault Unit :=
  set.verifyWith Recovery.secp256k1 guardian digest signature

end GuardianSet

end GuardianRelay
