import GuardianRelay.Curve.Edwards25519
import GuardianRelay.Recovery
import GuardianRelay.Text.Search

/-!
# Signers

A signer is an address and a way to sign; an endpoint is given one and knows nothing of keys. Contract-model chains
are signed for by secp256k1 keys, which sign digests and answer with 65 bytes, account-model chains by ed25519 keys,
which sign messages and answer with 64.
-/

namespace GuardianRelay

/-- The ability to sign for an account. -/
structure Signer where
  /-- The account. -/
  address : Address
  /-- Signs what an envelope commits to. -/
  sign : Bytes → Except SigningFault Bytes

/-- A secret key on secp256k1. -/
structure Secp256k1Key where
  secret : Nat
  secret_pos : 0 < secret
  secret_lt : secret < Secp256k1.n

namespace Secp256k1Key

/-- The key of 32 bytes that are in range. -/
def ofBytes (b : Bytes) : Except SigningFault Secp256k1Key :=
  let secret := Bytes.toNatBE b
  if h : b.length = 32 ∧ 0 < secret ∧ secret < Secp256k1.n then .ok ⟨secret, h.2.1, h.2.2⟩
  else .error .badSecret

/-- Reads a key in hexadecimal, with blanks around it and marks in front. -/
def ofText (text : String) : Except SigningFault Secp256k1Key :=
  match Hex.decode (Hex.dropMarks (Text.trim text)) with
  | .error fault => .error (.secretHex fault)
  | .ok b => ofBytes b

/-- The account of a key. -/
def address (key : Secp256k1Key) : EvmAddress :=
  match Secp256k1.publicKey? key.secret with
  | some point => Recovery.addressOf point
  | none => FixedBytes.zero

/-- The signature of a digest: `r`, `s` and a recovery byte of 27 or 28. -/
def signDigest (key : Secp256k1Key) (digest : Hash256) : Except SigningFault SignatureBytes :=
  match Secp256k1.sign? key.secret digest with
  | none => .error .noNonce
  | some { r, s, id } =>
    .ok ⟨Bytes.bigEndian 32 r ++ Bytes.bigEndian 32 s ++ [UInt8.ofNat (27 + id)], by simp⟩

/-- The signer with a key. -/
def signer (key : Secp256k1Key) : Signer where
  address := Address.ofEvm key.address
  sign payload :=
    match FixedBytes.ofList? payload with
    | none => .error (.notDigest payload.length)
    | some digest => (key.signDigest digest).map FixedBytes.toList

end Secp256k1Key

/-- A secret of ed25519. -/
structure Ed25519Key where
  secret : FixedBytes 32

namespace Ed25519Key

/-- The account of a secret. -/
def address (key : Ed25519Key) : Address := ⟨Edwards25519.publicKey key.secret⟩

/-- The secret of a keypair, which is the secret and the public key that belongs to it. -/
def ofKeypair (b : Bytes) : Except SigningFault Ed25519Key :=
  match FixedBytes.ofList? (b.take 32), FixedBytes.ofList? (b.drop 32) with
  | some secret, some announced =>
    if ¬ Edwards25519.isPoint announced then .error .keypairPoint
    else if Edwards25519.publicKey secret = announced then .ok ⟨secret⟩
    else .error .keypairMismatch
  | _, _ => .error (.keypairLength b.length)

/-- The signer with a secret. -/
def signer (key : Ed25519Key) : Signer where
  address := key.address
  sign payload := .ok (Edwards25519.sign key.secret payload).toList

end Ed25519Key

end GuardianRelay
