import GuardianRelay.Address
import GuardianRelay.Bytes.Cursor
import GuardianRelay.Hash.Keccak

/-!
# Attestations

An attestation is a message that an emitter published on its chain, signed by guardians. It is written as a header,
which names the guardian set and holds the signatures, and a body, which holds the message. All numbers are most
significant byte first.

* header: version, guardian set (4 bytes), number of signatures, then 66 bytes each: guardian, `r`, `s`, recovery
  byte;
* body: timestamp (4), nonce (4), emitter chain (2), emitter (32), sequence (8), consistency level (1), payload.

Only the body is signed, so the identity of a message does not depend on who signed it.
-/

namespace GuardianRelay

/-- A guardian's signature in an attestation. -/
structure GuardianSignature where
  /-- Which key of the set signed. -/
  guardian : UInt8
  (r s : FixedBytes 32)
  /-- The recovery byte. -/
  v : UInt8
deriving DecidableEq

namespace GuardianSignature

/-- The signature without its guardian. -/
def toBytes (signature : GuardianSignature) : FixedBytes 65 :=
  ⟨signature.r.toList ++ signature.s.toList ++ [signature.v], by simp⟩

/-- The signature of a guardian. -/
def ofBytes (guardian : UInt8) (b : FixedBytes 65) : GuardianSignature where
  guardian := guardian
  r := ⟨b.toList.take 32, by simp⟩
  s := ⟨(b.toList.drop 32).take 32, by simp⟩
  v := b.toList.getLastD 0

/-- The written form of a signature. -/
def encode (signature : GuardianSignature) : Bytes := signature.guardian :: signature.toBytes.toList

/-- Reads a signature. -/
def decoder : Decoder GuardianSignature := do
  let guardian ← Decoder.uint8
  return ofBytes guardian (← Decoder.fixed 65)

end GuardianSignature

/-- A message with the signatures of guardians. -/
structure Attestation where
  version : UInt8
  /-- The set whose guardians signed. -/
  guardianSetIndex : UInt32
  signatures : List GuardianSignature
  timestamp : UInt32
  nonce : UInt32
  /-- The chain on which the message was published. -/
  emitterChain : ChainId
  /-- Who published it there. -/
  emitter : Address
  /-- The number of the message among its emitter's. -/
  sequence : UInt64
  consistencyLevel : UInt8
  payload : Bytes
deriving DecidableEq, Inhabited

namespace Attestation

/-- Bytes of the header before the signatures. -/
def headerLength : Nat := 6

/-- Bytes of a signature with its guardian. -/
def signatureLength : Nat := 66

/-- Bytes of the body before the payload. -/
def bodyFixedLength : Nat := 51

/-- The largest number that the signature count can hold. -/
def maxSignatures : Nat := 255

/-- The part that guardians sign. -/
def body (a : Attestation) : Bytes :=
  Bytes.bigEndian 4 a.timestamp.toNat ++ Bytes.bigEndian 4 a.nonce.toNat
    ++ Bytes.bigEndian 2 a.emitterChain.toNat ++ a.emitter.toList ++ Bytes.bigEndian 8 a.sequence.toNat
    ++ [a.consistencyLevel] ++ a.payload

/-- The hash of the body, which keys the account that an attestation is posted to. -/
def messageHash (a : Attestation) : Hash256 := Keccak.hash a.body

/-- The hash of the message hash: what guardians sign, and what keys replay records on contract-model chains. -/
def digest (a : Attestation) : Hash256 := Keccak.hash a.messageHash.toList

/-- The length of the written form. -/
def encodedLength (a : Attestation) : Nat :=
  headerLength + signatureLength * a.signatures.length + bodyFixedLength + a.payload.length

/-- The written form, unless there are more signatures than can be counted. -/
def encode (a : Attestation) : Except ParseError Bytes :=
  if maxSignatures < a.signatures.length then .error (.tooManySignatures a.signatures.length)
  else .ok (a.version :: Bytes.bigEndian 4 a.guardianSetIndex.toNat ++ [UInt8.ofNat a.signatures.length]
    ++ a.signatures.flatMap GuardianSignature.encode ++ a.body)

/-- Reads an attestation. That signatures and body fit is checked once the signatures have been counted, before
any of them is read; all that follows the fixed part of the body is payload. -/
def decoder : Decoder Attestation := do
  let version ← Decoder.uint8
  let guardianSetIndex ← Decoder.uint32
  let count ← Decoder.uint8
  Decoder.ensure (count.toNat * signatureLength + bodyFixedLength)
  let signatures ← Decoder.times GuardianSignature.decoder count.toNat
  let timestamp ← Decoder.uint32
  let nonce ← Decoder.uint32
  let emitterChain ← Decoder.uint16
  let emitter ← Decoder.fixed 32
  let sequence ← Decoder.uint64
  let consistencyLevel ← Decoder.uint8
  let payload ← Decoder.rest
  return { version, guardianSetIndex, signatures, timestamp, nonce, emitterChain, emitter := ⟨emitter⟩, sequence,
           consistencyLevel, payload }

/-- Reads an attestation from its written form. -/
def decode (b : Bytes) : Except ParseError Attestation := decoder.decode b

end Attestation

end GuardianRelay
