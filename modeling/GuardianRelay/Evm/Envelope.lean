import GuardianRelay.Evm.Rlp
import GuardianRelay.Transaction

/-!
# The contract-model envelope

A signed call is a list of nine items: nonce, gas price, gas limit, target, value, data, and a signature whose
recovery byte also names the network. What is signed is the hash of the first six with the network and two zeros, so
that a signature for one network is worth nothing on another.
-/

namespace GuardianRelay.Evm

/-- What the node adds to a call when it is submitted. -/
structure Fields where
  nonce : UInt64
  gasPrice : Nat
  /-- The number of the network, which is not the number of the chain among guardians. -/
  networkId : UInt64
deriving DecidableEq, Repr

/-- The items that a signature covers, before the network: the target has to be narrow and the gas limit set. -/
def envelopeItems (transaction : UnsignedTransaction) (fields : Fields) : Except SigningFault (List Rlp.Item) :=
  match transaction.target.evm?, transaction.gasLimit with
  | none, _ => .error (.targetNotEvm transaction.target)
  | some _, none => .error .noGasLimit
  | some target, some gas =>
    .ok [Rlp.Item.ofNat fields.nonce.toNat, Rlp.Item.ofNat fields.gasPrice, Rlp.Item.ofNat gas.toNat,
      .bytes target.toList, Rlp.Item.ofNat transaction.value, .bytes transaction.data]

/-- What a signature commits to. -/
def signingPayload (items : List Rlp.Item) (networkId : UInt64) : Bytes :=
  (Rlp.Item.list (items ++ [Rlp.Item.ofNat networkId.toNat, Rlp.Item.ofNat 0, Rlp.Item.ofNat 0])).encode

/-- The hash that is signed. -/
def signingHash (transaction : UnsignedTransaction) (fields : Fields) : Except SigningFault Hash256 := do
  let items ← envelopeItems transaction fields
  return Keccak.hash (signingPayload items fields.networkId)

/-- The recovery item: the identifier and the network in one number of 64 bits. What goes beyond them is lost. -/
def recoveryItem (networkId : UInt64) (identifier : Nat) : Nat :=
  (UInt64.ofNat identifier + networkId * 2 + 35).toNat

/-- The identifier in the last byte of a recoverable signature, which is 27 or 28. -/
def recoveryIdentifier (signature : Bytes) : Except SigningFault Nat :=
  let byte := signature.getLastD 0
  if byte = 27 then .ok 0 else if byte = 28 then .ok 1 else .error (.recoveryByte byte)

/-- Signs a call. -/
def signLegacy (signer : Signer) (transaction : UnsignedTransaction) (fields : Fields) :
    Except SigningFault SignedTransaction := do
  let items ← envelopeItems transaction fields
  let signature ← signer.sign (Keccak.hash (signingPayload items fields.networkId)).toList
  if signature.length ≠ 65 then throw (.evmSignatureLength signature.length)
  let identifier ← recoveryIdentifier signature
  let r := Bytes.toNatBE (signature.take 32)
  let s := Bytes.toNatBE ((signature.drop 32).take 32)
  let all := items ++ [Rlp.Item.ofNat (recoveryItem fields.networkId identifier), Rlp.Item.ofNat r, Rlp.Item.ofNat s]
  return { transaction, signer := signer.address, signature, raw := (Rlp.Item.list all).encode }

end GuardianRelay.Evm
