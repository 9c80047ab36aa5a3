import GuardianRelay.Error
import GuardianRelay.Hash.Keccak

/-!
# Calls of contracts

The calls that an endpoint makes, and how calls and what they return are written: a selector of four bytes, which is
the start of the hash of the function's signature, and arguments of 32 bytes each. A call takes either fixed
arguments, one word each, or a single byte string, which is written as an offset, its length and its bytes, filled up
with zeros to whole words.
-/

namespace GuardianRelay.Evm

/-- An argument or a part of what a call returns. -/
abbrev Word := FixedBytes 32

/-- The bytes of a word. -/
def wordLength : Nat := 32

/-- The start of the hash of a function's signature. -/
def selector (signature : String) : Bytes := (Keccak.hash (Bytes.ofText signature)).toList.take 4

/-- The hash of an event's signature. -/
def eventTopic (signature : String) : Hash256 := Keccak.hash (Bytes.ofText signature)

/-- The event by which the core contract tells that a message was published; its first word of data is the
sequence. -/
def messagePublished : String := "LogMessagePublished(address,uint64,uint32,bytes,uint8)"

/-- The word of a number. -/
def Word.ofNat (n : Nat) : Word := FixedBytes.ofNat n

/-- The word of an address. -/
def Word.ofAddress (a : EvmAddress) : Word := FixedBytes.leftPad a.toList

/-- A call of a contract, with its arguments. -/
inductive Call where
  /-- Publishes a message. -/
  | sendMessage (payload : Bytes)
  /-- Delivers an attested message. -/
  | receiveMessage (attestation : Bytes)
  /-- Delivers an attested transfer. -/
  | redeemTokens (attestation : Bytes)
  /-- Sends tokens to another chain. -/
  | sendTokens (token : EvmAddress) (amount : Nat) (chain : ChainId) (recipient : Address) (batch : UInt32)
  /-- Registers the endpoint of another chain. -/
  | registerEmitter (chain : ChainId) (emitter : Address)
  /-- Asks for the endpoint of another chain. -/
  | registeredEmitter (chain : ChainId)
  /-- Asks what publishing costs. -/
  | messageFee
  /-- Asks whether a transfer was redeemed. -/
  | isTransferCompleted (digest : Hash256)
  /-- Asks whether a message was delivered. -/
  | isMessageConsumed (digest : Hash256)
  /-- Asks what an owner holds of a token. -/
  | balanceOf (owner : EvmAddress)
  /-- Asks what a spender may move of an owner's tokens. -/
  | allowance (owner spender : EvmAddress)
deriving DecidableEq

/-- The arguments of a call: words, or one byte string. -/
inductive Arguments where
  | words (words : List Word)
  | bytes (b : Bytes)
deriving DecidableEq

namespace Arguments

/-- How many zeros fill a byte string of some length up to whole words. -/
def padding (length : Nat) : Nat := (wordLength - length % wordLength) % wordLength

/-- The written form of arguments. -/
def encode : Arguments → Bytes
  | words ws => ws.flatMap FixedBytes.toList
  | bytes b =>
    (Word.ofNat wordLength).toList ++ (Word.ofNat b.length).toList ++ b ++ Bytes.zeros (padding b.length)

end Arguments

namespace Call

/-- The signature of the function that is called. -/
def signature : Call → String
  | sendMessage _ => "sendMessage(bytes)"
  | receiveMessage _ => "receiveMessage(bytes)"
  | redeemTokens _ => "redeemTokensWithPayload(bytes)"
  | sendTokens .. => "sendTokensWithPayload(address,uint256,uint16,bytes32,uint32)"
  | registerEmitter .. => "registerEmitter(uint16,bytes32)"
  | registeredEmitter _ => "getRegisteredEmitter(uint16)"
  | messageFee => "messageFee()"
  | isTransferCompleted _ => "isTransferCompleted(bytes32)"
  | isMessageConsumed _ => "isMessageConsumed(bytes32)"
  | balanceOf _ => "balanceOf(address)"
  | allowance .. => "allowance(address,address)"

/-- The arguments of a call. -/
def arguments : Call → Arguments
  | sendMessage b | receiveMessage b | redeemTokens b => .bytes b
  | sendTokens token amount chain recipient batch =>
    .words [Word.ofAddress token, Word.ofNat amount, Word.ofNat chain.toNat, recipient.bytes,
      Word.ofNat batch.toNat]
  | registerEmitter chain emitter => .words [Word.ofNat chain.toNat, emitter.bytes]
  | registeredEmitter chain => .words [Word.ofNat chain.toNat]
  | messageFee => .words []
  | isTransferCompleted digest | isMessageConsumed digest => .words [digest]
  | balanceOf owner => .words [Word.ofAddress owner]
  | allowance owner spender => .words [Word.ofAddress owner, Word.ofAddress spender]

/-- The data of a call. -/
def encode (call : Call) : Bytes := selector call.signature ++ call.arguments.encode

end Call

/-- The word at an index of what a call returned. -/
def word (data : Bytes) (index : Nat) : Except RpcFault Word :=
  match FixedBytes.ofList? ((data.drop (index * wordLength)).take wordLength) with
  | some w => .ok w
  | none => .error (.noWord index data.length)

/-- The number at an index of what a call returned, which has to fit 128 bits. -/
def number (data : Bytes) (index : Nat) : Except RpcFault Nat := do
  let w ← word data index
  if Bytes.allZero (w.toList.take 16) then .ok (Bytes.toNatBE (w.toList.drop 16))
  else .error (.wideWord index)

/-- The truth value that a call returned. -/
def truth (data : Bytes) : Except RpcFault Bool := do
  return (← number data 0) != 0

end GuardianRelay.Evm
