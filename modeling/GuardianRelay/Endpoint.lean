import GuardianRelay.Error

/-!
# Endpoints

An endpoint is a chain's end of the relay: it sends messages and transfers, redeems attestations, and knows the
endpoints of other chains. This module holds what is common to the endpoints of all chains: what is sent, what is
answered, and the rules for recipients and for foreign endpoints.
-/

namespace GuardianRelay

/-- What a caller wants moved. -/
inductive Intent where
  /-- A message. -/
  | message (payload : Bytes)
  /-- Tokens, in native decimals, for a recipient on another chain. -/
  | tokens (token : Address) (amount : UInt64) (recipientChain : ChainId) (recipient : Address) (batch : UInt32)
deriving DecidableEq

/-- What a chain says of a message that was sent. -/
structure SendReceipt where
  /-- The number that the chain gave the message. -/
  sequence : UInt64
  emitter : Address
  tx : TxId
deriving DecidableEq

/-- What became of a registration. -/
inductive Registration where
  /-- A transaction was submitted and landed. -/
  | submitted (tx : TxId)
  /-- The chain held the value already. -/
  | unchanged
deriving DecidableEq

/-- Checks that something can be sent from a chain to a recipient. -/
def checkRecipient (source recipientChain : ChainId) (recipient : Address) : Except RecipientFault Unit :=
  if recipientChain = 0 then .error .chainZero
  else if recipientChain = source then .error (.sourceChain recipientChain)
  else if recipient.isZero then .error .zeroAddress
  else .ok ()

/-- Checks that an address can be registered on a chain as the endpoint of another. -/
def checkForeignEndpoint (here foreign : ChainId) (address : Address) : Except EndpointFault Unit :=
  if foreign = 0 ∨ foreign = here then .error (.chain foreign here)
  else if address.isZero then .error .zeroAddress
  else .ok ()

/-- Whether registering an address would change what is held. -/
def registrationNeeded (held : Option Address) (requested : Address) : Bool := held ≠ some requested

end GuardianRelay
