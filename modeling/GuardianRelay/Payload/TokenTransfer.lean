import GuardianRelay.Address
import GuardianRelay.Amount
import GuardianRelay.Bytes.Cursor

/-!
# Token transfers

What a token bridge puts into an attestation. A transfer of type 1 pays the one who redeems it and has a fixed width;
a transfer of type 3 names the contract that sent it and ends in a payload of that contract's own. Amounts are
already cut to what bridges carry; they are read and written as they are.
-/

namespace GuardianRelay

/-- What distinguishes the two kinds of transfer. -/
inductive TransferKind where
  /-- Type 1, with the fee for the one who redeems. -/
  | withFee (fee : Amount)
  /-- Type 3, with the sending contract and its payload. -/
  | withPayload (sender : Address) (payload : Bytes)
deriving DecidableEq

/-- A transfer of tokens between chains. -/
structure TokenTransfer where
  amount : Amount
  /-- The token, on the chain that it comes from. -/
  token : Address
  tokenChain : ChainId
  recipient : Address
  recipientChain : ChainId
  kind : TransferKind
deriving DecidableEq

namespace TokenTransfer

/-- The type byte of a transfer with a fee. -/
def feeType : UInt8 := 1

/-- The type byte of a transfer with a payload. -/
def payloadType : UInt8 := 3

/-- The type byte. -/
def typeByte (t : TokenTransfer) : UInt8 :=
  match t.kind with
  | .withFee _ => feeType
  | .withPayload .. => payloadType

/-- The sending contract's payload. -/
def senderPayload? (t : TokenTransfer) : Option Bytes :=
  match t.kind with
  | .withFee _ => none
  | .withPayload _ payload => some payload

/-- The written form. -/
def encode (t : TokenTransfer) : Bytes :=
  t.typeByte :: t.amount.bytes.toList ++ t.token.toList ++ Bytes.bigEndian 2 t.tokenChain.toNat
    ++ t.recipient.toList ++ Bytes.bigEndian 2 t.recipientChain.toNat
    ++ match t.kind with
      | .withFee fee => fee.bytes.toList
      | .withPayload sender payload => sender.toList ++ payload

/-- Reads what distinguishes the kinds; after a fee nothing may follow. -/
def kindDecoder (type : UInt8) : Decoder TransferKind := do
  if type = feeType then
    let fee ← Decoder.fixed 32
    let surplus ← Decoder.remaining
    if surplus ≠ 0 then throw (.trailingBytes surplus)
    return .withFee ⟨fee⟩
  else
    let sender ← Decoder.fixed 32
    return .withPayload ⟨sender⟩ (← Decoder.rest)

/-- Reads a transfer. An unknown type is noticed before anything else. -/
def decoder : Decoder TokenTransfer := do
  let type ← Decoder.uint8
  if type ≠ feeType ∧ type ≠ payloadType then throw (.unknownPayloadType type)
  let amount ← Decoder.fixed 32
  let token ← Decoder.fixed 32
  let tokenChain ← Decoder.uint16
  let recipient ← Decoder.fixed 32
  let recipientChain ← Decoder.uint16
  let kind ← kindDecoder type
  return { amount := ⟨amount⟩, token := ⟨token⟩, tokenChain, recipient := ⟨recipient⟩, recipientChain, kind }

/-- Reads a transfer from its written form. -/
def decode (b : Bytes) : Except ParseError TokenTransfer := decoder.decode b

end TokenTransfer

end GuardianRelay
