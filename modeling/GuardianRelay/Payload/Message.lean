import GuardianRelay.Address
import GuardianRelay.Bytes.Cursor

/-!
# Messages

The messenger's payloads: one announces the program, one carries data of limited length. The greeting is what the
token integration attaches to a transfer, to say for whom it is. A reader of either ignores what follows.
-/

namespace GuardianRelay

/-- What a messenger puts into an attestation. -/
inductive MessengerMessage where
  /-- The program announces itself. -/
  | alive (program : Address)
  /-- The program passes data on. -/
  | data (payload : Bytes)
deriving DecidableEq

namespace MessengerMessage

/-- The longest data that a message carries. -/
def maxLength : Nat := 1024

/-- The written form, unless the data is too long. -/
def encode : MessengerMessage → Except ParseError Bytes
  | alive program => .ok (0 :: program.toList)
  | data payload =>
    if maxLength < payload.length then .error (.payloadTooLarge payload.length)
    else .ok (1 :: Bytes.bigEndian 2 payload.length ++ payload)

/-- Reads a message. -/
def decoder : Decoder MessengerMessage := do
  let type ← Decoder.uint8
  if type = 0 then
    return alive ⟨← Decoder.fixed 32⟩
  else if type = 1 then
    let length := (← Decoder.uint16).toNat
    if maxLength < length then throw (.payloadTooLarge length)
    return data (← Decoder.take length)
  else throw (.unknownPayloadType type)

/-- Reads a message from its written form. -/
def decode (b : Bytes) : Except ParseError MessengerMessage := decoder.decode b

end MessengerMessage

/-- What the token integration attaches to a transfer: who is to receive the tokens. -/
structure Greeting where
  recipient : Address
deriving DecidableEq

namespace Greeting

/-- The type byte. -/
def typeByte : UInt8 := 1

/-- The written form. -/
def encode (g : Greeting) : Bytes := typeByte :: g.recipient.toList

/-- Reads a greeting. -/
def decoder : Decoder Greeting := do
  let type ← Decoder.uint8
  if type = typeByte then return ⟨⟨← Decoder.fixed 32⟩⟩
  else throw (.unknownPayloadType type)

/-- Reads a greeting from its written form. -/
def decode (b : Bytes) : Except ParseError Greeting := decoder.decode b

end Greeting

end GuardianRelay
