import GuardianRelay.Error
import GuardianRelay.Hash.Sha256
import GuardianRelay.Text.Search

/-!
# Accounts of an account-model chain

What the endpoint reads from accounts: numbers at fixed places, least significant byte first, and the records of
foreign endpoints. Programs mark their accounts and their instructions with the start of the hash of a name.
-/

namespace GuardianRelay.Svm

/-- The start of the hash of a name. -/
def discriminator (name : String) : Bytes := (Sha256.hash (Bytes.ofText name)).toList.take 8

/-- The mark of an instruction. -/
def instructionMark (name : String) : Bytes := discriminator ("global:" ++ name)

/-- The mark of an account. -/
def accountMark (name : String) : Bytes := discriminator ("account:" ++ name)

/-- The program that creates accounts. -/
def systemProgram : Address := Address.zero

/-- The account that tells the time. -/
def clockAccount : Address := Address.ofNative
  [6, 167, 213, 23, 24, 199, 116, 201, 40, 86, 99, 152, 105, 29, 94, 182, 139, 94, 184, 163, 155, 75, 109, 92, 115,
   85, 91, 33, 0, 0, 0, 0]

/-- The account that tells what accounts cost. -/
def rentAccount : Address := Address.ofNative
  [6, 167, 213, 23, 25, 44, 92, 81, 33, 140, 201, 76, 61, 74, 241, 127, 88, 218, 238, 8, 155, 161, 253, 68, 227,
   219, 217, 138, 0, 0, 0, 0]

/-- What a transaction costs for each of its signatures. -/
def lamportsPerSignature : UInt64 := 5000

/-- The 64-bit number at a place, if the data reaches that far. -/
def readUInt64? (data : Bytes) (offset : Nat) : Option UInt64 :=
  let octets := (data.drop offset).take 8
  if octets.length = 8 then some (UInt64.ofNat (Bytes.toNatLE octets)) else none

/-- The record of another chain's endpoint. -/
structure EndpointRecord where
  chain : ChainId
  address : Address
deriving DecidableEq

namespace EndpointRecord

/-- The least length of a record: the mark, the chain and the address. -/
def length : Nat := 42

/-- Reads a record; what follows it does not count, nor does the mark. -/
def parse (data : Bytes) : Except RpcFault EndpointRecord :=
  match FixedBytes.ofList? ((data.drop 10).take 32) with
  | some address => .ok ⟨UInt16.ofNat (Bytes.toNatLE ((data.drop 8).take 2)), ⟨address⟩⟩
  | none => .error (.endpointTooShort data.length length)

/-- The written form of a record in an account with some name. -/
def encode (record : EndpointRecord) (name : String) : Bytes :=
  accountMark name ++ Bytes.littleEndian 2 record.chain.toNat ++ record.address.toList

end EndpointRecord

/-- The next sequence, from an emitter's tracker. -/
def parseTracker (data : Bytes) : Except RpcFault UInt64 :=
  match readUInt64? data 0 with
  | some n => .ok n
  | none => .error .trackerTooShort

/-- What publishing costs, from the core bridge's account. -/
def parseBridgeFee (data : Bytes) : Except RpcFault UInt64 :=
  match readUInt64? data 16 with
  | some n => .ok n
  | none => .error .bridgeTooShort

/-- What a token account holds. -/
def parseTokenAmount (data : Bytes) : Except RpcFault UInt64 :=
  match readUInt64? data 64 with
  | some n => .ok n
  | none => .error .tokenAccountTooShort

/-- The decimals of a mint. -/
def parseDecimals (data : Bytes) : Except RpcFault UInt8 :=
  match data[44]? with
  | some decimals => .ok decimals
  | none => .error .mintTooShort

/-- The sequence that a line of a transaction's log tells: `Sequence: N`, or the first field `sequence=N` of
`MessagePublished: ...`. A line in which the number cannot be read tells none. -/
def lineSequence? (line : String) : Option UInt64 :=
  let line := (Text.after? "Program log: " line).getD line
  let number? (s : String) : Option UInt64 := (Integer.parse 64 s).toOption.map UInt64.ofNat
  match Text.after? "Sequence: " line with
  | some value => number? (Text.trim value)
  | none => do
    let fields ← Text.after? "MessagePublished: " line
    let value ← (Text.splitComma fields).findSome? (Text.after? "sequence=")
    number? value

/-- The sequence that a transaction's log tells. -/
def sequenceOf? (log : List String) : Option UInt64 := log.findSome? lineSequence?

/-- Whether a node says that an account exists already. -/
def saysInUse (text : String) : Bool := Text.contains "already in use" text

end GuardianRelay.Svm
