import GuardianRelay.Derivation

/-!
# The accounts of the programs

Each account that the client uses has an owner, the program that it is derived from, and seeds. `ProgramAccount`
names the accounts by what they hold; `ProgramAccount.seeds` is the table of their seeds. The messenger and the
integration write numbers in seeds least significant byte first, the bridges most significant byte first.
-/

namespace GuardianRelay

/-- A derived account of one of the programs. -/
inductive ProgramAccount where
  /-- The configuration of the messenger or of the token bridge. -/
  | config
  /-- Who publishes messages of the program. -/
  | emitter
  /-- The messenger's record of another chain's emitter. -/
  | foreignEmitter (chain : ChainId)
  /-- The messenger's record of a message that it received. -/
  | received (chain : ChainId) (sequence : UInt64)
  /-- The message account of a message that the messenger sent. -/
  | sentMessage (sequence : UInt64)
  /-- The integration's configuration for sending. -/
  | senderConfig
  /-- The integration's configuration for redeeming. -/
  | redeemerConfig
  /-- The integration's record of another chain's contract. -/
  | foreignContract (chain : ChainId)
  /-- The message account of a transfer that the integration sent. -/
  | bridgedMessage (sequence : UInt64)
  /-- The token account through which a transfer of a mint passes. -/
  | temporaryToken (mint : Address)
  /-- The core bridge's own account. -/
  | coreBridge
  /-- Where the core bridge collects fees. -/
  | feeCollector
  /-- The next sequence of an emitter. -/
  | sequenceTracker (publisher : Address)
  /-- An attestation posted to the core bridge. -/
  | postedAttestation (messageHash : Hash256)
  /-- A guardian set. -/
  | guardianSet (index : UInt32)
  /-- Who moves tokens on behalf of their owner. -/
  | authoritySigner
  /-- Who moves tokens in custody. -/
  | custodySigner
  /-- Who mints wrapped tokens. -/
  | mintAuthority
  /-- The custody account of a native mint. -/
  | custody (mint : Address)
  /-- The mint of another chain's token. -/
  | wrappedMint (chain : ChainId) (token : Address)
  /-- What a wrapped mint wraps; only mints of the bridge have one. -/
  | wrappedMeta (mint : Address)
  /-- The bridge's record of a transfer that was redeemed. -/
  | claim (publisher : Address) (chain : ChainId) (sequence : UInt64)
  /-- The bridge's registration of another chain's bridge. -/
  | endpointRegistration (chain : ChainId) (bridge : Address)
deriving DecidableEq

namespace ProgramAccount

/-- The seeds of an account. -/
def seeds : ProgramAccount → List Bytes
  | config => [Bytes.ofText "config"]
  | emitter => [Bytes.ofText "emitter"]
  | foreignEmitter chain => [Bytes.ofText "foreign_emitter", Bytes.littleEndian 2 chain.toNat]
  | received chain sequence =>
    [Bytes.ofText "received", Bytes.littleEndian 2 chain.toNat, Bytes.littleEndian 8 sequence.toNat]
  | sentMessage sequence => [Bytes.ofText "sent", Bytes.littleEndian 8 sequence.toNat]
  | senderConfig => [Bytes.ofText "sender"]
  | redeemerConfig => [Bytes.ofText "redeemer"]
  | foreignContract chain => [Bytes.ofText "foreign_contract", Bytes.littleEndian 2 chain.toNat]
  | bridgedMessage sequence => [Bytes.ofText "bridged", Bytes.littleEndian 8 sequence.toNat]
  | temporaryToken mint => [Bytes.ofText "tmp", mint.toList]
  | coreBridge => [Bytes.ofText "Bridge"]
  | feeCollector => [Bytes.ofText "fee_collector"]
  | sequenceTracker publisher => [Bytes.ofText "Sequence", publisher.toList]
  | postedAttestation messageHash => [Bytes.ofText "PostedVAA", messageHash.toList]
  | guardianSet index => [Bytes.ofText "GuardianSet", Bytes.bigEndian 4 index.toNat]
  | authoritySigner => [Bytes.ofText "authority_signer"]
  | custodySigner => [Bytes.ofText "custody_signer"]
  | mintAuthority => [Bytes.ofText "mint_signer"]
  | custody mint => [mint.toList]
  | wrappedMint chain token => [Bytes.ofText "wrapped", Bytes.bigEndian 2 chain.toNat, token.toList]
  | wrappedMeta mint => [Bytes.ofText "meta", mint.toList]
  | claim publisher chain sequence =>
    [publisher.toList, Bytes.bigEndian 2 chain.toNat, Bytes.bigEndian 8 sequence.toNat]
  | endpointRegistration chain bridge => [Bytes.bigEndian 2 chain.toNat, bridge.toList]

/-- The address of an account of a program, with a hash and a test for points. -/
def addressWith (d : Derivation) (account : ProgramAccount) (program : Address) : Except DeriveError Address :=
  d.derive program account.seeds

/-- The address of an account of a program. -/
def address (account : ProgramAccount) (program : Address) : Except DeriveError Address :=
  account.addressWith Derivation.standard program

end ProgramAccount

/-- The program that owns token accounts. -/
def tokenProgram : Address := Address.ofNative
  [6, 221, 246, 225, 215, 101, 161, 147, 217, 203, 225, 70, 206, 235, 121, 172, 28, 180, 133, 237, 95, 91, 55, 145,
   58, 140, 245, 133, 126, 255, 0, 169]

/-- The program that derives an owner's token account from owner and mint. -/
def associatedTokenProgram : Address := Address.ofNative
  [140, 151, 37, 143, 78, 36, 137, 241, 187, 61, 16, 41, 20, 142, 13, 131, 11, 90, 19, 153, 218, 255, 16, 132, 4,
   142, 123, 216, 219, 233, 248, 89]

namespace AssociatedToken

/-- The seeds of an owner's account for a mint. -/
def seeds (owner mint : Address) : List Bytes := [owner.toList, tokenProgram.toList, mint.toList]

/-- An owner's account for a mint, with a hash and a test for points. -/
def addressWith (d : Derivation) (owner mint : Address) : Except DeriveError Address :=
  d.derive associatedTokenProgram (seeds owner mint)

/-- An owner's account for a mint. -/
def address (owner mint : Address) : Except DeriveError Address := addressWith Derivation.standard owner mint

end AssociatedToken

end GuardianRelay
