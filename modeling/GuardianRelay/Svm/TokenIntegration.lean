import GuardianRelay.Svm.CoreBridge

/-!
# The token integration

The program that sends tokens through a token bridge and redeems transfers that arrive there, and the instructions
that it takes. A mint is either native, and then the bridge holds tokens of it in custody, or wrapped, and then the
bridge mints them. A transfer that was redeemed leaves a claim behind, so that it is redeemed once.
-/

namespace GuardianRelay.Svm

/-- Tokens that leave for another chain. -/
structure OutboundTransfer where
  mint : Address
  /-- Whether the bridge mints the tokens. -/
  wrapped : Bool
  batch : UInt32
  amount : UInt64
  recipient : Address
  recipientChain : ChainId
deriving DecidableEq

/-- The accounts of an integration and of the token bridge that it drives. -/
structure TokenIntegration where
  program : Address
  bridge : Address
  senderConfig : Address
  redeemerConfig : Address
  bridgeConfig : Address
  authoritySigner : Address
  custodySigner : Address
  mintAuthority : Address
  emitter : Address
  /-- The next sequence of the emitter. -/
  tracker : Address
  core : CoreBridge
deriving DecidableEq

namespace TokenIntegration

/-- The accounts of an integration over a token bridge and a core bridge. -/
def derive (program bridge coreProgram : Address) : Except DeriveError TokenIntegration := do
  let emitter ← ProgramAccount.emitter.address bridge
  return { program, bridge, emitter,
           senderConfig := ← ProgramAccount.senderConfig.address program,
           redeemerConfig := ← ProgramAccount.redeemerConfig.address program,
           bridgeConfig := ← ProgramAccount.config.address bridge,
           authoritySigner := ← ProgramAccount.authoritySigner.address bridge,
           custodySigner := ← ProgramAccount.custodySigner.address bridge,
           mintAuthority := ← ProgramAccount.mintAuthority.address bridge,
           tracker := ← (ProgramAccount.sequenceTracker emitter).address coreProgram,
           core := ← CoreBridge.derive coreProgram }

/-- The program's record of another chain's contract. -/
def foreignContract (integration : TokenIntegration) (chain : ChainId) : Except DeriveError Address :=
  (ProgramAccount.foreignContract chain).address integration.program

/-- What sending tokens says. -/
def sendData (transfer : OutboundTransfer) : Bytes :=
  instructionMark (if transfer.wrapped then "send_wrapped_tokens_with_payload" else "send_native_tokens_with_payload")
    ++ Bytes.littleEndian 4 transfer.batch.toNat ++ Bytes.littleEndian 8 transfer.amount.toNat
    ++ transfer.recipient.toList ++ Bytes.littleEndian 2 transfer.recipientChain.toNat

/-- Sends tokens. The seed names the account of the message that the bridge publishes. -/
def send (integration : TokenIntegration) (chain : ChainId) (payer : Address) (transfer : OutboundTransfer)
    (seed : UInt64) : Except DeriveError UnsignedTransaction := do
  let contract ← integration.foreignContract transfer.recipientChain
  let payerTokens ← AssociatedToken.address payer transfer.mint
  let passing ← (ProgramAccount.temporaryToken transfer.mint).address integration.program
  let ofMint ←
    if transfer.wrapped then do
      let wrappedMeta ← (ProgramAccount.wrappedMeta transfer.mint).address integration.bridge
      Except.ok [AccountUse.readonly wrappedMeta, .readonly integration.authoritySigner]
    else do
      let custody ← (ProgramAccount.custody transfer.mint).address integration.bridge
      Except.ok [AccountUse.writable custody, .readonly integration.authoritySigner,
        .readonly integration.custodySigner]
  let message ← (ProgramAccount.bridgedMessage seed).address integration.program
  let accounts : List AccountUse :=
    [.signer payer, .readonly integration.senderConfig, .readonly contract, .writable transfer.mint,
      .writable payerTokens, .writable passing, .readonly integration.core.program, .readonly integration.bridge,
      .readonly integration.bridgeConfig]
    ++ ofMint
    ++ [.writable integration.core.account, .writable message, .writable integration.emitter,
      .writable integration.tracker, .writable integration.core.feeCollector, .readonly systemProgram,
      .readonly tokenProgram, .readonly associatedTokenProgram, .readonly clockAccount, .readonly rentAccount]
  return .instruction chain integration.program (sendData transfer) accounts

/-- The claim of a transfer that was redeemed. -/
def claim (integration : TokenIntegration) (a : Attestation) : Except DeriveError Address :=
  (ProgramAccount.claim a.emitter a.emitterChain a.sequence).address integration.bridge

/-- What redeeming a transfer says. -/
def redeemData (wrapped : Bool) (a : Attestation) : Bytes :=
  instructionMark (if wrapped then "redeem_wrapped_transfer_with_payload" else "redeem_native_transfer_with_payload")
    ++ a.messageHash.toList

/-- Redeems a transfer whose attestation was posted, in tokens of a mint, for a recipient. `foreignEndpoint` is the
bridge's registration of the emitter. -/
def redeem (integration : TokenIntegration) (chain : ChainId) (payer : Address) (a : Attestation) (mint : Address)
    (wrapped : Bool) (recipient foreignEndpoint : Address) : Except DeriveError UnsignedTransaction := do
  let payerTokens ← AssociatedToken.address payer mint
  let contract ← integration.foreignContract a.emitterChain
  let recipientTokens ← AssociatedToken.address recipient mint
  let passing ← (ProgramAccount.temporaryToken mint).address integration.program
  let posted ← integration.core.posted a
  let claim ← integration.claim a
  let ofMint ←
    if wrapped then do
      let wrappedMeta ← (ProgramAccount.wrappedMeta mint).address integration.bridge
      Except.ok [AccountUse.readonly wrappedMeta, .readonly integration.mintAuthority]
    else do
      let custody ← (ProgramAccount.custody mint).address integration.bridge
      Except.ok [AccountUse.writable custody, .readonly integration.custodySigner]
  let accounts : List AccountUse :=
    [.signer payer, .writable payerTokens, .readonly integration.redeemerConfig, .readonly contract, .writable mint,
      .writable recipientTokens, .writable recipient, .writable passing, .readonly integration.core.program,
      .readonly integration.bridge, .readonly integration.bridgeConfig, .readonly posted, .writable claim,
      .readonly foreignEndpoint]
    ++ ofMint
    ++ [.readonly systemProgram, .readonly tokenProgram, .readonly associatedTokenProgram, .readonly rentAccount]
  return .instruction chain integration.program (redeemData wrapped a) accounts

/-- Registers the contract of another chain, whose token bridge has to be the one that the token bridge here knows. -/
def register (integration : TokenIntegration) (chain : ChainId) (owner : Address) (foreign : ChainId)
    (contract foreignBridge : Address) : Except DeriveError UnsignedTransaction := do
  let record ← integration.foreignContract foreign
  let endpoint ← (ProgramAccount.endpointRegistration foreign foreignBridge).address integration.bridge
  return .instruction chain integration.program
    (instructionMark "register_foreign_contract" ++ Bytes.littleEndian 2 foreign.toNat ++ contract.toList)
    [.signer owner, .readonly integration.senderConfig, .writable record, .readonly endpoint,
      .readonly integration.bridge, .readonly systemProgram]

end TokenIntegration

end GuardianRelay.Svm
