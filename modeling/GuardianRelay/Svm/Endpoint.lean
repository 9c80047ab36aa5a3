import GuardianRelay.Amount
import GuardianRelay.Config
import GuardianRelay.Endpoint
import GuardianRelay.Payload.Message
import GuardianRelay.Payload.TokenTransfer
import GuardianRelay.Svm.Message
import GuardianRelay.Svm.Messenger
import GuardianRelay.Svm.Node
import GuardianRelay.Svm.TokenIntegration

/-!
# Endpoints on account-model chains

An endpoint drives a program: a messenger, or an integration with a token bridge. The number of a message that was
sent is the one that the chain logged, not the one that the tracker promised beforehand, which somebody else may have
taken. To redeem an attestation it is posted to the core bridge, unless it was posted before, and then delivered.
-/

namespace GuardianRelay.Svm

/-- What the program of an endpoint is for. -/
inductive Role where
  /-- It passes messages on. -/
  | messenger (program : Messenger)
  /-- It sends and redeems tokens. -/
  | tokens (program : TokenIntegration)
deriving DecidableEq

/-- An endpoint on an account-model chain. -/
structure Endpoint where
  chain : ChainId
  role : Role
  signer : Signer
  /-- The token bridges of other chains, the latest first. -/
  foreignBridges : List (ChainId × Address)

namespace Endpoint

/-- The program that a configuration names, with its accounts. -/
def roleOf (config : ChainConfig) (program core : Address) : Outcome Role :=
  match config.mode, config.tokenBridgeAddress with
  | .messenger, _ => (Outcome.ofDerived (Messenger.derive program core)).map .messenger
  | .tokenBridge, none => .error (.config (.noTokenBridge config.name))
  | .tokenBridge, some text => do
    let bridge ← Outcome.ofAddress (Address.ofBase58 text)
    return .tokens (← Outcome.ofDerived (TokenIntegration.derive program bridge core))

/-- The endpoint of a configured chain. -/
def ofConfig (config : ChainConfig) (signer : Signer) : Outcome Endpoint := do
  if config.family ≠ .svm then throw (.config (.notSvm config.name))
  let program ← Outcome.ofAddress (Address.ofBase58 config.programAddress)
  let core ← Outcome.ofAddress (Address.ofBase58 config.coreAddress)
  return { chain := config.chain, role := ← roleOf config program core, signer, foreignBridges := [] }

/-- Tells the endpoint the token bridge of another chain. -/
def withForeignBridge (endpoint : Endpoint) (foreign : ChainId) (bridge : Address) : Endpoint :=
  { endpoint with foreignBridges := (foreign, bridge) :: endpoint.foreignBridges }

/-- The account that pays and signs. -/
def payer (endpoint : Endpoint) : Address := endpoint.signer.address

/-- Who publishes the endpoint's messages. -/
def emitter (endpoint : Endpoint) : Address :=
  match endpoint.role with
  | .messenger program => program.emitter
  | .tokens program => program.emitter

/-- What other chains register for the endpoint: who publishes its messages. -/
def address (endpoint : Endpoint) : Address := endpoint.emitter

/-! ### Transactions -/

/-- Signs an instruction, hands it in and waits until it has landed. -/
def submit (endpoint : Endpoint) (transaction : UnsignedTransaction) : Action TxId := do
  let recentBlock ← Action.recentBlock
  let signed ← Program.ofOutcome (Outcome.ofSigned (signTransaction endpoint.signer transaction recentBlock))
  Action.submit signed

/-- Checks that the payer can pay what publishing and a signature cost. The sum is one of 64 bits, and what goes beyond
them is lost. -/
def checkLamports (endpoint : Endpoint) (core : CoreBridge) : Action Unit := do
  let fee ← Action.accountNumber core.account parseBridgeFee
  let need := fee + lamportsPerSignature
  let held ← Action.balance endpoint.payer
  if held < need then throw (.insufficientFunds need.toNat held.toNat)

/-! ### Sending -/

/-- Makes a message and reads its number from the log of the transaction. The tracker only names the account of the
message: it tells the number that comes next, if nobody else sends. -/
def publish (endpoint : Endpoint) (tracker : Address) (build : UInt64 → Except DeriveError UnsignedTransaction) :
    Action SendReceipt := do
  let provisional ← Action.accountNumber tracker parseTracker
  let transaction ← Action.derived (build (provisional + 1))
  let tx ← endpoint.submit transaction
  match sequenceOf? (← Action.log tx) with
  | some sequence => return { sequence, emitter := endpoint.emitter, tx }
  | none => throw (.rpc (.noSequence tx))

/-- Sends a message. -/
def sendMessage (endpoint : Endpoint) (program : Messenger) (payload : Bytes) : Action SendReceipt := do
  let _ ← Program.ofOutcome (Outcome.ofParsed (MessengerMessage.data payload).encode)
  endpoint.checkLamports program.core
  endpoint.publish program.tracker fun seed => program.send endpoint.chain endpoint.payer payload seed

/-- Sends tokens: of the amount, what a bridge can carry, of which the payer has to hold enough. -/
def sendTokens (endpoint : Endpoint) (program : TokenIntegration) (mint : Address) (amount : UInt64)
    (recipientChain : ChainId) (recipient : Address) (batch : UInt32) : Action SendReceipt := do
  if let .error fault := checkRecipient endpoint.chain recipientChain recipient then throw (.invalidRecipient fault)
  let some mintData ← Action.account mint | throw (.rpc (.mintMissing mint))
  let decimals ← Program.ofOutcome (Outcome.ofRpc (parseDecimals mintData))
  let truncated := Amount.truncate amount decimals
  if truncated = 0 then throw .zeroAmount
  let tokens ← Action.derived (AssociatedToken.address endpoint.payer mint)
  let held ← Action.accountNumber tokens parseTokenAmount
  if held < truncated then throw (.insufficientFunds truncated.toNat held.toNat)
  endpoint.checkLamports program.core
  let wrapped ← Action.accountExists (← Action.derived ((ProgramAccount.wrappedMeta mint).address program.bridge))
  let transfer : OutboundTransfer := { mint, wrapped, batch, amount := truncated, recipient, recipientChain }
  endpoint.publish program.tracker fun seed => program.send endpoint.chain endpoint.payer transfer seed

/-- Sends what a caller wants moved, if the program is for that. -/
def send (endpoint : Endpoint) (intent : Intent) : Action SendReceipt :=
  match endpoint.role, intent with
  | .messenger program, .message payload => endpoint.sendMessage program payload
  | .tokens program, .tokens mint amount recipientChain recipient batch =>
    endpoint.sendTokens program mint amount recipientChain recipient batch
  | .messenger _, .tokens .. => throw (.config (.messengerCannotSendTokens "program"))
  | .tokens _, .message _ => throw (.config (.tokenBridgeCannotSendMessages "program"))

/-! ### Redeeming -/

/-- The account that exists once an attestation is redeemed. -/
def replayRecord (endpoint : Endpoint) (a : Attestation) : Except DeriveError Address :=
  match endpoint.role with
  | .messenger program => program.received a
  | .tokens program => program.claim a

/-- Whether an attestation was redeemed. -/
def isRedeemed (endpoint : Endpoint) (a : Attestation) : Action Bool := do
  Action.accountExists (← Action.derived (endpoint.replayRecord a))

/-- The core bridge of the endpoint's program. -/
def core (endpoint : Endpoint) : CoreBridge :=
  match endpoint.role with
  | .messenger program => program.core
  | .tokens program => program.core

/-- The instruction that redeems a transfer, if the transfer is for this chain and says for whom it is. A token of
this chain comes out of custody, another chain's token is minted. -/
def redeemTransfer (endpoint : Endpoint) (program : TokenIntegration) (a : Attestation) :
    Outcome UnsignedTransaction := do
  let transfer ← Outcome.ofParsed (TokenTransfer.decode a.payload)
  if transfer.recipientChain ≠ endpoint.chain then
    throw (.invalidRecipient (.wrongTarget transfer.recipientChain endpoint.chain))
  let greeting ← Outcome.ofParsed (Greeting.decode (transfer.senderPayload?.getD []))
  let wrapped := transfer.tokenChain != endpoint.chain
  let mint ← if wrapped then
      Outcome.ofDerived ((ProgramAccount.wrappedMint transfer.tokenChain transfer.token).address program.bridge)
    else Except.ok transfer.token
  let foreignEndpoint ← Outcome.ofDerived
    ((ProgramAccount.endpointRegistration a.emitterChain a.emitter).address program.bridge)
  Outcome.ofDerived
    (program.redeem endpoint.chain endpoint.payer a mint wrapped greeting.recipient foreignEndpoint)

/-- The instruction that redeems an attestation, if its payload is for this program. -/
def redeemInstruction (endpoint : Endpoint) (a : Attestation) : Outcome UnsignedTransaction :=
  match endpoint.role with
  | .messenger program => do
    let _ ← Outcome.ofParsed (MessengerMessage.decode a.payload)
    Outcome.ofDerived (program.receive endpoint.chain endpoint.payer a)
  | .tokens program => endpoint.redeemTransfer program a

/-- Posts an attestation, unless it was posted; that somebody else posts it in the meantime is no failure. -/
def post (endpoint : Endpoint) (a : Attestation) : Action Unit := do
  if ← Action.accountExists (← Action.derived (endpoint.core.posted a)) then return
  let transaction ← Action.derived (endpoint.core.post endpoint.chain endpoint.payer a)
  match ← (endpoint.submit transaction).attempt with
  | .ok _ => return
  | .error error => if ! error.rpcText?.any saysInUse then throw error

/-- Redeems an attestation. -/
def redeem (endpoint : Endpoint) (a : Attestation) : Action TxId := do
  if ← endpoint.isRedeemed a then throw .alreadyRedeemed
  let transaction ← Program.ofOutcome (endpoint.redeemInstruction a)
  endpoint.post a
  match ← (endpoint.submit transaction).attempt with
  | .ok tx => return tx
  | .error error => if error.rpcText?.any saysInUse then throw .alreadyRedeemed else throw error

/-! ### Registering -/

/-- The account that records the endpoint of another chain. -/
def endpointRecord (endpoint : Endpoint) (foreign : ChainId) : Except DeriveError Address :=
  match endpoint.role with
  | .messenger program => (ProgramAccount.foreignEmitter foreign).address program.program
  | .tokens program => program.foreignContract foreign

/-- The endpoint that is registered for another chain. -/
def registered (endpoint : Endpoint) (foreign : ChainId) : Action (Option Address) := do
  let some data ← Action.account (← Action.derived (endpoint.endpointRecord foreign)) | return none
  let record ← Program.ofOutcome (Outcome.ofRpc (EndpointRecord.parse data))
  if record.chain ≠ foreign then throw (.rpc (.endpointChain foreign record.chain))
  return some record.address

/-- The instruction that registers the endpoint of another chain. -/
def registerInstruction (endpoint : Endpoint) (foreign : ChainId) (address : Address) : Outcome UnsignedTransaction :=
  match endpoint.role with
  | .messenger program => Outcome.ofDerived (program.register endpoint.chain endpoint.payer foreign address)
  | .tokens program =>
    match endpoint.foreignBridges.lookup foreign with
    | none => .error (.invalidForeignEndpoint (.unknownTokenBridge foreign))
    | some bridge => Outcome.ofDerived (program.register endpoint.chain endpoint.payer foreign address bridge)

/-- Registers the endpoint of another chain, unless it is registered already. -/
def register (endpoint : Endpoint) (foreign : ChainId) (address : Address) : Action Registration := do
  if let .error fault := checkForeignEndpoint endpoint.chain foreign address then
    throw (.invalidForeignEndpoint fault)
  if ! registrationNeeded (← endpoint.registered foreign) address then return .unchanged
  let transaction ← Program.ofOutcome (endpoint.registerInstruction foreign address)
  match ← (endpoint.submit transaction).attempt with
  | .ok tx => return .submitted tx
  | .error error => if error.rpcText?.any saysInUse then return .unchanged else throw error

end Endpoint

end GuardianRelay.Svm
