import GuardianRelay.Attestation
import GuardianRelay.Config
import GuardianRelay.Endpoint
import GuardianRelay.Evm.Envelope
import GuardianRelay.Evm.Node
import GuardianRelay.Payload.Message
import GuardianRelay.Payload.TokenTransfer
import GuardianRelay.Polling

/-!
# Endpoints on contract-model chains

An endpoint drives a contract: a messenger, or an integration with a token bridge. Before anything is submitted the
call is simulated, and a call that would revert is not submitted; the account has to hold what the call can cost. A
contract delivers an attestation once, and a call that comes second fails in one of several ways, depending on when
the first one landed: in each of them the endpoint says that the attestation was redeemed already.
-/

namespace GuardianRelay.Evm

/-- What the contract of an endpoint is for. -/
inductive Role where
  /-- It passes messages on, and publishes them itself. -/
  | messenger
  /-- It sends and redeems tokens; a token bridge publishes for it. -/
  | tokens (bridge : EvmAddress)
deriving DecidableEq

/-- An endpoint on a contract-model chain. -/
structure Endpoint where
  chain : ChainId
  role : Role
  /-- The contract through which messages are published. -/
  core : EvmAddress
  /-- The contract that the endpoint drives. -/
  program : EvmAddress
  /-- The account that pays and signs. -/
  sender : EvmAddress
  signer : Signer
  settings : TransactionSettings
  /-- The account is the signer's. -/
  signer_address : signer.address.evm? = some sender

namespace Endpoint

/-- The role that a configuration gives its contract. -/
def roleOf (config : ChainConfig) : Outcome Role :=
  match config.mode, config.tokenBridgeAddress with
  | .messenger, _ => .ok .messenger
  | .tokenBridge, none => .error (.config (.noTokenBridge config.name))
  | .tokenBridge, some text => (Outcome.ofAddress (EvmAddress.ofHex text)).map .tokens

/-- The endpoint of a configured chain. -/
def ofConfig (config : ChainConfig) (settings : TransactionSettings) (signer : Signer) : Outcome Endpoint := do
  if config.family ≠ .evm then throw (.config (.notEvm config.name))
  let role ← roleOf config
  match h : signer.address.evm? with
  | none => throw (.signing .signerNotEvm)
  | some sender =>
    let core ← Outcome.ofAddress (EvmAddress.ofHex config.coreAddress)
    let program ← Outcome.ofAddress (EvmAddress.ofHex config.programAddress)
    return { chain := config.chain, role, core, program, sender, signer, settings, signer_address := h }

/-- Who publishes the endpoint's messages. -/
def emitter (endpoint : Endpoint) : Address :=
  match endpoint.role with
  | .messenger => Address.ofEvm endpoint.program
  | .tokens bridge => Address.ofEvm bridge

/-- What other chains register for the endpoint. -/
def address (endpoint : Endpoint) : Address := Address.ofEvm endpoint.program

/-! ### Transactions -/

/-- The gas limit of a call that was estimated: half as much again, within 64 bits before the division. -/
def scaledGas (estimate : UInt64) : UInt64 := UInt64.ofNat (min (estimate.toNat * 150) (UInt64.size - 1) / 100)

/-- The gas limit of a call. A call that would revert has none; where the estimate fails otherwise, the limit is the
one of the settings. -/
def gasLimit (endpoint : Endpoint) (contract : EvmAddress) (data : Bytes) (value : Nat) : Action UInt64 := do
  match ← (Action.estimateGas endpoint.sender contract data value).attempt with
  | .ok estimate => return scaledGas estimate
  | .error error =>
    if error.rpcText?.any saysReverted then throw error
    return endpoint.settings.defaultGasLimit

/-- Signs a call with the next number of the account and hands it in. Nobody else uses the account in between. -/
def submit (endpoint : Endpoint) (transaction : UnsignedTransaction) (gasPrice : Nat) (networkId : UInt64) :
    Action TxId :=
  Action.locked do
    let nonce ← Action.transactionCount endpoint.sender
    let signed ← Program.ofOutcome
      (Outcome.ofSigned (signLegacy endpoint.signer transaction { nonce, gasPrice, networkId }))
    Action.submit signed

/-- Asks for a receipt at most so many times, in the intervals of the settings, and until the settings' time is over.
A transaction that failed is an error. -/
def pollReceipt (endpoint : Endpoint) (tx : TxId) (start : Nat) : Nat → Action Receipt
  | 0 => throw (.rpc (.unconfirmed tx endpoint.settings.confirmationSeconds))
  | polls + 1 => do
    match ← Action.receipt tx with
    | some receipt => if receipt.succeeded then return receipt else throw (.rpc (.reverted tx))
    | none =>
      if endpoint.settings.confirmationMillis ≤ (← Action.now) - start then
        throw (.rpc (.unconfirmed tx endpoint.settings.confirmationSeconds))
      Action.sleep endpoint.settings.receiptPollMillis.toNat
      pollReceipt endpoint tx start polls

/-- Waits for the receipt of a transaction. The wait does not run out of polls before its time is over. -/
def awaitReceipt (endpoint : Endpoint) (tx : TxId) : Action Receipt := do
  let start ← Action.now
  endpoint.pollReceipt tx start
    (pollLimit endpoint.settings.receiptPollMillis.toNat endpoint.settings.confirmationMillis)

/-- What the account has to hold for a call: the value, and the price of all the gas. It is counted in 128 bits, and
what goes beyond them is lost. -/
def callCost (value : Nat) (limit : UInt64) (gasPrice : Nat) : Nat :=
  (BitVec.ofNat 128 (value + limit.toNat * gasPrice)).toNat

/-- Simulates a call, checks that the account can pay for it, submits it and waits for its receipt. -/
def execute (endpoint : Endpoint) (call : Call) (value : Nat) : Action Receipt := do
  let data := call.encode
  let limit ← endpoint.gasLimit endpoint.program data value
  let gasPrice ← Action.gasPrice
  let need := callCost value limit gasPrice
  let held ← Action.balance endpoint.sender
  if held < need then throw (.insufficientFunds need held)
  let networkId ← Action.networkId
  let transaction := UnsignedTransaction.call endpoint.chain endpoint.program data value limit
  let tx ← endpoint.submit transaction gasPrice networkId
  endpoint.awaitReceipt tx

/-! ### Sending -/

/-- What publishing a message costs. -/
def messageFee (endpoint : Endpoint) : Action Nat := Action.callNumber endpoint.core .messageFee

/-- Makes a call that publishes a message, and reads the message's number from the receipt. -/
def publish (endpoint : Endpoint) (call : Call) : Action SendReceipt := do
  let fee ← endpoint.messageFee
  let receipt ← endpoint.execute call fee
  let sequence ← Program.ofOutcome (Outcome.ofRpc (receipt.sequence endpoint.core))
  return { sequence, emitter := endpoint.emitter, tx := receipt.hash }

/-- Sends a message. -/
def sendMessage (endpoint : Endpoint) (payload : Bytes) : Action SendReceipt := do
  let _ ← Program.ofOutcome (Outcome.ofParsed (MessengerMessage.data payload).encode)
  endpoint.publish (.sendMessage payload)

/-- Sends tokens, of which the account has to hold enough, and of which the contract has to be allowed to take
enough. -/
def sendTokens (endpoint : Endpoint) (token : Address) (amount : UInt64) (recipientChain : ChainId)
    (recipient : Address) (batch : UInt32) : Action SendReceipt := do
  if let .error fault := checkRecipient endpoint.chain recipientChain recipient then throw (.invalidRecipient fault)
  if amount = 0 then throw .zeroAmount
  let some contract := token.evm? | throw (.config (.tokenNotEvm token))
  let need := amount.toNat
  let held ← Action.callNumber contract (.balanceOf endpoint.sender)
  if held < need then throw (.insufficientFunds need held)
  let approved ← Action.callNumber contract (.allowance endpoint.sender endpoint.program)
  if approved < need then throw (.insufficientAllowance need approved)
  endpoint.publish (.sendTokens contract need recipientChain recipient batch)

/-- Sends what a caller wants moved, if the contract is for that. -/
def send (endpoint : Endpoint) (intent : Intent) : Action SendReceipt :=
  match endpoint.role, intent with
  | .messenger, .message payload => endpoint.sendMessage payload
  | .tokens _, .tokens token amount recipientChain recipient batch =>
    endpoint.sendTokens token amount recipientChain recipient batch
  | .messenger, .tokens .. => throw (.config (.messengerCannotSendTokens "contract"))
  | .tokens _, .message _ => throw (.config (.tokenBridgeCannotSendMessages "contract"))

/-! ### Redeeming -/

/-- Whether an attestation was redeemed. -/
def isRedeemed (endpoint : Endpoint) (a : Attestation) : Action Bool := do
  let data ← match endpoint.role with
    | .messenger => Action.call endpoint.program (.isMessageConsumed a.digest)
    | .tokens bridge => Action.call bridge (.isTransferCompleted a.digest)
  Program.ofOutcome (Outcome.ofRpc (truth data))

/-- The call that redeems an attestation, if its payload is for this contract. -/
def redeemCall (endpoint : Endpoint) (a : Attestation) : Outcome Call := do
  let encoded ← Outcome.ofParsed a.encode
  match endpoint.role with
  | .messenger =>
    let _ ← Outcome.ofParsed (MessengerMessage.decode a.payload)
    return .receiveMessage encoded
  | .tokens _ =>
    let transfer ← Outcome.ofParsed (TokenTransfer.decode a.payload)
    if transfer.recipientChain ≠ endpoint.chain then
      throw (.invalidRecipient (.wrongTarget transfer.recipientChain endpoint.chain))
    return .redeemTokens encoded

/-- Redeems an attestation. A transaction that failed may have come second: a failure that says so, and any failure
after which the attestation turns out to be redeemed, means that somebody else redeemed it. -/
def redeem (endpoint : Endpoint) (a : Attestation) : Action TxId := do
  if ← endpoint.isRedeemed a then throw .alreadyRedeemed
  let call ← Program.ofOutcome (endpoint.redeemCall a)
  match ← (endpoint.execute call 0).attempt with
  | .ok receipt => return receipt.hash
  | .error error =>
    if error.rpcText?.any saysDuplicateRedeem then throw .alreadyRedeemed
    match ← (endpoint.isRedeemed a).attempt with
    | .ok true => throw .alreadyRedeemed
    | _ => throw error

/-! ### Registering -/

/-- The endpoint that is registered for another chain; the zero address stands for none. -/
def registered (endpoint : Endpoint) (foreign : ChainId) : Action (Option Address) := do
  let data ← Action.call endpoint.program (.registeredEmitter foreign)
  let held ← Program.ofOutcome (Outcome.ofRpc (word data 0))
  let address : Address := ⟨held⟩
  return if address.isZero then none else some address

/-- Registers the endpoint of another chain, unless it is registered already. -/
def register (endpoint : Endpoint) (foreign : ChainId) (address : Address) : Action Registration := do
  if let .error fault := checkForeignEndpoint endpoint.chain foreign address then
    throw (.invalidForeignEndpoint fault)
  if ! registrationNeeded (← endpoint.registered foreign) address then return .unchanged
  match ← (endpoint.execute (.registerEmitter foreign address) 0).attempt with
  | .ok receipt => return .submitted receipt.hash
  | .error error =>
    if error.rpcText?.any saysDuplicateRegistration then return .unchanged
    throw error

end Endpoint

end GuardianRelay.Evm
