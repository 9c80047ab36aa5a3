import GuardianRelay.Address
import GuardianRelay.Http.Url
import GuardianRelay.Json.Form
import GuardianRelay.ParseError
import GuardianRelay.Text.Base64
import GuardianRelay.Text.Integer

/-!
# What can go wrong in a relay

Every failure is a cause with its data; the wording of each kind of cause is one function. A collaborator that is
not modelled here, a node for instance, reports failures as texts: each kind has a constructor `reported` for
those.
-/

namespace GuardianRelay

/-- A transaction as its chain names it: a hash or a signature. -/
abbrev TxId := String

/-- Why seeds give no program address. -/
inductive DeriveError where
  /-- A seed is longer than seeds may be. -/
  | invalidSeed (index length : Nat)
  /-- There are more seeds than a derivation takes. -/
  | tooManySeeds (count : Nat)
  /-- The hash of the seeds is a point of the curve, so that a key for it may exist. -/
  | onCurve
  /-- Every bump gives a point of the curve. -/
  | noViableBump
deriving DecidableEq, Repr

/-- The name of a kind of derivation error. -/
def DeriveError.kind : DeriveError → String
  | .invalidSeed .. => "InvalidSeed"
  | .tooManySeeds _ => "TooManySeeds"
  | .onCurve => "OnCurve"
  | .noViableBump => "NoViableBump"

/-- The wording of a derivation error. -/
def DeriveError.message : DeriveError → String
  | .invalidSeed index length => s!"seed {index} is {length} bytes (max 32)"
  | .tooManySeeds count => s!"{count} seeds supplied (max 16)"
  | .onCurve => "derived address lies on the ed25519 curve"
  | .noViableBump => "no bump seed yields an off-curve address"

/-- How an attestation differs from the one that was awaited. -/
inductive Mismatch where
  | emitterChain (found awaited : ChainId)
  | emitter (found awaited : Address)
  | sequence (found awaited : UInt64)
  | reported (text : String)
deriving DecidableEq

/-- The wording of a mismatch. -/
def Mismatch.message : Mismatch → String
  | .emitterChain found awaited => s!"emitter chain {found} != {awaited}"
  | .emitter found awaited => s!"emitter {found} != {awaited}"
  | .sequence found awaited => s!"sequence {found} != {awaited}"
  | .reported text => text

/-- Why nothing can be sent to a recipient. -/
inductive RecipientFault where
  /-- Zero is no chain. -/
  | chainZero
  /-- The recipient is on the chain that sends. -/
  | sourceChain (chain : ChainId)
  /-- The zero address stands for nobody. -/
  | zeroAddress
  /-- A transfer arrived at a chain that it is not meant for. -/
  | wrongTarget (target here : ChainId)
  | reported (text : String)
deriving DecidableEq, Repr

/-- The wording of a recipient fault. -/
def RecipientFault.message : RecipientFault → String
  | .chainZero => "recipient chain 0"
  | .sourceChain chain => s!"recipient chain {chain} is the source chain"
  | .zeroAddress => "zero address"
  | .wrongTarget target here => s!"transfer targets chain {target}, not {here}"
  | .reported text => text

/-- Why an address cannot be registered as the endpoint of another chain. -/
inductive EndpointFault where
  /-- The chain is no chain, or the chain that would register it. -/
  | chain (foreign here : ChainId)
  /-- The zero address stands for no endpoint. -/
  | zeroAddress
  /-- The remote side of a pair is not the chain that was named. -/
  | wrongRemote (serves named : ChainId)
  /-- The foreign chain's token bridge, which the registration names, is not known. -/
  | unknownTokenBridge (foreign : ChainId)
  | reported (text : String)
deriving DecidableEq, Repr

/-- The wording of an endpoint fault. -/
def EndpointFault.message : EndpointFault → String
  | .chain foreign here => s!"chain {foreign} cannot be registered on chain {here}"
  | .zeroAddress => "zero address"
  | .wrongRemote serves named => s!"remote adapter serves chain {serves}, not {named}"
  | .unknownTokenBridge foreign => s!"no token bridge known for chain {foreign}"
  | .reported text => text

/-- Why something cannot be signed, or a signature does not stand. -/
inductive SigningFault where
  /-- The attestation names another guardian set. -/
  | guardianSet (set attested : UInt32)
  /-- Too few guardians signed. -/
  | quorum (signatures needed : Nat)
  /-- The signatures are not in the order of their guardians, or one guardian signed twice. -/
  | unordered
  /-- The set has no such guardian. -/
  | unknownGuardian (index : UInt8)
  /-- A signature of the attestation is another key's. -/
  | wrongGuardian (index : UInt8)
  /-- A signature is another key's. -/
  | wrongKey
  /-- The recovery identifier is none of the four. -/
  | badRecoveryId
  /-- The numbers of the signature are out of range, or no key recovers. -/
  | malformedSignature
  /-- The secret key is not hexadecimal. -/
  | secretHex (fault : Hex.Fault)
  /-- The secret key has not 32 bytes, or is zero or not below the group order. -/
  | badSecret
  /-- What a digest key is asked to sign has not the width of a digest. -/
  | notDigest (length : Nat)
  /-- No usable nonce was found. -/
  | noNonce
  /-- A keypair has not 64 bytes. -/
  | keypairLength (length : Nat)
  /-- The public half of a keypair is no point. -/
  | keypairPoint
  /-- The public half of a keypair is not the secret's key. -/
  | keypairMismatch
  /-- A keypair text is no array of bytes. -/
  | keypairText
  /-- The target is too wide for a contract-model chain. -/
  | targetNotEvm (target : Address)
  /-- A contract-model transaction has no gas limit. -/
  | noGasLimit
  /-- The signer's address is too wide for a contract-model chain. -/
  | signerNotEvm
  /-- The signer's answer is not a recoverable signature. -/
  | evmSignatureLength (length : Nat)
  /-- The last byte of a recoverable signature is neither 27 nor 28. -/
  | recoveryByte (byte : UInt8)
  /-- The signer's answer is not an account-model signature. -/
  | svmSignatureLength (length : Nat)
  /-- An account other than the payer would have to sign. -/
  | foreignSigner (account : Address)
  /-- A list is too long for its length field. -/
  | tooManyItems (count : Nat)
  /-- An account's position does not fit a byte. -/
  | tooManyAccounts
  /-- An account is not among the keys of its message. -/
  | accountMissing (account : Address)
  | reported (text : String)
deriving DecidableEq

/-- The wording of a signing fault. -/
def SigningFault.message : SigningFault → String
  | .guardianSet set attested => s!"guardian set {set} does not match attestation set {attested}"
  | .quorum signatures needed => s!"{signatures} signatures, quorum is {needed}"
  | .unordered => "guardian indices not strictly ascending"
  | .unknownGuardian index => s!"invalid guardian index {index}"
  | .wrongGuardian index => s!"signature {index} does not recover to guardian key"
  | .wrongKey => "signature verification failed"
  | .badRecoveryId => "bad recovery id"
  | .malformedSignature => "malformed signature"
  | .secretHex fault => s!"invalid private key hex: {fault.message}"
  | .badSecret => "malformed or out-of-range secret key"
  | .notDigest length => s!"secp256k1 payload is {length} bytes, expected a digest"
  | .noNonce => "no usable nonce"
  | .keypairLength length => s!"keypair is {length} bytes, expected 64"
  | .keypairPoint => "signature error: Cannot decompress Edwards point"
  | .keypairMismatch => "signature error: Mismatched Keypair detected"
  | .keypairText => "invalid keypair json"
  | .targetNotEvm target => s!"{target} is not an EVM address"
  | .noGasLimit => "EVM transaction has no gas limit"
  | .signerNotEvm => "signer address is not an EVM address"
  | .evmSignatureLength length => s!"signer returned {length} signature bytes, EVM needs a secp256k1 key"
  | .recoveryByte byte => s!"unexpected recovery byte {byte}"
  | .svmSignatureLength length => s!"signer returned {length} signature bytes, SVM needs an ed25519 key"
  | .foreignSigner account =>
    s!"instruction needs a signature from {account} which the relay does not hold"
  | .tooManyItems count => s!"array of {count} items too long"
  | .tooManyAccounts => "too many accounts for one message"
  | .accountMissing account => s!"account {account} missing from message"
  | .reported text => text

/-- Why a configuration cannot be used. -/
inductive ConfigFault where
  | address (fault : AddressFault)
  /-- The file cannot be read. -/
  | unreadable (path reason : String)
  /-- The text is no document of the wanted form. -/
  | malformed
  /-- A chain stands under the family that it does not belong to. -/
  | misfiled (name family typed : String)
  /-- Two chains have one number. -/
  | duplicateChain (chain : ChainId)
  /-- No chain that is switched on has the number. -/
  | noEnabledChain (chain : ChainId)
  /-- A contract-model endpoint was asked of another chain. -/
  | notEvm (name : String)
  /-- An account-model endpoint was asked of another chain. -/
  | notSvm (name : String)
  /-- Token transfers need a token bridge. -/
  | noTokenBridge (name : String)
  /-- The token is no contract-model address. -/
  | tokenNotEvm (token : Address)
  /-- A messenger was asked to send tokens; `program` says what it is called on its chain. -/
  | messengerCannotSendTokens (program : String)
  /-- A token bridge was asked to send a message; `program` says what it is called on its chain. -/
  | tokenBridgeCannotSendMessages (program : String)
  | reported (text : String)
deriving DecidableEq

/-- The wording of a configuration fault. -/
def ConfigFault.message : ConfigFault → String
  | .address fault => fault.message
  | .unreadable path reason => s!"cannot read {path}: {reason}"
  | .malformed => "TOML parse error"
  | .misfiled name family typed => s!"chain {name} listed under {family} but typed {typed}"
  | .duplicateChain chain => s!"chain id {chain} configured twice"
  | .noEnabledChain chain => s!"no enabled chain with id {chain}"
  | .notEvm name => s!"{name} is not an EVM chain"
  | .notSvm name => s!"{name} is not an SVM chain"
  | .noTokenBridge name => s!"{name}: token_bridge mode needs token_bridge_address"
  | .tokenNotEvm token => s!"token {token} is not an EVM address"
  | .messengerCannotSendTokens program => s!"messenger {program} cannot send tokens"
  | .tokenBridgeCannotSendMessages program => s!"token bridge {program} cannot send messages"
  | .reported text => text

/-- Why a node, or the way to it, gave no usable answer. -/
inductive RpcFault where
  /-- The address is none that a request can be sent to. -/
  | address (fault : Http.UrlFault)
  /-- The request could not be delivered. -/
  | undelivered
  /-- The answer is no document, or not the one that was expected. -/
  | undecodable
  /-- A document in the answer has not the wanted form. -/
  | malformed (misfit : Json.Misfit)
  /-- The node answered a method with an error. -/
  | nodeError (text : String)
  /-- The node answered a method with neither a result nor an error. -/
  | missingResult (method : String)
  /-- The result of a method should have been a text; `what` says which. -/
  | notText (method what : String)
  | quantity (text : String) (fault : Integer.Fault)
  | data (fault : Hex.Fault)
  | nonceRange (count : Nat)
  | networkRange (id : Nat)
  | gasRange (gas : Nat)
  /-- The return data of a call ends before a word. -/
  | noWord (index length : Nat)
  /-- A word of the return data exceeds 128 bits. -/
  | wideWord (index : Nat)
  | reverted (tx : TxId)
  | unconfirmed (tx : TxId) (seconds : UInt64)
  /-- The receipt has no publication by the core contract. -/
  | noPublication (tx : TxId)
  | wideSequence (sequence : Nat)
  /-- An account that holds an endpoint is too short. -/
  | endpointTooShort (length expected : Nat)
  /-- An account that holds a chain's endpoint holds another chain's. -/
  | endpointChain (asked recorded : ChainId)
  | trackerTooShort
  | bridgeTooShort
  | tokenAccountTooShort
  | mintMissing (mint : Address)
  | mintTooShort
  /-- A transaction landed without logging the sequence of its message. -/
  | noSequence (tx : TxId)
  /-- A transaction landed and failed. -/
  | transactionFailed (tx : TxId) (reason : String)
  | notCommitted (tx : TxId) (commitment : String) (seconds : UInt64)
  | accountData (fault : Base64.Fault)
  | blockhash (fault : AddressFault)
  | noLogs (tx : TxId)
  /-- The attestation in a lookup's answer is not in base 64. -/
  | attestationText (fault : Base64.Fault)
  | reported (text : String)
deriving DecidableEq

/-- The wording of a node fault. -/
def RpcFault.message : RpcFault → String
  | .address fault => s!"builder error{fault.message}"
  | .undelivered => "error sending request"
  | .undecodable => "error decoding response body"
  | .malformed misfit => s!"malformed response: {misfit.message}"
  | .nodeError text => text
  | .missingResult method => s!"{method}: missing result in response"
  | .notText method what => s!"{method}: {what} is not a string"
  | .quantity text fault => s!"invalid quantity {text}: {fault.message}"
  | .data fault => s!"invalid hex data: {fault.message}"
  | .nonceRange count => s!"nonce {count} out of range"
  | .networkRange id => s!"chain id {id} out of range"
  | .gasRange gas => s!"gas estimate {gas} out of range"
  | .noWord index length => s!"return data has no word {index} ({length} bytes)"
  | .wideWord index => s!"word {index} exceeds u128"
  | .reverted tx => s!"transaction {tx} reverted"
  | .unconfirmed tx seconds => s!"transaction {tx} not confirmed within {seconds}s"
  | .noPublication tx => s!"no LogMessagePublished from core in {tx}"
  | .wideSequence sequence => s!"sequence {sequence} exceeds u64"
  | .endpointTooShort length expected =>
    s!"foreign endpoint account is {length} bytes, expected at least {expected}"
  | .endpointChain asked recorded => s!"endpoint account for chain {asked} records chain {recorded}"
  | .trackerTooShort => "sequence tracker shorter than 8 bytes"
  | .bridgeTooShort => "bridge data too short"
  | .tokenAccountTooShort => "token account too short"
  | .mintMissing mint => s!"mint {mint.toBase58} not found"
  | .mintTooShort => "mint account too short"
  | .noSequence tx => s!"transaction {tx} logged no message sequence"
  | .transactionFailed tx reason => s!"transaction {tx} failed: {reason}"
  | .notCommitted tx commitment seconds => s!"transaction {tx} not {commitment} within {seconds}s"
  | .accountData fault => s!"getAccountInfo: bad base64 data: {fault.message}"
  | .blockhash fault => s!"getLatestBlockhash: configuration error: {fault.message}"
  | .noLogs tx => s!"getTransaction: no logs for {tx}"
  | .attestationText fault => s!"vaaBytes is not base64: {fault.message}"
  | .reported text => text

/-- Why a relay, or a part of one, failed. -/
inductive RelayError where
  | invalidSeed (cause : DeriveError)
  | parse (cause : ParseError)
  /-- The attestation was not seen before the deadline. -/
  | timeout (chain : ChainId) (emitter : Address) (sequence : UInt64) (waitedSeconds : Nat)
  | insufficientFunds (need held : Nat)
  | insufficientAllowance (need approved : Nat)
  | alreadyRegistered (chain : ChainId)
  | alreadyRedeemed
  /-- A chain does not hold the endpoint that was registered with it. -/
  | registrationVerificationFailed (chain : ChainId) (expected actual : Address)
  | attestationMismatch (cause : Mismatch)
  | invalidRecipient (cause : RecipientFault)
  /-- Nothing is left of the amount after truncation. -/
  | zeroAmount
  | invalidForeignEndpoint (cause : EndpointFault)
  | signing (cause : SigningFault)
  | config (cause : ConfigFault)
  | rpc (cause : RpcFault)
deriving DecidableEq

namespace RelayError

/-- The name of a kind of error. -/
def kind : RelayError → String
  | invalidSeed _ => "InvalidSeed"
  | parse _ => "Parse"
  | timeout .. => "Timeout"
  | insufficientFunds .. => "InsufficientFunds"
  | insufficientAllowance .. => "InsufficientAllowance"
  | alreadyRegistered _ => "AlreadyRegistered"
  | alreadyRedeemed => "AlreadyRedeemed"
  | registrationVerificationFailed .. => "RegistrationVerificationFailed"
  | attestationMismatch _ => "AttestationMismatch"
  | invalidRecipient _ => "InvalidRecipient"
  | zeroAmount => "ZeroAmount"
  | invalidForeignEndpoint _ => "InvalidForeignEndpoint"
  | signing _ => "Signing"
  | config _ => "Config"
  | rpc _ => "Rpc"

/-- The wording of an error. -/
def message : RelayError → String
  | invalidSeed cause => s!"invalid seed: {cause.message}"
  | parse cause => s!"parse error: {cause.message}"
  | timeout chain emitter sequence waited =>
    s!"attestation for chain={chain} emitter={emitter} sequence={sequence} not observed within {waited}s"
  | insufficientFunds need held => s!"insufficient funds: need {need}, have {held}"
  | insufficientAllowance need approved => s!"insufficient allowance: need {need}, approved {approved}"
  | alreadyRegistered chain => s!"endpoint for chain {chain} already registered"
  | alreadyRedeemed => "attestation already redeemed"
  | registrationVerificationFailed chain expected actual =>
    s!"registration on chain {chain} reads back {actual}, expected {expected}"
  | attestationMismatch cause => s!"attestation does not match transfer: {cause.message}"
  | invalidRecipient cause => s!"invalid recipient: {cause.message}"
  | zeroAmount => "amount truncates to zero"
  | invalidForeignEndpoint cause => s!"invalid foreign endpoint: {cause.message}"
  | signing cause => s!"signing failed: {cause.message}"
  | config cause => s!"configuration error: {cause.message}"
  | rpc cause => s!"rpc failure: {cause.message}"

/-- Whether the caller may resume the relay with the sequence that it already has. -/
def isRecoverable : RelayError → Bool
  | timeout .. => true
  | _ => false

/-- What a node, or the way to it, said of a failure; other failures are not a node's. -/
def rpcText? : RelayError → Option String
  | rpc cause => some cause.message
  | _ => none

/-- The cause behind an error that wraps one. -/
def source? : RelayError → Option String
  | invalidSeed cause => some cause.message
  | parse cause => some cause.message
  | _ => none

end RelayError

/-- The outcome of an operation of the relay. -/
abbrev Outcome := Except RelayError

namespace Outcome

variable {α : Type}

/-- A derivation as an outcome. -/
def ofDerived (r : Except DeriveError α) : Outcome α := r.mapError RelayError.invalidSeed

/-- A parsed value as an outcome. -/
def ofParsed (r : Except ParseError α) : Outcome α := r.mapError RelayError.parse

/-- What was made of a node's answer as an outcome. -/
def ofRpc (r : Except RpcFault α) : Outcome α := r.mapError RelayError.rpc

/-- What a signer did as an outcome. -/
def ofSigned (r : Except SigningFault α) : Outcome α := r.mapError RelayError.signing

/-- What was made of a configuration as an outcome. -/
def ofConfig (r : Except ConfigFault α) : Outcome α := r.mapError RelayError.config

/-- An address that was read from a configuration as an outcome. -/
def ofAddress (r : Except AddressFault α) : Outcome α := r.mapError (RelayError.config ∘ ConfigFault.address)

end Outcome

end GuardianRelay
