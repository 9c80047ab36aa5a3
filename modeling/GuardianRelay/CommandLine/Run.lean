import GuardianRelay.CommandLine.Command
import GuardianRelay.CommandLine.Connection
import GuardianRelay.Config.Reader
import GuardianRelay.Signer.Keypair

/-!
# Carrying commands out

A command reads the configuration, connects the endpoints that it needs, does its work and prints what became of it.
Whatever fails ends it: the failure is printed with its cause, if there is one behind it.
-/

namespace GuardianRelay.CommandLine

open Pairing (Side)

/-- Why a command failed. -/
inductive Failure where
  /-- The configuration names no file for the keys of a family. -/
  | keyFileUnset (family : ChainFamily)
  | unreadable (path reason : String)
  | payloadHex (fault : Hex.Fault)
  | attestationText (fault : Base64.Fault)
  /-- The octets that were given are no attestation. -/
  | attestation (error : ParseError)
  /-- A relay was given nothing to send. -/
  | nothingToSend
  /-- Lookups cannot be answered. -/
  | listener (reason : String)
  | relay (error : RelayError)
  /-- A relay stopped, after these states. -/
  | stopped (history : List RelayState) (error : RelayError)

namespace Failure

/-- The setting that names the file for the keys of a family. -/
def keySetting : ChainFamily → String
  | .evm => "keys.evm_private_key_file"
  | .svm => "keys.solana_keypair_file"

/-- The wording of a failure. -/
def message : Failure → String
  | keyFileUnset family => s!"{keySetting family} is not set"
  | unreadable path _ => s!"failed to read {path}"
  | payloadHex _ => "payload is not valid hex"
  | attestationText _ => "attestation is not valid base64"
  | attestation error => error.message
  | nothingToSend => "pass either --payload or --token"
  | listener reason => reason
  | relay error | stopped _ error => error.message

/-- What is behind a failure. -/
def cause? : Failure → Option String
  | unreadable _ reason => some reason
  | payloadHex fault => some fault.message
  | attestationText fault => some fault.message
  | relay error | stopped _ error => error.source?
  | _ => none

/-- What is told of a failure before its message: the states of a relay that stopped for good. -/
def preface : Failure → String
  | stopped history _ =>
    match history.getLast? with
    | some (.failed _) => "relay failed after " ++ Text.joinWith " -> " (history.map RelayState.name) ++ "\n"
    | _ => ""
  | _ => ""

/-- All that is printed of a failure. -/
def report (failure : Failure) : String :=
  let cause := match failure.cause? with
    | some cause => s!"\nCaused by:\n    {cause}\n"
    | none => ""
  s!"{failure.preface}Error: {failure.message}\n{cause}"

end Failure

/-- A part of a command, which may fail. -/
abbrev Job := ExceptT Failure Action

namespace Job

variable {α : Type}

/-- What an action does; its errors are failures. -/
def ofAction (action : Action α) : Job α := ExceptT.mk do
  match ← action.attempt with
  | .ok value => return .ok value
  | .error error => return .error (.relay error)

/-- The value of an outcome. -/
def ofOutcome : Outcome α → Job α
  | .ok value => return value
  | .error error => throw (.relay error)

/-- Asks the surroundings. -/
def ask (r : Machine.Request) : Job r.Reply := ExceptT.lift (Action.ask r)

/-- The text of a file. -/
def fileText (path : String) : Job String := do
  match ← ask (.fileText path) with
  | .ok text => return text
  | .error reason => throw (.unreadable path reason)

end Job

/-! ### Texts of arguments -/

/-- An address, in hexadecimal after a mark or else in base 58. -/
def addressOf (s : String) : Except AddressFault Address :=
  if (Text.after? "0x" s).isSome then Address.ofHex s else Address.ofBase58 s

/-- A payload, in hexadecimal after a mark or else as the text itself. -/
def payloadOf (s : String) : Except Failure Bytes :=
  match Text.after? "0x" s with
  | some digits => (Hex.decode digits).mapError .payloadHex
  | none => .ok (Bytes.ofText s)

/-- An attestation in base 64. -/
def attestationOf (s : String) : Except Failure Attestation := do
  let b ← (Base64.decode (Text.trim s)).mapError .attestationText
  (Attestation.decode b).mapError .attestation

/-- The transfer that a command names. -/
def tokensOf (transfer : TransferArguments) (destination : ChainId) : Outcome Intent := do
  let token ← Outcome.ofAddress (addressOf transfer.token)
  let recipient ← Outcome.ofAddress (addressOf transfer.recipient)
  return .tokens token transfer.amount destination recipient transfer.batch

/-- What a command wants moved. -/
def intentOf (consignment : Consignment) (destination : ChainId) : Job Intent :=
  match consignment with
  | .message payload => return .message (← (payloadOf payload : Except Failure Bytes))
  | .tokens transfer => Job.ofOutcome (tokensOf transfer destination)
  | .nothing => throw .nothingToSend

/-! ### Connecting -/

/-- A configuration that was read. -/
structure Session where
  config : RelayConfig
  chains : List ChainConfig

namespace Session

/-- Reads a configuration. -/
def load (path : String) : Job Session := do
  match ← Job.ask (.fileText path) with
  | .error reason => throw (.relay (.config (.unreadable path reason)))
  | .ok text =>
    let (config, chains) ← Job.ofOutcome (Outcome.ofConfig (RelayConfig.parse text))
    return { config, chains }

/-- The text of the file with the keys of a family. -/
def keyText (session : Session) (family : ChainFamily) : Job String := do
  let path? := match family with
    | .evm => session.config.keys.evmKeyFile
    | .svm => session.config.keys.svmKeypairFile
  match path? with
  | some path => Job.fileText path
  | none => throw (.keyFileUnset family)

/-- The token bridges of the contract-model chains of a configuration, also of those that are switched off. -/
def foreignBridges (session : Session) : Outcome (List (ChainId × Address)) :=
  (session.chains.filter fun config => config.family = .evm).filterMapM fun config =>
    match config.tokenBridgeAddress with
    | none => return none
    | some text => return some (config.chain, ← Outcome.ofAddress (Address.ofHex text))

/-- Connects the endpoint on a chain. -/
def connect (session : Session) (chain : ChainId) : Job Connection := do
  let config ← Job.ofOutcome (Outcome.ofConfig (ChainConfig.find session.chains chain))
  let settings := session.config.transactions
  let key ← session.keyText config.family
  match config.family with
  | .evm =>
    let key ← Job.ofOutcome (Outcome.ofSigned (Secp256k1Key.ofText (Text.trim key)))
    return .evm (← Job.ofOutcome (Evm.Endpoint.ofConfig config settings key.signer)) (Evm.Node.ofUrl config.nodeUrl)
  | .svm =>
    let key ← Job.ofOutcome (Outcome.ofSigned (Ed25519Key.ofText key))
    let endpoint ← Job.ofOutcome (Svm.Endpoint.ofConfig config key.signer)
    let bridges ← if config.mode = .tokenBridge then Job.ofOutcome session.foreignBridges else pure []
    let node := { Svm.Node.ofUrl config.nodeUrl with
      confirmationPollMillis := settings.receiptPollMillis.toNat
      confirmationTimeoutMillis := settings.confirmationMillis }
    return .svm (bridges.foldl (fun endpoint (foreign, bridge) => endpoint.withForeignBridge foreign bridge) endpoint)
      node

/-- How the session waits for attestations. -/
def poller (session : Session) : Poller :=
  ⟨session.config.attestation.pollSeconds.toNat * 1000, session.config.attestation.deadlineSeconds.toNat * 1000⟩

end Session

/-! ### Commands -/

/-- What is printed of a message that was sent. -/
def sentText (receipt : SendReceipt) : String :=
  lines [s!"sequence: {receipt.sequence}", s!"emitter:  {receipt.emitter}", s!"tx:       {receipt.tx}"]

/-- What is printed of a registration. -/
def registrationText : Registration → String
  | .submitted tx => s!"Submitted(TxRef({Text.quoteText tx}))"
  | .unchanged => "Unchanged"

/-- A transaction that may be missing, as a document. -/
def txJson (tx : Option TxId) : Json := (tx.map Json.string).getD .null

/-- What is printed of a relay that came to its end. -/
def relayedText (receipt : RelayReceipt) : String :=
  lines [(Json.ofMembers
    [("sequence", Json.ofNat receipt.sequence.toNat), ("emitter", .string receipt.emitter.toHex),
      ("sourceTx", txJson receipt.sourceTx), ("redeemTx", txJson receipt.redeemTx)]).compress]

/-- Sends at a chain. -/
def send (session : Session) (source : ChainId) (intent : Intent) : Job String := do
  let connection ← session.connect source
  return sentText (← Job.ofAction (connection.send .here intent))

/-- Registers two endpoints with each other. -/
def pair (session : Session) (here remote : ChainId) : Job String := do
  let here ← session.connect here
  let remote ← session.connect remote
  let pairing := Pairing.pair ⟨here.chain, .ok here.address, remote.chain⟩ remote.chain remote.address
  let registrations ← Job.ofAction (Program.via (I := Pairing.surroundings) (answerPairing here remote) pairing)
  return lines [s!"local:  {registrationText registrations.onHere}",
    s!"remote: {registrationText registrations.onRemote}"]

/-- Waits for an attestation. -/
def await (session : Session) (key : MessageKey) : Job String := do
  let waiting := session.poller.await key
  let answer := answerPoller session.config.attestation.baseUrl
  let a ← Job.ofAction (Program.via (I := Poller.surroundings) answer waiting)
  match a.encode with
  | .ok b => return lines [Base64.encode b]
  | .error error => throw (.attestation error)

/-- Redeems an attestation. That it was redeemed before is no failure. -/
def redeem (session : Session) (chain : ChainId) (a : Attestation) : Job String := do
  let connection ← session.connect chain
  match ← ExceptT.lift (connection.redeem .here a).attempt with
  | .ok tx => return lines [s!"redeemed: {tx}"]
  | .error .alreadyRedeemed => return lines ["already redeemed"]
  | .error error => throw (.relay error)

/-- Sends, waits and redeems. -/
def relay (session : Session) (source destination : ChainId) (intent : Intent) : Job String := do
  let source ← session.connect source
  let destination ← session.connect destination
  let route : Route := { chain := source.chain, emitter := .ok source.emitter, poller := session.poller }
  let answer := answerRelay source destination session.config.attestation.baseUrl
  let (relay, outcome) ← Job.ofAction (Program.via (I := Relay.surroundings) answer (Relay.start.run route intent))
  match outcome with
  | .ok receipt => return relayedText receipt
  | .error error => throw (.stopped relay.history error)

/-- Puts the attestations of files into a store. -/
def loadStore (store : Store) : List String → Job Store
  | [] => return store
  | file :: files => do
    let a ← (attestationOf (← Job.fileText file) : Except Failure Attestation)
    match store.insertAttestation a with
    | .ok store => loadStore store files
    | .error error => throw (.relay (.parse error))

/-- Answers lookups, which ends only by a failure. -/
def serve (session : Session) (files : List String) : Job String := do
  let store ← loadStore Store.empty files
  throw (.listener (← Job.ask (.listen store session.config.service.host session.config.service.tcpPort)))

/-- Carries a command out and gives what it prints. What a command names is read before anything is connected. -/
def carryOut (session : Session) : Command → Job String
  | .emitter chain => do
    let connection ← session.connect chain
    return lines [s!"emitter:  {connection.emitter}", s!"endpoint: {connection.address}"]
  | .register here remote => pair session here remote
  | .sendMessage source payload => do send session source (← intentOf (.message payload) source)
  | .sendTokens source destination transfer => do send session source (← intentOf (.tokens transfer) destination)
  | .wait chain emitter sequence => do
    let emitter ← Job.ofOutcome (Outcome.ofAddress (addressOf emitter))
    await session ⟨chain, emitter, sequence⟩
  | .redeem chain attestation => do redeem session chain (← (attestationOf attestation : Except Failure Attestation))
  | .relay source destination consignment => do relay session source destination (← intentOf consignment destination)
  | .serve files => serve session files

/-- How the program ends. -/
structure Completion where
  exitCode : Nat
  stdout : String
  stderr : String
deriving DecidableEq, Repr

/-- Carries an invocation out. -/
def Invocation.carryOut (invocation : Invocation) : Job String := do
  CommandLine.carryOut (← Session.load invocation.configPath) invocation.command

/-- The program: what it does when it is given some words. It ends with code 0 if it did what it was told, with 1 if
that failed, and with 2 if the words do not tell it what to do. -/
def program (words : List String) : Action Completion := do
  match Invocation.read words with
  | .error (.help command) => return ⟨0, usage command, ""⟩
  | .error fault => return ⟨2, "", s!"error: {fault.message}\n"⟩
  | .ok invocation =>
    match ← invocation.carryOut.run with
    | .ok text => return ⟨0, text, ""⟩
    | .error failure => return ⟨1, "", failure.report⟩

end GuardianRelay.CommandLine
