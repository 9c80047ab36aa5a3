import GuardianRelay.Client
import GuardianRelay.Polling
import GuardianRelay.Svm.Node

/-!
# Asking account-model nodes

Every question of an endpoint to its node is one call of a method, except that a submission is followed by calls
which wait until the transaction has landed. A transaction lands when its status says that it reached the level of
commitment that the client asks for; a status that carries an error ends the wait whatever its level.
-/

namespace GuardianRelay.Svm

/-- A node and how a client deals with it. -/
structure Node where
  client : Client.Node
  /-- The level of commitment that answers and landed transactions need. -/
  commitment : String
  confirmationPollMillis : Nat
  confirmationTimeoutMillis : Nat

namespace Node

/-- How a failed call is worded: with what programs logged, if the node tells it. -/
def wording (method : String) (error : Json) : String :=
  let logs := (((error.get? "data").bind (Json.get? "logs")).bind Json.array?).getD []
  let lines := Text.joinWith "; " (logs.filterMap Json.string?)
  Text.trimEnd s!"{method}: {Client.errorText error} {lines}"

/-- The node at an address, asked every half second for at most a minute whether a transaction has landed. -/
def ofUrl (url : String) : Node := ⟨⟨url, wording⟩, "confirmed", 500, 60000⟩

/-! ### Answers -/

/-- Reads the first and only field of a structure, from an object or from the array of its fields. -/
def onlyField {α : Type} (name wanted : String) (read : Json.Reader α) : Json.Reader α
  | .object members => do Json.required name (← Json.member members name read)
  | .array items => do
    let value ← Json.item items 0 s!"{wanted} of 1 field" read
    Json.atMost 1 items
    return value
  | document => Json.Reader.refuse wanted document

/-- Reads a value as a node puts it into its context. -/
def contextValue {α : Type} (read : Json.Reader α) : Json.Reader α := onlyField "value" "a value in its context" read

/-- Reads a value that may be null in its context, or left out of it. -/
def contextOptional {α : Type} (read : Json.Reader α) : Json.Reader (Option α)
  | .object members => do return (← Json.member members "value" (Json.Reader.optional read)).join
  | document => contextValue (Json.Reader.optional read) document

/-- Reads a text that stands with the name of its encoding. -/
def encodedText : Json.Reader String
  | .array items => do
    let wanted := "a text and its encoding"
    let text ← Json.item items 0 wanted Json.Reader.text
    let _ ← Json.item items 1 wanted Json.Reader.text
    Json.atMost 2 items
    return text
  | document => Json.Reader.refuse "a text and its encoding" document

/-- Reads the encoded data of an account; nothing, if there is no account. -/
def accountData : Json.Reader (Option String) := contextOptional (onlyField "data" "an account" encodedText)

/-- Reads a number of lamports. -/
def lamports : Json.Reader UInt64 := fun document => (Json.Reader.natural 64 document).map UInt64.ofNat

/-- Reads the text of a block. -/
def blockText : Json.Reader String := contextValue (onlyField "blockhash" "a block" Json.Reader.text)

/-- What a node knows of a transaction. -/
structure Status where
  /-- Why the transaction failed, if it did. -/
  error : Option Json
  level : Option String

/-- Reads a status, from an object or from the array of its fields; both fields may be left out. -/
def Status.read : Json.Reader Status
  | .object members => do
    let level ← Json.member members "confirmationStatus" (Json.Reader.optional Json.Reader.text)
    let error ← Json.member members "err" (Json.Reader.optional .ok)
    return { error := error.join, level := level.join }
  | .array items => do
    let error ← Json.itemOr none items 0 (Json.Reader.optional .ok)
    let level ← Json.itemOr none items 1 (Json.Reader.optional Json.Reader.text)
    Json.atMost 2 items
    return { error, level }
  | document => Json.Reader.refuse "a status" document

/-- Reads the statuses of several transactions; a transaction that the node does not know has none. -/
def statuses : Json.Reader (List (Option Status)) :=
  contextValue (Json.Reader.list (Json.Reader.optional Status.read))

/-- How firm a level of commitment is. -/
def rank : String → Nat
  | "finalized" => 2
  | "confirmed" => 1
  | _ => 0

/-! ### Questions -/

/-- The member that tells a node which commitment its answer needs. -/
def commitmentMember (node : Node) : String × Json := ("commitment", .string node.commitment)

/-- Asks how a transaction stands; nothing, while the node does not know it. -/
def status (node : Node) (tx : TxId) : Client.Action (Option Status) := do
  let result ← Client.call node.client "getSignatureStatuses"
    [.array [.string tx], Json.ofMembers [("searchTransactionHistory", .bool true)]]
  let statuses ← Client.expect (statuses result)
  return statuses.head?.join

/-- What a status says of a transaction: that it has landed, or that it has not yet; one that failed is an error. -/
def hasLanded (node : Node) (tx : TxId) : Option Status → Except RpcFault Bool
  | none => .ok false
  | some status =>
    match status.error with
    | some error => .error (.transactionFailed tx error.compress)
    | none => .ok (rank node.commitment ≤ (status.level.map rank).getD 0)

/-- The end of a wait for a transaction that did not land in time. -/
def notCommitted (node : Node) (tx : TxId) : RelayError :=
  .rpc (.notCommitted tx node.commitment (UInt64.ofNat (node.confirmationTimeoutMillis / 1000)))

/-- Asks at most so many times whether a transaction has landed. -/
def pollLanded (node : Node) (tx : TxId) (start : Nat) : Nat → Client.Action Unit
  | 0 => throw (node.notCommitted tx)
  | polls + 1 => do
    let status ← node.status tx
    if ← Program.ofOutcome (Outcome.ofRpc (node.hasLanded tx status)) then return
    if node.confirmationTimeoutMillis ≤ (← Client.now) - start then throw (node.notCommitted tx)
    Client.sleep node.confirmationPollMillis
    pollLanded node tx start polls

/-- Waits until a transaction has landed. The wait does not run out of polls before its time is over. -/
def awaitLanded (node : Node) (tx : TxId) : Client.Action Unit := do
  let start ← Client.now
  node.pollLanded tx start (pollLimit node.confirmationPollMillis node.confirmationTimeoutMillis)

/-- Asks a node. -/
def ask (node : Node) : (request : NodeRequest) → Client.Action request.Answer
  | .account key => do
    let result ← Client.call node.client "getAccountInfo"
      [.string key.toBase58, Json.ofMembers [("encoding", .string "base64"), node.commitmentMember]]
    match ← Client.expect (accountData result) with
    | none => return none
    | some text =>
      let b ← Program.ofOutcome (Outcome.ofRpc ((Base64.decode text).mapError RpcFault.accountData))
      return some b
  | .balance owner => do
    let result ← Client.call node.client "getBalance" [.string owner.toBase58, Json.ofMembers [node.commitmentMember]]
    Client.expect (contextValue lamports result)
  | .submit transaction => do
    let tx ← Client.callText node.client "sendTransaction" "signature"
      [.string (Base64.encode transaction.raw),
        Json.ofMembers [("encoding", .string "base64"), ("preflightCommitment", .string node.commitment)]]
    node.awaitLanded tx
    return tx
  | .recentBlock => do
    let result ← Client.call node.client "getLatestBlockhash" [Json.ofMembers [node.commitmentMember]]
    let text ← Client.expect (blockText result)
    let block ← Program.ofOutcome (Outcome.ofRpc ((Address.ofBase58 text).mapError RpcFault.blockhash))
    return block.bytes
  | .log tx => do
    let result ← Client.call node.client "getTransaction"
      [.string tx, Json.ofMembers [("encoding", .string "json"), node.commitmentMember,
        ("maxSupportedTransactionVersion", Json.ofNat 0)]]
    match ((result.get? "meta").bind (Json.get? "logMessages")).bind Json.array? with
    | some lines => return lines.filterMap Json.string?
    | none => throw (.rpc (.noLogs tx))

end Node

end GuardianRelay.Svm
