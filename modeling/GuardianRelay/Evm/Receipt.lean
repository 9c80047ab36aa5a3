import GuardianRelay.Evm.Abi
import GuardianRelay.Evm.Quantity
import GuardianRelay.Json.Form

/-!
# Receipts

A contract-model node tells what became of a transaction: its hash, whether it succeeded, and the events that
contracts logged. A receipt that says nothing of success is one of a success.
-/

namespace GuardianRelay.Evm

/-- An event that a contract logged. -/
structure Log where
  address : String
  topics : List String
  data : String
deriving DecidableEq, Repr

/-- What became of a transaction. -/
structure Receipt where
  hash : TxId
  status : Option String
  logs : List Log
deriving DecidableEq, Repr

namespace Receipt

/-- Whether the transaction succeeded. -/
def succeeded (receipt : Receipt) : Bool :=
  match receipt.status with
  | none => true
  | some status =>
    match parseQuantity status with
    | .ok n => n != 0
    | .error _ => false

/-- The number of the message that a contract published in the transaction, from the first event of the right kind
that the contract logged. -/
def sequence (receipt : Receipt) (core : EvmAddress) : Except RpcFault UInt64 := do
  let topic := Hex.encodeMarked (eventTopic messagePublished).toList
  let address := Hex.encodeMarked core.toList
  let isPublication (log : Log) : Bool :=
    Text.eqIgnoringCase log.address address && log.topics.head?.any (Text.eqIgnoringCase · topic)
  match receipt.logs.find? isPublication with
  | none => throw (.noPublication receipt.hash)
  | some log =>
    let n ← number (← parseData log.data) 0
    if n < UInt64.size then return UInt64.ofNat n else throw (.wideSequence n)

end Receipt

/-! ### Reading -/

/-- Reads an event, from an object or from the array of its fields. -/
def Log.read : Json.Reader Log
  | .object members => do
    let address ← Json.member members "address" Json.Reader.text
    let data ← Json.member members "data" Json.Reader.text
    let topics ← Json.member members "topics" (Json.Reader.list Json.Reader.text)
    return { address := ← Json.required "address" address, topics := ← Json.required "topics" topics,
             data := ← Json.required "data" data }
  | .array items => do
    let wanted := "a log of 3 fields"
    let address ← Json.item items 0 wanted Json.Reader.text
    let topics ← Json.item items 1 wanted (Json.Reader.list Json.Reader.text)
    let data ← Json.item items 2 wanted Json.Reader.text
    Json.atMost 3 items
    return { address, topics, data }
  | document => Json.Reader.refuse "a log" document

/-- Reads a receipt, from an object or from the array of its fields. Status and events may be left out, fields of an
array from the end. -/
def Receipt.read : Json.Reader Receipt
  | .object members => do
    let logs ← Json.member members "logs" (Json.Reader.list Log.read)
    let status ← Json.member members "status" (Json.Reader.optional Json.Reader.text)
    let hash ← Json.member members "transactionHash" Json.Reader.text
    return { hash := ← Json.required "transactionHash" hash, status := status.join, logs := logs.getD [] }
  | .array items => do
    let hash ← Json.item items 0 "a receipt of 3 fields" Json.Reader.text
    let status ← Json.itemOr none items 1 (Json.Reader.optional Json.Reader.text)
    let logs ← Json.itemOr [] items 2 (Json.Reader.list Log.read)
    Json.atMost 3 items
    return { hash, status, logs }
  | document => Json.Reader.refuse "a receipt" document

end GuardianRelay.Evm
