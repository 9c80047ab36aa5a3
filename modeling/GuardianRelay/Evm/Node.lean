import GuardianRelay.Evm.Receipt
import GuardianRelay.Program
import GuardianRelay.Transaction

/-!
# What a contract-model endpoint asks

An endpoint asks its node; it asks for the time and for a pause while it waits for a receipt; it holds a lock from
the moment at which it learns its next transaction's number to the moment at which the node has taken that
transaction; and it remembers the network's number.
-/

namespace GuardianRelay.Evm

/-- A question to the node. -/
inductive NodeRequest where
  /-- What a call of a contract returns, as things stand. -/
  | call (contract : EvmAddress) (data : Bytes)
  /-- What an account holds. -/
  | balance (owner : EvmAddress)
  /-- What a unit of gas costs. -/
  | gasPrice
  /-- How many transactions an account has sent, those included that still wait. -/
  | transactionCount (sender : EvmAddress)
  /-- The number of the network. -/
  | networkId
  /-- How much gas a call would take. -/
  | estimateGas (sender contract : EvmAddress) (data : Bytes) (value : Nat)
  /-- Takes a transaction. -/
  | submit (transaction : SignedTransaction)
  /-- What became of a transaction; nothing, while it waits. -/
  | receipt (tx : TxId)
deriving DecidableEq

/-- What a node answers, if it does not fail. -/
def NodeRequest.Answer : NodeRequest → Type
  | call .. => Bytes
  | balance _ | gasPrice => Nat
  | transactionCount _ | networkId | estimateGas .. => UInt64
  | submit _ => TxId
  | receipt _ => Option Receipt

/-- A question of an endpoint. -/
inductive Request where
  /-- A question to the node. -/
  | node (request : NodeRequest)
  /-- The time, in milliseconds. -/
  | now
  /-- A pause. -/
  | sleep (millis : Nat)
  /-- The lock of the account; the answer comes when nobody else holds it. -/
  | lock
  /-- The lock is given back. -/
  | unlock
  /-- The number of the network, if it is known already. -/
  | knownNetwork
  /-- The number of the network is known from now on. -/
  | keepNetwork (networkId : UInt64)
deriving DecidableEq

/-- What is answered to an endpoint. -/
abbrev Request.Reply : Request → Type
  | node request => Outcome request.Answer
  | now => Nat
  | knownNetwork => Option UInt64
  | sleep _ | lock | unlock | keepNetwork _ => Unit

/-- The surroundings of an endpoint. -/
abbrev surroundings : Interface := ⟨Request, Request.Reply⟩

/-- What an endpoint does. -/
abbrev Action := Program surroundings

namespace Action

variable {α : Type}

/-- Asks the node. -/
def node (request : NodeRequest) : Action request.Answer := Program.ask (.node request) Program.ofOutcome

/-- Calls a contract without a transaction. -/
def call (contract : EvmAddress) (call : Call) : Action Bytes := node (.call contract call.encode)

/-- A number that a contract returns. -/
def callNumber (contract : EvmAddress) (call : Call) : Action Nat := do
  let data ← Action.call contract call
  Program.ofOutcome (Outcome.ofRpc (number data 0))

/-- What an account holds. -/
def balance (owner : EvmAddress) : Action Nat := node (.balance owner)

/-- What a unit of gas costs. -/
def gasPrice : Action Nat := node .gasPrice

/-- How many transactions an account has sent. -/
def transactionCount (sender : EvmAddress) : Action UInt64 := node (.transactionCount sender)

/-- How much gas a call would take. -/
def estimateGas (sender contract : EvmAddress) (data : Bytes) (value : Nat) : Action UInt64 :=
  node (.estimateGas sender contract data value)

/-- Hands a transaction in. -/
def submit (transaction : SignedTransaction) : Action TxId := node (.submit transaction)

/-- What became of a transaction. -/
def receipt (tx : TxId) : Action (Option Receipt) := node (.receipt tx)

/-- The time. -/
def now : Action Nat := Program.request (I := surroundings) .now

/-- Pauses. -/
def sleep (millis : Nat) : Action Unit := Program.request (I := surroundings) (.sleep millis)

/-- Does something while holding the lock, which is given back also when it fails. -/
def locked (action : Action α) : Action α := do
  Program.request (I := surroundings) .lock
  let outcome ← action.attempt
  Program.request (I := surroundings) .unlock
  Program.ofOutcome outcome

/-- The number of the network, which the node is asked for until it has told it once. -/
def networkId : Action UInt64 := do
  match ← Program.request (I := surroundings) .knownNetwork with
  | some id => return id
  | none =>
    let id : UInt64 ← node .networkId
    Program.request (I := surroundings) (.keepNetwork id)
    return id

end Action

end GuardianRelay.Evm
