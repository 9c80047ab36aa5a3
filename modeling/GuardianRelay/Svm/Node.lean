import GuardianRelay.Program
import GuardianRelay.Svm.Account
import GuardianRelay.Transaction

/-!
# What an account-model endpoint asks

An endpoint asks its node, which answers a submission once the transaction has landed.
-/

namespace GuardianRelay.Svm

/-- A question to the node. -/
inductive NodeRequest where
  /-- The data of an account, if there is one. -/
  | account (key : Address)
  /-- What an account holds, in lamports. -/
  | balance (owner : Address)
  /-- Takes a transaction. -/
  | submit (transaction : SignedTransaction)
  /-- A recent block. -/
  | recentBlock
  /-- What programs logged in a transaction. -/
  | log (tx : TxId)
deriving DecidableEq

/-- What a node answers, if it does not fail. -/
def NodeRequest.Answer : NodeRequest → Type
  | account _ => Option Bytes
  | balance _ => UInt64
  | submit _ => TxId
  | recentBlock => FixedBytes 32
  | log _ => List String

/-- The surroundings of an endpoint. -/
abbrev surroundings : Interface := ⟨NodeRequest, fun request => Outcome request.Answer⟩

/-- What an endpoint does. -/
abbrev Action := Program surroundings

namespace Action

variable {α : Type}

/-- Asks the node. -/
def node (request : NodeRequest) : Action request.Answer :=
  Program.ask (I := surroundings) request Program.ofOutcome

/-- The data of an account. -/
def account (key : Address) : Action (Option Bytes) := node (.account key)

/-- Whether there is an account. -/
def accountExists (key : Address) : Action Bool := do return (← account key).isSome

/-- A number in the data of an account; an account that does not exist holds zero. -/
def accountNumber (key : Address) (parse : Bytes → Except RpcFault UInt64) : Action UInt64 := do
  match ← account key with
  | some data => Program.ofOutcome (Outcome.ofRpc (parse data))
  | none => return 0

/-- What an account holds. -/
def balance (owner : Address) : Action UInt64 := node (.balance owner)

/-- Hands a transaction in and waits until it has landed. -/
def submit (transaction : SignedTransaction) : Action TxId := node (.submit transaction)

/-- A recent block. -/
def recentBlock : Action (FixedBytes 32) := node .recentBlock

/-- What programs logged in a transaction. -/
def log (tx : TxId) : Action (List String) := node (.log tx)

/-- The value of a derivation. -/
def derived (r : Except DeriveError α) : Action α := Program.ofOutcome (Outcome.ofDerived r)

end Action

end GuardianRelay.Svm
