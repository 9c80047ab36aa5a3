import GuardianRelay.Signer

/-!
# Transactions

What an endpoint wants done, before and after it is wrapped in its chain's envelope and signed. Contract-model calls
have a target, data, an attached value and a gas limit; account-model calls have a target, data and the accounts that
the program may use.
-/

namespace GuardianRelay

/-- An account that a call names, with what the call may do with it. -/
structure AccountUse where
  key : Address
  isSigner : Bool
  isWritable : Bool
deriving DecidableEq

namespace AccountUse

/-- An account that the call may change. -/
def writable (key : Address) : AccountUse := ⟨key, false, true⟩

/-- An account that the call only reads. -/
def readonly (key : Address) : AccountUse := ⟨key, false, false⟩

/-- An account that signs and that the call may change. -/
def signer (key : Address) : AccountUse := ⟨key, true, true⟩

end AccountUse

/-- A call that nobody has signed. -/
structure UnsignedTransaction where
  chain : ChainId
  /-- The contract or the program. -/
  target : Address
  /-- The accounts; a contract-model call has none. -/
  accounts : List AccountUse
  data : Bytes
  /-- The native value that goes with the call. -/
  value : Nat
  gasLimit : Option UInt64
deriving DecidableEq

/-- A call of a program. -/
def UnsignedTransaction.instruction (chain : ChainId) (program : Address) (data : Bytes)
    (accounts : List AccountUse) : UnsignedTransaction :=
  { chain, target := program, accounts, data, value := 0, gasLimit := none }

/-- A call of a contract. -/
def UnsignedTransaction.call (chain : ChainId) (contract : EvmAddress) (data : Bytes) (value : Nat)
    (gasLimit : UInt64) : UnsignedTransaction :=
  { chain, target := Address.ofEvm contract, accounts := [], data, value, gasLimit := some gasLimit }

/-- A call in the form in which its chain takes it. -/
structure SignedTransaction where
  transaction : UnsignedTransaction
  signer : Address
  signature : Bytes
  /-- The bytes that are submitted. -/
  raw : Bytes
deriving DecidableEq

end GuardianRelay
