import GuardianRelay.Client
import GuardianRelay.Evm.Node

/-!
# Asking contract-model nodes

Every question of an endpoint to its node is one call of a method. Numbers are hexadecimal; some of them have to fit
64 bits.
-/

namespace GuardianRelay.Evm

namespace Node

/-- How a failed call is worded. -/
def wording (method : String) (error : Json) : String := s!"{method}: {Client.errorText error}"

/-- The node at an address. -/
def ofUrl (url : String) : Client.Node := ⟨url, wording⟩

/-- Octets as nodes write them. -/
def dataJson (b : Bytes) : Json := .string (Hex.encodeMarked b)

/-- A number as nodes write it. -/
def quantityJson (n : Nat) : Json := .string ("0x" ++ Text.hexDigits n)

/-- Calls a method whose result is a number. -/
def callQuantity (node : Client.Node) (method : String) (params : List Json) : Client.Action Nat := do
  let text ← Client.callText node method "result" params
  Program.ofOutcome (Outcome.ofRpc (parseQuantity text))

/-- Calls a method whose result is a number of at most 64 bits; another one is the fault. -/
def callUInt64 (node : Client.Node) (method : String) (params : List Json) (fault : Nat → RpcFault) :
    Client.Action UInt64 := do
  let n ← callQuantity node method params
  if n < UInt64.size then return UInt64.ofNat n else throw (.rpc (fault n))

/-- Asks a node. -/
def ask (node : Client.Node) : (request : NodeRequest) → Client.Action request.Answer
  | .call contract data => do
    let params := [Json.ofMembers [("to", dataJson contract.toList), ("data", dataJson data)], .string "latest"]
    let text ← Client.callText node "eth_call" "result" params
    Program.ofOutcome (Outcome.ofRpc (parseData text))
  | .balance owner => callQuantity node "eth_getBalance" [dataJson owner.toList, .string "latest"]
  | .gasPrice => callQuantity node "eth_gasPrice" []
  | .transactionCount sender =>
    callUInt64 node "eth_getTransactionCount" [dataJson sender.toList, .string "pending"] .nonceRange
  | .networkId => callUInt64 node "eth_chainId" [] .networkRange
  | .estimateGas sender contract data value =>
    callUInt64 node "eth_estimateGas"
      [Json.ofMembers [("from", dataJson sender.toList), ("to", dataJson contract.toList), ("data", dataJson data),
        ("value", quantityJson value)]]
      .gasRange
  | .submit transaction => Client.callText node "eth_sendRawTransaction" "hash" [dataJson transaction.raw]
  | .receipt tx => do
    let result ← Client.call node "eth_getTransactionReceipt" [.string tx]
    if result.isNull then return none
    return some (← Client.expect (Receipt.read result))

end Node

end GuardianRelay.Evm
