import GuardianRelay.CommandLine.Machine
import GuardianRelay.Evm.Client
import GuardianRelay.Evm.Endpoint
import GuardianRelay.Lookup.Client
import GuardianRelay.Relay
import GuardianRelay.Svm.Client
import GuardianRelay.Svm.Endpoint

/-!
# Connected endpoints

An endpoint together with its node. What the endpoint asks goes to the node through a client; a command does one thing
at a time, so the lock of an account is always free.
-/

namespace GuardianRelay.CommandLine

open Pairing (Side)

/-- An endpoint with its node. -/
inductive Connection where
  | evm (endpoint : Evm.Endpoint) (node : Client.Node)
  | svm (endpoint : Svm.Endpoint) (node : Svm.Node)

namespace Connection

variable {α : Type}

/-- Answers what the contract-model endpoint of a side asks. -/
def answerEvm (side : Side) (node : Client.Node) : (request : Evm.Request) → Action request.Reply
  | .node request => Action.ofClient side none (Evm.Node.ask node request)
  | .now => Action.ask .now
  | .sleep millis => Action.ask (.sleep millis)
  | .lock | .unlock => return ()
  | .knownNetwork => Action.ask (.knownNetwork side)
  | .keepNetwork networkId => Action.ask (.keepNetwork side networkId)

/-- What the contract-model endpoint of a side does. -/
def onEvm (side : Side) (node : Client.Node) (action : Evm.Action α) : Action α :=
  Program.via (I := Evm.surroundings) (answerEvm side node) action

/-- What the account-model endpoint of a side does. -/
def onSvm (side : Side) (node : Svm.Node) (action : Svm.Action α) : Action α :=
  Program.via (I := Svm.surroundings) (fun request => Action.ofClient side none (node.ask request)) action

/-- The chain of the endpoint. -/
def chain : Connection → ChainId
  | evm endpoint _ => endpoint.chain
  | svm endpoint _ => endpoint.chain

/-- Who publishes the endpoint's messages. -/
def emitter : Connection → Address
  | evm endpoint _ => endpoint.emitter
  | svm endpoint _ => endpoint.emitter

/-- What other chains register for the endpoint. -/
def address : Connection → Address
  | evm endpoint _ => endpoint.address
  | svm endpoint _ => endpoint.address

/-- Sends a message or tokens. -/
def send (side : Side) (intent : Intent) : Connection → Action SendReceipt
  | evm endpoint node => onEvm side node (endpoint.send intent)
  | svm endpoint node => onSvm side node (endpoint.send intent)

/-- Redeems an attestation. -/
def redeem (side : Side) (a : Attestation) : Connection → Action TxId
  | evm endpoint node => onEvm side node (endpoint.redeem a)
  | svm endpoint node => onSvm side node (endpoint.redeem a)

/-- Registers the endpoint of another chain. -/
def register (side : Side) (foreign : ChainId) (address : Address) : Connection → Action Registration
  | evm endpoint node => onEvm side node (endpoint.register foreign address)
  | svm endpoint node => onSvm side node (endpoint.register foreign address)

/-- Which endpoint of another chain is registered. -/
def registered (side : Side) (foreign : ChainId) : Connection → Action (Option Address)
  | evm endpoint node => onEvm side node (endpoint.registered foreign)
  | svm endpoint node => onSvm side node (endpoint.registered foreign)

end Connection

/-- How long a single lookup may take, in milliseconds. -/
def lookupLimitMillis : Nat := 10000

/-- Answers what a wait asks, from the service at an address. -/
def answerPoller (base : String) : (request : Poller.Request) → Action request.Reply
  | .lookup key budget => do
    return some (← Action.ofClient .here (some (min budget lookupLimitMillis)) (Lookup.fetch base key))
  | .now => Action.ask .now
  | .sleep millis => Action.ask (.sleep millis)

/-- Answers what a relay asks, from its two endpoints and the lookup service at an address. -/
def answerRelay (source destination : Connection) (base : String) : (request : Relay.Request) → Action request.Reply
  | .send intent => (source.send .here intent).attempt
  | .redeem a => (destination.redeem .remote a).attempt
  | .poll request => answerPoller base request

/-- Answers what a pairing asks, from its two endpoints. -/
def answerPairing (here remote : Connection) : (request : Pairing.Request) → Action request.Reply
  | .register .here foreign address => (here.register .here foreign address).attempt
  | .register .remote foreign address => (remote.register .remote foreign address).attempt
  | .registered .here foreign => (here.registered .here foreign).attempt
  | .registered .remote foreign => (remote.registered .remote foreign).attempt

end GuardianRelay.CommandLine
