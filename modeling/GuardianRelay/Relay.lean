import GuardianRelay.Endpoint
import GuardianRelay.Poller

/-!
# Relays

A relay takes one message from its source to its destination: it is sent, its attestation is awaited, checked and
redeemed. A relay remembers every state that it was in. One that timed out can be resumed with the sequence that it
had; that somebody else redeemed the attestation is as good as having redeemed it.
-/

namespace GuardianRelay

/-- How far a relay has come. -/
inductive RelayState where
  | initiated
  /-- The source took the message. -/
  | sent (sequence : UInt64) (tx : TxId)
  | awaitingAttestation (sequence : UInt64)
  /-- The attestation is there, and it is the one that was awaited. -/
  | attested (a : Attestation)
  /-- The destination took the attestation, by a transaction of the relay or by somebody else's. -/
  | redeemed (sequence : UInt64) (tx : Option TxId)
  | failed (error : RelayError)
deriving DecidableEq

namespace RelayState

/-- Whether a relay stops in the state. -/
def isTerminal : RelayState → Bool
  | redeemed .. | failed _ => true
  | _ => false

/-- The name of a state. -/
def name : RelayState → String
  | initiated => "initiated"
  | sent .. => "sent"
  | awaitingAttestation _ => "awaiting_attestation"
  | attested _ => "attested"
  | redeemed .. => "redeemed"
  | failed _ => "failed"

end RelayState

/-- What a relay that has come to its end can show. -/
structure RelayReceipt where
  sequence : UInt64
  emitter : Address
  /-- The transaction that sent the message, if this relay sent it. -/
  sourceTx : Option TxId
  /-- The transaction that redeemed the attestation, if it was this relay's. -/
  redeemTx : Option TxId
  attestation : Attestation
deriving DecidableEq

/-- What a relay knows of its source and how it waits. -/
structure Route where
  /-- The chain of the source. -/
  chain : ChainId
  /-- Who publishes the source's messages. -/
  emitter : Outcome Address
  poller : Poller

/-- A relay, in its state and with its memory of states. -/
structure Relay where
  state : RelayState
  /-- Every state that the relay entered, in order. -/
  history : List RelayState
deriving DecidableEq

namespace Relay

/-- A relay at its start. -/
def start : Relay := ⟨.initiated, [.initiated]⟩

/-- The relay in its next state. -/
def enter (relay : Relay) (state : RelayState) : Relay := ⟨state, relay.history ++ [state]⟩

/-- A question of a relay. -/
inductive Request where
  /-- Sends at the source. -/
  | send (intent : Intent)
  /-- Redeems at the destination. -/
  | redeem (a : Attestation)
  /-- A question of the wait in between. -/
  | poll (request : Poller.Request)
deriving DecidableEq

/-- What is answered to a relay. -/
abbrev Request.Reply : Request → Type
  | send _ => Outcome SendReceipt
  | redeem _ => Outcome TxId
  | poll request => request.Reply

/-- The surroundings of a relay. -/
abbrev surroundings : Interface := ⟨Request, Request.Reply⟩

/-- What a relay does. -/
abbrev Action := Program surroundings

/-- Sends at the source. -/
def send (intent : Intent) : Action (Outcome SendReceipt) := Program.request (I := surroundings) (.send intent)

/-- Redeems at the destination. -/
def redeem (a : Attestation) : Action (Outcome TxId) := Program.request (I := surroundings) (.redeem a)

/-- Waits for an attestation. -/
def awaitAttestation (poller : Poller) (key : MessageKey) : Action (Outcome Attestation) :=
  ((poller.await key).via fun request => Program.request (I := surroundings) (.poll request)).attempt

/-- Checks that an attestation is the one that was awaited. -/
def checkAttestation (a : Attestation) (key : MessageKey) : Except Mismatch Unit :=
  if a.emitterChain ≠ key.chain then .error (.emitterChain a.emitterChain key.chain)
  else if a.emitter ≠ key.emitter then .error (.emitter a.emitter key.emitter)
  else if a.sequence ≠ key.sequence then .error (.sequence a.sequence key.sequence)
  else .ok ()

/-- The end of a relay by an error. -/
def stop (relay : Relay) (error : RelayError) : Relay × Outcome RelayReceipt :=
  (relay.enter (.failed error), .error error)

/-- The way of a relay from a message that is known to its end. -/
def complete (route : Route) (relay : Relay) (emitter : Address) (sequence : UInt64) (sourceTx : Option TxId) :
    Action (Relay × Outcome RelayReceipt) := do
  let relay := relay.enter (.awaitingAttestation sequence)
  let key : MessageKey := ⟨route.chain, emitter, sequence⟩
  match ← awaitAttestation route.poller key with
  | .error error => return relay.stop error
  | .ok a =>
    match checkAttestation a key with
    | .error mismatch => return relay.stop (.attestationMismatch mismatch)
    | .ok () =>
      let relay := relay.enter (.attested a)
      let conclude (redeemTx : Option TxId) : Relay × Outcome RelayReceipt :=
        (relay.enter (.redeemed sequence redeemTx), .ok { sequence, emitter, sourceTx, redeemTx, attestation := a })
      match ← redeem a with
      | .ok tx => return conclude (some tx)
      | .error .alreadyRedeemed => return conclude none
      | .error error => return relay.stop error

/-- Sends, waits for the attestation and redeems it. -/
def run (route : Route) (relay : Relay) (intent : Intent) : Action (Relay × Outcome RelayReceipt) := do
  match ← send intent with
  | .error error => return relay.stop error
  | .ok receipt =>
    complete route (relay.enter (.sent receipt.sequence receipt.tx)) receipt.emitter receipt.sequence
      (some receipt.tx)

/-- Goes on with a message that was sent before. -/
def resume (route : Route) (relay : Relay) (sequence : UInt64) : Action (Relay × Outcome RelayReceipt) :=
  match route.emitter with
  | .error error => return relay.stop error
  | .ok emitter => complete route relay emitter sequence none

end Relay

end GuardianRelay
