import GuardianRelay.Endpoint
import GuardianRelay.Program

/-!
# Pairing two endpoints

Two endpoints accept each other's messages once each is registered with the other. Pairing registers both and then
reads both back, so that a pair which is reported is one that both chains hold.
-/

namespace GuardianRelay.Pairing

/-- The two endpoints of a pair. -/
inductive Side where
  /-- The endpoint that pairing starts from. -/
  | here
  /-- The endpoint on the other chain. -/
  | remote
deriving DecidableEq, Repr

/-- A question of a pairing. -/
inductive Request where
  /-- Registers an address for a chain, on a side. -/
  | register (side : Side) (foreign : ChainId) (address : Address)
  /-- Which address is registered for a chain, on a side. -/
  | registered (side : Side) (foreign : ChainId)
deriving DecidableEq

/-- What is answered to a pairing. -/
abbrev Request.Reply : Request → Type
  | register .. => Outcome Registration
  | registered .. => Outcome (Option Address)

/-- The surroundings of a pairing. -/
abbrev surroundings : Interface := ⟨Request, Request.Reply⟩

/-- What a pairing does. -/
abbrev Action := Program surroundings

/-- Registers an address on a side. -/
def register (side : Side) (foreign : ChainId) (address : Address) : Action Registration :=
  Program.ask (I := surroundings) (.register side foreign address) Program.ofOutcome

/-- Which address is registered on a side. -/
def registered (side : Side) (foreign : ChainId) : Action (Option Address) :=
  Program.ask (I := surroundings) (.registered side foreign) Program.ofOutcome

/-- What is known of two endpoints before they are paired. -/
structure Pair where
  /-- The chain of the endpoint that pairing starts from. -/
  chain : ChainId
  /-- What other chains register for that endpoint. -/
  address : Outcome Address
  /-- The chain of the remote endpoint. -/
  remoteChain : ChainId

/-- What became of both registrations. -/
structure Registrations where
  onHere : Registration
  onRemote : Registration
deriving DecidableEq

/-- Checks that a side, whose chain is `chain`, holds an address; none is the zero address. -/
def verify (side : Side) (chain foreign : ChainId) (expected : Address) : Action Unit := do
  let actual := (← registered side foreign).getD Address.zero
  if actual ≠ expected then throw (.registrationVerificationFailed chain expected actual)

/-- Pairs two endpoints. The caller names the remote chain and what is registered for it. -/
def pair (endpoints : Pair) (remoteChain : ChainId) (remoteAddress : Address) : Action Registrations := do
  if endpoints.remoteChain ≠ remoteChain then
    throw (.invalidForeignEndpoint (.wrongRemote endpoints.remoteChain remoteChain))
  let address ← Program.ofOutcome endpoints.address
  let onHere ← register .here remoteChain remoteAddress
  let onRemote ← register .remote endpoints.chain address
  verify .here endpoints.chain remoteChain remoteAddress
  verify .remote endpoints.remoteChain endpoints.chain address
  return { onHere, onRemote }

end GuardianRelay.Pairing
