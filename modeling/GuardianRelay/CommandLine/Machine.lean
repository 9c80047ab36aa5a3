import GuardianRelay.Client
import GuardianRelay.Pairing
import GuardianRelay.Store

/-!
# What a command asks

A command asks for files, for exchanges with servers, for the time and for pauses, and, if it serves, for a listener.
It may use two endpoints. Each has a client of its own, which numbers its calls, and remembers the number of its
network.
-/

namespace GuardianRelay.CommandLine

open Pairing (Side)

namespace Machine

/-- A question of a command. -/
inductive Request where
  /-- The text of a file, or why it cannot be read. -/
  | fileText (path : String)
  /-- An exchange with a server, which may have only so many milliseconds. -/
  | exchange (limitMillis : Option Nat) (request : Http.Request)
  /-- A number for a call of the client of an endpoint. -/
  | number (side : Side)
  /-- The number of the network of an endpoint, if it is known already. -/
  | knownNetwork (side : Side)
  /-- The number of the network of an endpoint is known from now on. -/
  | keepNetwork (side : Side) (networkId : UInt64)
  /-- The time, in milliseconds. -/
  | now
  /-- A pause. -/
  | sleep (millis : Nat)
  /-- Answers lookups from a store until that is no longer possible; the answer is why. -/
  | listen (store : Store) (host : String) (tcpPort : UInt16)

/-- What is answered to a command. An exchange that gets lost has no answer. -/
abbrev Request.Reply : Request → Type
  | fileText _ => Except String String
  | exchange .. => Option Http.Response
  | number _ | now => Nat
  | knownNetwork _ => Option UInt64
  | keepNetwork .. | sleep _ => Unit
  | listen .. => String

end Machine

/-- The surroundings of a command. -/
abbrev surroundings : Interface := ⟨Machine.Request, Machine.Request.Reply⟩

/-- What a command does. -/
abbrev Action := Program surroundings

namespace Action

/-- Asks the surroundings. -/
def ask (r : Machine.Request) : Action r.Reply := Program.request (I := surroundings) r

/-- Answers what the client of a side asks, where exchanges may have only so many milliseconds. -/
def answerClient (side : Side) (limitMillis : Option Nat) : (request : Client.Request) → Action request.Reply
  | .exchange request => ask (.exchange limitMillis request)
  | .number => ask (.number side)
  | .now => ask .now
  | .sleep millis => ask (.sleep millis)

/-- What a client does on a side, and what becomes of it. -/
def ofClient {α : Type} (side : Side) (limitMillis : Option Nat) (action : Client.Action α) : Action (Outcome α) :=
  (Program.via (I := Client.surroundings) (answerClient side limitMillis) action).attempt

end Action

end GuardianRelay.CommandLine
