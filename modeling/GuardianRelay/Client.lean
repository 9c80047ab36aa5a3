import GuardianRelay.Error
import GuardianRelay.Http
import GuardianRelay.Json.Printer
import GuardianRelay.Program

/-!
# Clients

A client asks a server and reads its answers. Calls of a node's methods are posted as documents that carry a number;
no two calls of one client carry the same. A node answers a call with a result or with an error, and an error counts
before a result, whatever the status of the answer says.
-/

namespace GuardianRelay.Client

/-- A question of a client. -/
inductive Request where
  /-- An exchange with a server. -/
  | exchange (request : Http.Request)
  /-- A number for a call: one for the first, and one more for each that follows. -/
  | number
  /-- The time, in milliseconds. -/
  | now
  /-- A pause. -/
  | sleep (millis : Nat)

/-- What is answered to a client. An exchange that gets lost has no answer. -/
abbrev Request.Reply : Request → Type
  | exchange _ => Option Http.Response
  | number | now => Nat
  | sleep _ => Unit

/-- The surroundings of a client. -/
abbrev surroundings : Interface := ⟨Request, Request.Reply⟩

/-- What a client does. -/
abbrev Action := Program surroundings

/-- Asks a server at an address. -/
def exchange (address : String) (request : Http.Url → Http.Request) : Action Http.Response := do
  let url ← Program.ofOutcome (Outcome.ofRpc ((Http.Url.parseWeb address).mapError RpcFault.address))
  match ← Program.request (I := surroundings) (.exchange (request url)) with
  | some response => return response
  | none => throw (.rpc .undelivered)

/-- A number for a call. -/
def number : Action Nat := Program.request (I := surroundings) .number

/-- The time. -/
def now : Action Nat := Program.request (I := surroundings) .now

/-- Pauses. -/
def sleep (millis : Nat) : Action Unit := Program.request (I := surroundings) (.sleep millis)

/-- What was read from an answer. -/
def expect {α : Type} (outcome : Except Json.Misfit α) : Action α :=
  Program.ofOutcome (Outcome.ofRpc (outcome.mapError RpcFault.malformed))

/-! ### Calls of methods -/

/-- The document of a call. -/
def callDocument (id : Nat) (method : String) (params : List Json) : Json :=
  Json.ofMembers [("jsonrpc", .string "2.0"), ("id", Json.ofNat id), ("method", .string method),
    ("params", .array params)]

/-- Where a node is, and how what it says of a failed call is worded. -/
structure Node where
  url : String
  wording : (method : String) → (error : Json) → String

/-- The text of an error: its message, or all of it if it has none. -/
def errorText (error : Json) : String := ((error.get? "message").bind Json.string?).getD error.compress

/-- The result in the answer to a call. -/
def resultOf (node : Node) (method : String) (answer : Json) : Except RpcFault Json :=
  match answer.get? "error", answer.get? "result" with
  | some error, _ => .error (.nodeError (node.wording method error))
  | none, some result => .ok result
  | none, none => .error (.missingResult method)

/-- Calls a method. -/
def call (node : Node) (method : String) (params : List Json) : Action Json := do
  let id ← number
  let response ← exchange node.url (.post · (callDocument id method params))
  match response.document? with
  | none => throw (.rpc .undecodable)
  | some answer => Program.ofOutcome (Outcome.ofRpc (resultOf node method answer))

/-- Calls a method whose result is a text; `what` says which. -/
def callText (node : Node) (method what : String) (params : List Json) : Action String := do
  match (← call node method params).string? with
  | some text => return text
  | none => throw (.rpc (.notText method what))

end GuardianRelay.Client
