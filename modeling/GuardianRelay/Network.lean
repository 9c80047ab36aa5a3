import Std.Async.DNS
import Std.Async.TCP
import GuardianRelay.Http.Wire
import GuardianRelay.Service

/-!
# Connections

The outer layer of exchanges: connections over TCP that carry one request and one response each, and a listener which
answers lookups from a store.
-/

namespace GuardianRelay.Network

open Std.Async Std.Net

/-- An address of a host, which may stand in brackets. -/
def resolve (host : String) (tcpPort : UInt16) : IO SocketAddress := do
  let host := String.ofList (host.toList.filter fun c => c != '[' && c != ']')
  let found : Array IPAddr ← Async.block (DNS.getAddrInfo host (toString tcpPort))
  match found.toList with
  | IPAddr.v4 addr :: _ => return .v4 ⟨addr, tcpPort⟩
  | IPAddr.v6 addr :: _ => return .v6 ⟨addr, tcpPort⟩
  | [] => throw (IO.userError s!"no address for {host}")

/-- Octets as a connection takes them. -/
def packed (b : Bytes) : ByteArray := ⟨b.toArray⟩

/-- Everything that comes in on a connection, or what comes in until it is enough. -/
partial def receive (client : TCP.Socket.Client) (enough : Bytes → Bool) (read : Bytes) : IO Bytes := do
  match ← Async.block (client.recv? 65536) with
  | none => return read
  | some more =>
    let read := read ++ more.toList
    if enough read then return read
    receive client enough read

/-- One request and its response. -/
def exchangeNow (request : Http.Request) : IO (Option Http.Response) := do
  if request.url.scheme ≠ "http" then return none
  let client ← TCP.Socket.Client.mk
  Async.block (client.connect (← resolve (request.url.host.getD "") request.url.listensAt))
  Async.block (client.send (packed request.encode))
  return Http.Response.decode? (← receive client (fun _ => false) [])

/-- Waits until a task has ended or the time is over. -/
partial def awaitUntil {α : Type} (task : Task α) (deadline : Option Nat) : IO (Option α) := do
  if ← IO.hasFinished task then return some task.get
  if deadline.any (· ≤ (← IO.monoMsNow)) then return none
  IO.sleep 1
  awaitUntil task deadline

/-- An exchange, which gets lost if it fails or if its time is over. -/
def exchange (limitMillis : Option Nat) (request : Http.Request) : IO (Option Http.Response) := do
  let start ← IO.monoMsNow
  let task ← IO.asTask (exchangeNow request)
  match ← awaitUntil task (limitMillis.map (start + ·)) with
  | some (.ok response) => return response
  | _ => return none

/-- Answers one request. -/
def answer (store : Store) (client : TCP.Socket.Client) : IO Unit := do
  let b ← receive client (fun b => (Http.splitHead? b).isSome) []
  let response : Service.Response :=
    match (Http.splitHead? b).bind fun (head, _) => Http.Request.startLine? head with
    | some ("GET", target) => Service.respond store target
    | some _ => Service.bare 405
    | none => Service.bare 400
  Async.block (client.send (packed (Http.Response.encode response.status response.body)))
  Async.block client.shutdown

/-- Answers one request after the other; one that fails does not keep the next from being answered. -/
partial def serve (server : TCP.Socket.Server) (store : Store) : IO Unit := do
  let client : TCP.Socket.Client ← Async.block server.accept
  let _ ← IO.asTask (answer store client)
  serve server store

/-- Listens for requests and answers them. -/
def listen (store : Store) (host : String) (tcpPort : UInt16) : IO Unit := do
  let server ← TCP.Socket.Server.mk
  server.bind (← resolve host tcpPort)
  server.listen 1024
  serve server store

end GuardianRelay.Network
