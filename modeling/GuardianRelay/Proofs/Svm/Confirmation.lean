import GuardianRelay.Proofs.Polling
import GuardianRelay.Svm.Client

/-!
# Waiting until a Transaction Lands

A client that has submitted a transaction asks the node for its status until it has landed, in
virtual time, where only pauses last. Each question is one call of a method, which is one exchange
with the server, and the answer is read from what the server answers; an exchange that gets lost and
an answer that is none are failures of the call.

A status decides the wait if it carries an error, whatever its level of commitment, or if its level
is as firm as the one that the client asks for. A call that fails decides it too.

## Main results

* `Client.Action.runFrom_call_bind`: a call, and what comes of it.
* `Svm.Node.verdict?_eq_ok_iff`: what it takes for a transaction to have landed.
* `Svm.Node.runFrom_awaitLanded`: when the wait asks, and how it ends.
-/

namespace GuardianRelay

namespace Client

/-- What a server answers in the exchange of a call, by the number of the call. -/
abbrev Server := ℕ → Http.Request → Option Http.Response

/-- Answers what a client asks, where only pauses last. Calls are numbered from one. -/
def inTime (server : Server) : (request : Request) → StateM Progress request.Reply
  | .exchange request => fun progress => (server progress.asked.length request, progress)
  | .number => fun progress => (progress.asked.length + 1, progress.ask)
  | .now => fun progress => (progress.now, progress)
  | .sleep millis => fun progress => ((), progress.pause millis)

/-- What becomes of an action that begins at a time, and how things stand when it has ended. -/
def Action.runFrom {α : Type} (action : Action α) (server : Server) (progress : Progress) :
    Outcome α × Progress :=
  (Program.run (inTime server) action).run progress

/-- What comes of an exchange in the call with a number. -/
def Server.response (server : Server) (address : String) (request : Http.Url → Http.Request)
    (number : ℕ) : Outcome Http.Response := do
  let url ← Outcome.ofRpc ((Http.Url.parseWeb address).mapError RpcFault.address)
  match server number (request url) with
  | some response => return response
  | none => throw (.rpc .undelivered)

/-- What comes of a call if there is an answer: the result in its document. -/
def resultIn (node : Node) (method : String) (response : Http.Response) : Outcome Json :=
  match response.document? with
  | some answer => Outcome.ofRpc (resultOf node method answer)
  | none => .error (.rpc .undecodable)

/-- What comes of the call with a number. -/
def Server.result (server : Server) (node : Node) (method : String) (params : List Json)
    (number : ℕ) : Outcome Json :=
  server.response node.url (.post · (callDocument number method params)) number >>=
    resultIn node method

variable {server : Server} {progress : Progress} {α : Type}

/-- To ask for the time takes none. -/
theorem Action.runFrom_now_bind {f : ℕ → Action α} :
    Action.runFrom (now >>= f) server progress = (f progress.now).runFrom server progress := rfl

/-- An exchange takes no time. -/
theorem Action.runFrom_exchange_bind {address : String} {request : Http.Url → Http.Request}
    {f : Http.Response → Action α} :
    Action.runFrom (exchange address request >>= f) server progress =
      Action.runFrom
        (Program.ofOutcome (server.response address request progress.asked.length) >>= f)
        server progress := by
  have hreply {β : Type} (sent : Http.Request) (g : Option Http.Response → Action β) :
      Action.runFrom (Program.request (I := surroundings) (.exchange sent) >>= g) server progress =
        (g (server progress.asked.length sent)).runFrom server progress := rfl
  rw [exchange, Server.response, bind_assoc]
  rcases Http.Url.parseWeb address with fault | url
  · rfl
  · have hsent : Outcome.ofRpc (Except.mapError RpcFault.address (.ok url)) = .ok url := rfl
    rw [hsent]
    simp only [Program.ofOutcome, Program.bind_done, bind_assoc, hreply]
    change _ = Action.runFrom (Program.ofOutcome (match server progress.asked.length (request url)
      with | some response => return response | none => throw (.rpc .undelivered)) >>= f) _ _
    cases server progress.asked.length (request url) <;> rfl

/-- **A call** is made, and its result is what comes of it. -/
theorem Action.runFrom_call_bind {node : Node} {method : String} {params : List Json}
    {f : Json → Action α} :
    Action.runFrom (call node method params >>= f) server progress =
      Action.runFrom
        (Program.ofOutcome (server.result node method params (progress.asked.length + 1)) >>= f)
        server progress.ask := by
  have hnumber {β : Type} (g : ℕ → Action β) :
      Action.runFrom (number >>= g) server progress =
        (g (progress.asked.length + 1)).runFrom server progress.ask := rfl
  rw [call, bind_assoc, hnumber, bind_assoc, runFrom_exchange_bind, progress.length_asked_ask,
    Server.result]
  rcases server.response _ _ _ with error | response
  · rfl
  · change _ = Action.runFrom (Program.ofOutcome (resultIn node method response) >>= f) _ _
    simp only [Program.ofOutcome, Program.bind_done, resultIn]
    cases response.document? <;> rfl

end Client

namespace Svm.Node

open Client (Server)

variable {node : Node} {tx : TxId} {server : Server} {progress : Progress}

/-- What comes of asking how a transaction stands, in the call with a number; nothing, while the
node does not know the transaction. -/
def standing (node : Node) (tx : TxId) (server : Server) (number : ℕ) :
    Outcome (Option Status) := do
  let result ← server.result node.client "getSignatureStatuses"
    [.array [.string tx], Json.ofMembers [("searchTransactionHistory", .bool true)]] number
  let statuses ← Outcome.ofRpc ((statuses result).mapError RpcFault.malformed)
  return statuses.head?.join

/-- How firm a status says that its transaction is; one that does not say so is not firm. -/
def Status.rank (status : Status) : ℕ := (status.level.map Node.rank).getD 0

/-- What the answer to a question for a status says of the transaction, if it decides the wait. -/
def verdict? (node : Node) (tx : TxId) : Outcome (Option Status) → Option (Outcome Unit)
  | .ok none => none
  | .ok (some status) =>
    match status.error with
    | some error => some (.error (.rpc (.transactionFailed tx error.compress)))
    | none => if Node.rank node.commitment ≤ status.rank then some (.ok ()) else none
  | .error error => some (.error error)

/-- **A transaction has landed** exactly if its status carries no error and is as firm as the client
asks for. -/
theorem verdict?_eq_ok_iff {answer : Outcome (Option Status)} :
    node.verdict? tx answer = some (.ok ()) ↔
      ∃ status, answer = .ok (some status) ∧ status.error = none ∧
        Node.rank node.commitment ≤ status.rank := by
  rcases answer with error | _ | status
  · simp [verdict?]
  · simp [verdict?]
  · cases herror : status.error <;> simp [verdict?, herror]

/-- When the wait for a transaction asks, if it starts at a time. -/
def schedule (node : Node) (start : ℕ) : Schedule where
  start := start
  intervalMillis := node.confirmationPollMillis
  timeoutMillis := node.confirmationTimeoutMillis

/-- The node is asked how a transaction stands. -/
theorem runFrom_status_bind {α : Type} {f : Option Status → Client.Action α} :
    Client.Action.runFrom (node.status tx >>= f) server progress =
      Client.Action.runFrom
        (Program.ofOutcome (node.standing tx server (progress.asked.length + 1)) >>= f)
        server progress.ask := by
  rw [status, standing, bind_assoc, Client.Action.runFrom_call_bind]
  rcases server.result _ _ _ _ with error | result
  · rfl
  · have hread : (do
        let statuses ← Client.expect (statuses result)
        return statuses.head?.join : Client.Action (Option Status)) =
          Program.ofOutcome (do
            let statuses ← Outcome.ofRpc ((statuses result).mapError RpcFault.malformed)
            return statuses.head?.join) := by
      rw [Client.expect]
      cases statuses result <;> rfl
    exact congrArg (fun read => Client.Action.runFrom (read >>= f) server progress.ask) hread

/-- The rounds of the wait are those of its schedule. -/
theorem runFrom_pollLanded_succ {start polls : ℕ} :
    (node.pollLanded tx start (polls + 1)).runFrom server progress =
      (node.schedule start).round (node.notCommitted tx) progress
        ((node.pollLanded tx start polls).runFrom server)
        (node.verdict? tx (node.standing tx server (progress.asked.length + 1))) := by
  -- what is left of a round that has not ended with its poll
  have hundecided : Client.Action.runFrom (do
        if node.confirmationTimeoutMillis ≤ (← Client.now) - start then throw (node.notCommitted tx)
        Client.sleep node.confirmationPollMillis
        node.pollLanded tx start polls) server progress.ask =
      (node.schedule start).round (node.notCommitted tx) progress
        ((node.pollLanded tx start polls).runFrom server) none := by
    rw [Client.Action.runFrom_now_bind, Schedule.round]
    change Client.Action.runFrom (if node.confirmationTimeoutMillis ≤ progress.now - start then _
      else _) _ _ = if node.confirmationTimeoutMillis ≤ progress.now - start then _ else _
    split <;> rfl
  rw [pollLanded, runFrom_status_bind]
  rcases node.standing tx server (progress.asked.length + 1) with error | _ | status
  · rfl
  · exact hundecided
  · dsimp only [hasLanded, verdict?, Status.rank, Program.ofOutcome, Program.bind_done]
    cases status.error with
    | some error => rfl
    | none =>
      by_cases hfirm : rank node.commitment ≤ (status.level.map rank).getD 0
      · simp only [hfirm, if_true]
        rfl
      · simp only [hfirm, if_false]
        exact hundecided

/-- **When the wait for a transaction asks, and how it ends.** It asks on its schedule, and it ends
on it as the answers decide. -/
theorem runFrom_awaitLanded (node : Node) (hinterval : 0 < node.confirmationPollMillis) (tx : TxId)
    (server : Server) (start : ℕ) (earlier : List ℕ) :
    ∃ n outcome,
      (node.awaitLanded tx).runFrom server ⟨start, earlier⟩ =
        (outcome, ⟨(node.schedule start).time n, earlier ++ (node.schedule start).times (n + 1)⟩) ∧
      (node.schedule start).Ends
        (fun k => node.verdict? tx (node.standing tx server (earlier.length + k + 1)))
        (node.notCommitted tx) n outcome := by
  have hpauses : 0 < (node.schedule start).intervalMillis := hinterval
  exact Schedule.exists_ends (fun k => node.verdict? tx (node.standing tx server (k + 1)))
    (fun polls => (node.pollLanded tx start polls).runFrom server) hpauses
    (fun _ _ => runFrom_pollLanded_succ) (Schedule.last_lt_pollLimit hpauses) earlier

end Svm.Node

end GuardianRelay
