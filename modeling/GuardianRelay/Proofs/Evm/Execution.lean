import GuardianRelay.Evm.Endpoint
import GuardianRelay.Proofs.Evm.Envelope
import GuardianRelay.Proofs.Program
import Mathlib.Data.Nat.Notation

/-!
# Runs of Executions

What becomes of a call that a contract-model endpoint executes depends on a dozen answers of its
node, and each of them can be a failure. This module enumerates the runs: of the wait for a
receipt (`Endpoint.Polls`), of handing a transaction in (`Endpoint.Submits`), and of an execution
as a whole (`Endpoint.Executes`). What is promised of executions is read off these: what has to
be true before a transaction is handed in, that there is at most one, what a success means, and
where a failure can come from (`Endpoint.FailsBy`).

## Main results

* `Endpoint.runs_pollReceipt_iff`, `Endpoint.runs_submit_iff`, `Endpoint.runs_execute_iff`: the
  runs are exactly the ones enumerated.
* `Endpoint.Executes.submissions_eq`: an execution hands in nothing, or one transaction of the
  call that the simulation did not refuse and for which the account holds the cost as counted.
* `Endpoint.Executes.of_ok`: an execution that succeeds has a receipt that says so.
* `Endpoint.Executes.failsBy`: an execution that fails has one of six causes.
-/

namespace GuardianRelay.Evm

variable {exchanges : List (Exchange surroundings)}

/-! ### Questions to the node -/

/-- Whether a question is a simulation. -/
def NodeRequest.isSimulation : NodeRequest → Bool
  | estimateGas .. => true
  | _ => false

namespace Action

variable {α : Type}

/-- A question to the node is one exchange, and ends as it is answered. -/
theorem runs_node_iff {request : NodeRequest} {outcome : Outcome request.Answer} :
    (node request).Runs exchanges outcome ↔ exchanges = [⟨.node request, outcome⟩] := by
  rw [node, Program.runs_ask_iff]
  simp only [Program.runs_ofOutcome_iff]
  constructor
  · rintro ⟨reply, later, rfl, rfl, rfl⟩
    rfl
  · rintro rfl
    exact ⟨outcome, [], rfl, rfl, rfl⟩

/-- Going on after a question to the node, unless the answer is a failure. -/
theorem runs_node_bind_iff {request : NodeRequest} {f : request.Answer → Action α}
    {outcome : Outcome α} :
    (node request >>= f).Runs exchanges outcome ↔
      (∃ answer later, exchanges = ⟨.node request, .ok answer⟩ :: later ∧
        (f answer).Runs later outcome) ∨
      ∃ error, exchanges = [⟨.node request, .error error⟩] ∧ outcome = .error error := by
  simp only [Program.runs_bind_iff, runs_node_iff]
  constructor
  · rintro (⟨answer, _, later, rfl, hlater, rfl⟩ | ⟨error, rfl, rfl⟩)
    · exact .inl ⟨answer, later, rfl, hlater⟩
    · exact .inr ⟨error, rfl, rfl⟩
  · rintro (⟨answer, later, rfl, hlater⟩ | ⟨error, rfl, rfl⟩)
    · exact .inl ⟨answer, _, later, rfl, hlater, rfl⟩
    · exact .inr ⟨error, rfl, rfl⟩

/-- The failure that the node answered in an exchange. -/
def failure? : Exchange surroundings → Option RelayError
  | ⟨.node _, .error error⟩ => some error
  | _ => none

/-- The failures that the node answered, in their order. -/
def failures (exchanges : List (Exchange surroundings)) : List RelayError :=
  exchanges.filterMap failure?

/-- A question that was answered with a failure adds it to the failures. -/
theorem mem_failures {request : NodeRequest} {error : RelayError}
    (h : (⟨.node request, .error error⟩ : Exchange surroundings) ∈ exchanges) :
    error ∈ failures exchanges :=
  List.mem_filterMap.mpr ⟨_, h, rfl⟩

/-- More exchanges have more failures. -/
theorem failures_subset {more : List (Exchange surroundings)} (h : exchanges ⊆ more) :
    failures exchanges ⊆ failures more :=
  List.filterMap_subset _ h

/-- How the number of the network is learned: it is known, or the node tells it and it is kept. -/
inductive Learns : List (Exchange surroundings) → Outcome UInt64 → Prop
  | known (id : UInt64) : Learns [⟨.knownNetwork, some id⟩] (.ok id)
  | told (id : UInt64) :
      Learns [⟨.knownNetwork, none⟩, ⟨.node .networkId, .ok id⟩, ⟨.keepNetwork id, ()⟩] (.ok id)
  | untold (error : RelayError) :
      Learns [⟨.knownNetwork, none⟩, ⟨.node .networkId, .error error⟩] (.error error)

/-- The number of the network is learned in one of these ways. -/
theorem runs_networkId_iff {outcome : Outcome UInt64} :
    networkId.Runs exchanges outcome ↔ Learns exchanges outcome := by
  rw [networkId, Program.runs_request_bind_iff]
  constructor
  · rintro ⟨known, later, rfl, hlater⟩
    cases known with
    | some id =>
        obtain ⟨rfl, rfl⟩ := Program.runs_done_iff.mp hlater
        exact .known id
    | none =>
        obtain ⟨id, _, rfl, hkeep⟩ | ⟨error, rfl, rfl⟩ := runs_node_bind_iff.mp hlater
        · obtain ⟨_, _, rfl, hdone⟩ := Program.runs_request_bind_iff.mp hkeep
          obtain ⟨rfl, rfl⟩ := Program.runs_done_iff.mp hdone
          exact .told id
        · exact .untold error
  · rintro (id | id | error)
    · exact ⟨some id, [], rfl, .done id⟩
    · exact ⟨none, _, rfl, .ask (.ask (.done id))⟩
    · exact ⟨none, _, rfl, .ask (.fail error)⟩

end Action

/-! ### Transactions that are handed in -/

/-- The transaction that an exchange hands in. -/
def submission? : Exchange surroundings → Option SignedTransaction
  | ⟨.node (.submit signed), _⟩ => some signed
  | _ => none

/-- The transactions that exchanges hand in, in their order. -/
def submissions (exchanges : List (Exchange surroundings)) : List SignedTransaction :=
  exchanges.filterMap submission?

@[simp] theorem submissions_append (first second : List (Exchange surroundings)) :
    submissions (first ++ second) = submissions first ++ submissions second :=
  List.filterMap_append

/-- Nothing is handed in to learn the number of the network. -/
theorem Action.Learns.submissions_eq_nil {outcome : Outcome UInt64}
    (h : Action.Learns exchanges outcome) : submissions exchanges = [] := by
  cases h <;> rfl

namespace Endpoint

variable {endpoint : Endpoint} {call : Call} {value : ℕ}

/-! ### The gas limit -/

/-- The gas limit that follows from what the simulation of a call was answered. -/
def limitAfter (endpoint : Endpoint) : Outcome UInt64 → Outcome UInt64
  | .ok estimate => .ok (scaledGas estimate)
  | .error error =>
    if error.rpcText?.any saysReverted then .error error
    else .ok endpoint.settings.defaultGasLimit

/-- A call that has a gas limit was not refused as one that would revert. -/
theorem not_saysReverted_of_limitAfter {error : RelayError} {limit : UInt64}
    (h : endpoint.limitAfter (.error error) = .ok limit) :
    ¬ error.rpcText?.any saysReverted := by
  intro hreverted
  rw [limitAfter, if_pos hreverted] at h
  contradiction

/-- A call is refused with the answer that the simulation gave. -/
theorem eq_error_of_limitAfter {simulation : Outcome UInt64} {error : RelayError}
    (h : endpoint.limitAfter simulation = .error error) : simulation = .error error := by
  cases simulation with
  | ok estimate => contradiction
  | error answered =>
      rw [limitAfter] at h
      split at h
      next => exact h
      next => contradiction

/-- The simulation is one question, and its answer determines the limit. -/
theorem gasLimit_eq (contract : EvmAddress) (data : Bytes) :
    endpoint.gasLimit contract data value =
      Program.ask (I := surroundings)
        (.node (.estimateGas endpoint.sender contract data value))
        fun simulation => Program.ofOutcome (endpoint.limitAfter simulation) := by
  refine congrArg (Program.ask _) (funext fun simulation => ?_)
  cases simulation with
  | ok estimate => rfl
  | error error =>
      change (if error.rpcText?.any saysReverted then Program.fail error
        else Program.done endpoint.settings.defaultGasLimit) =
          Program.ofOutcome (if error.rpcText?.any saysReverted then _ else _)
      split <;> rfl

/-- Going on with the gas limit, unless the call was refused. -/
theorem runs_gasLimit_bind_iff {α : Type} {contract : EvmAddress} {data : Bytes}
    {f : UInt64 → Action α} {outcome : Outcome α} :
    (endpoint.gasLimit contract data value >>= f).Runs exchanges outcome ↔
      ∃ simulation later, exchanges =
          ⟨.node (.estimateGas endpoint.sender contract data value), simulation⟩ :: later ∧
        ((∃ limit, endpoint.limitAfter simulation = .ok limit ∧
            (f limit).Runs later outcome) ∨
          ∃ error, endpoint.limitAfter simulation = .error error ∧ later = [] ∧
            outcome = .error error) := by
  rw [gasLimit_eq, Program.bind_ask, Program.runs_ask_iff]
  simp only [Program.runs_ofOutcome_bind_iff]

/-! ### Handing in -/

/-- How a transaction is handed in, and what becomes of that. -/
inductive Submits (endpoint : Endpoint) (transaction : UnsignedTransaction) (gasPrice : ℕ)
    (networkId : UInt64) : List (Exchange surroundings) → Outcome TxId → Prop
  /-- The node did not say which number comes next. -/
  | uncounted (error : RelayError) :
      Submits endpoint transaction gasPrice networkId
        [⟨.lock, ()⟩, ⟨.node (.transactionCount endpoint.sender), .error error⟩, ⟨.unlock, ()⟩]
        (.error error)
  /-- The signer did not sign. -/
  | unsigned {nonce : UInt64} {fault : SigningFault} :
      signLegacy endpoint.signer transaction ⟨nonce, gasPrice, networkId⟩ = .error fault →
      Submits endpoint transaction gasPrice networkId
        [⟨.lock, ()⟩, ⟨.node (.transactionCount endpoint.sender), .ok nonce⟩, ⟨.unlock, ()⟩]
        (.error (.signing fault))
  /-- The node was given the transaction and took it, or did not. -/
  | handedIn {nonce : UInt64} {signed : SignedTransaction} (answer : Outcome TxId) :
      signLegacy endpoint.signer transaction ⟨nonce, gasPrice, networkId⟩ = .ok signed →
      Submits endpoint transaction gasPrice networkId
        [⟨.lock, ()⟩, ⟨.node (.transactionCount endpoint.sender), .ok nonce⟩,
          ⟨.node (.submit signed), answer⟩, ⟨.unlock, ()⟩]
        answer

/-- A transaction is handed in in one of these ways. -/
theorem runs_submit_iff {transaction : UnsignedTransaction} {gasPrice : ℕ} {networkId : UInt64}
    {outcome : Outcome TxId} :
    (endpoint.submit transaction gasPrice networkId).Runs exchanges outcome ↔
      Submits endpoint transaction gasPrice networkId exchanges outcome := by
  rw [submit, Action.locked, Program.runs_request_bind_iff]
  constructor
  · rintro ⟨_, _, rfl, hlocked⟩
    obtain ⟨result, _, _, hresult, hunlock, rfl⟩ := Program.runs_attempt_bind_iff.mp hlocked
    obtain ⟨_, _, rfl, hend⟩ := Program.runs_request_bind_iff.mp hunlock
    obtain ⟨rfl, rfl⟩ := Program.runs_ofOutcome_iff.mp hend
    obtain ⟨nonce, _, rfl, hsign⟩ | ⟨error, rfl, rfl⟩ := Action.runs_node_bind_iff.mp hresult
    · obtain ⟨signed, hsigned, hsubmit⟩ | ⟨error, herror, rfl, rfl⟩ :=
        Program.runs_ofOutcome_bind_iff.mp hsign
      · obtain rfl := Action.runs_node_iff.mp hsubmit
        exact .handedIn outcome (Outcome.mapError_eq_ok_iff.mp hsigned)
      · obtain ⟨fault, hfault, rfl⟩ := Outcome.mapError_eq_error_iff.mp herror
        exact .unsigned hfault
    · exact .uncounted error
  · intro h
    -- what is done under the lock, and how it ends
    obtain ⟨inside, hinside, rfl⟩ : ∃ inside,
        (Action.transactionCount endpoint.sender >>= fun nonce =>
          Program.ofOutcome (Outcome.ofSigned
            (signLegacy endpoint.signer transaction { nonce, gasPrice, networkId })) >>=
          Action.submit).Runs inside outcome ∧
        exchanges = ⟨.lock, ()⟩ :: (inside ++ [⟨.unlock, ()⟩]) := by
      cases h with
      | uncounted error =>
          exact ⟨_, Action.runs_node_bind_iff.mpr (.inr ⟨error, rfl, rfl⟩), rfl⟩
      | @unsigned nonce fault hfault =>
          refine ⟨_, Action.runs_node_bind_iff.mpr (.inl ⟨nonce, [], rfl, ?_⟩), rfl⟩
          exact Program.runs_ofOutcome_bind_iff.mpr
            (.inr ⟨_, Outcome.mapError_eq_error_iff.mpr ⟨fault, hfault, rfl⟩, rfl, rfl⟩)
      | @handedIn nonce signed _ hsigned =>
          refine ⟨_, Action.runs_node_bind_iff.mpr
            (.inl ⟨nonce, [⟨.node (.submit signed), outcome⟩], rfl, ?_⟩), rfl⟩
          exact Program.runs_ofOutcome_bind_iff.mpr
            (.inl ⟨signed, Outcome.mapError_eq_ok_iff.mpr hsigned,
              Action.runs_node_iff.mpr rfl⟩)
    refine ⟨(), _, rfl, Program.runs_attempt_bind_iff.mpr ⟨outcome, _, _, hinside, ?_, rfl⟩⟩
    exact Program.runs_request_bind_iff.mpr
      ⟨(), [], rfl, Program.runs_ofOutcome_iff.mpr ⟨rfl, rfl⟩⟩

/-! ### Waiting for a receipt -/

/-- How a wait goes that may ask so many times for the receipt of a transaction. -/
inductive Polls (endpoint : Endpoint) (tx : TxId) (start : ℕ) :
    ℕ → List (Exchange surroundings) → Outcome Receipt → Prop
  /-- There are no more questions left. -/
  | exhausted :
      Polls endpoint tx start 0 []
        (.error (.rpc (.unconfirmed tx endpoint.settings.confirmationSeconds)))
  /-- The node failed. -/
  | unanswered {polls : ℕ} (error : RelayError) :
      Polls endpoint tx start (polls + 1) [⟨.node (.receipt tx), .error error⟩] (.error error)
  /-- The transaction succeeded. -/
  | confirmed {polls : ℕ} {receipt : Receipt} :
      receipt.succeeded = true →
      Polls endpoint tx start (polls + 1) [⟨.node (.receipt tx), .ok (some receipt)⟩]
        (.ok receipt)
  /-- The transaction failed. -/
  | reverted {polls : ℕ} {receipt : Receipt} :
      receipt.succeeded = false →
      Polls endpoint tx start (polls + 1) [⟨.node (.receipt tx), .ok (some receipt)⟩]
        (.error (.rpc (.reverted tx)))
  /-- The transaction is still waiting, and the time is over. -/
  | late {polls now : ℕ} :
      endpoint.settings.confirmationMillis ≤ now - start →
      Polls endpoint tx start (polls + 1) [⟨.node (.receipt tx), .ok none⟩, ⟨.now, now⟩]
        (.error (.rpc (.unconfirmed tx endpoint.settings.confirmationSeconds)))
  /-- The transaction is still waiting, and so does the endpoint. -/
  | again {polls now : ℕ} {later : List (Exchange surroundings)} {outcome : Outcome Receipt} :
      now - start < endpoint.settings.confirmationMillis →
      Polls endpoint tx start polls later outcome →
      Polls endpoint tx start (polls + 1)
        (⟨.node (.receipt tx), .ok none⟩ :: ⟨.now, now⟩ ::
          ⟨.sleep endpoint.settings.receiptPollMillis.toNat, ()⟩ :: later) outcome

/-- A wait goes in one of these ways. -/
theorem runs_pollReceipt_iff {tx : TxId} {start polls : ℕ} {outcome : Outcome Receipt} :
    (endpoint.pollReceipt tx start polls).Runs exchanges outcome ↔
      Polls endpoint tx start polls exchanges outcome := by
  induction polls generalizing exchanges with
  | zero =>
      rw [pollReceipt, Program.throw_eq, Program.runs_fail_iff]
      constructor
      · rintro ⟨rfl, rfl⟩
        exact .exhausted
      · rintro ⟨⟩
        exact ⟨rfl, rfl⟩
  | succ polls ih =>
      rw [pollReceipt]
      constructor
      · intro h
        obtain ⟨answer, later, rfl, hlater⟩ | ⟨error, rfl, rfl⟩ :=
          Action.runs_node_bind_iff.mp h
        · cases answer with
          | some receipt =>
              dsimp only at hlater
              split at hlater
              next hsucceeded =>
                obtain ⟨rfl, rfl⟩ := Program.runs_done_iff.mp hlater
                exact .confirmed hsucceeded
              next hfailed =>
                obtain ⟨rfl, rfl⟩ := Program.runs_fail_iff.mp hlater
                exact .reverted (Bool.eq_false_iff.mpr hfailed)
          | none =>
              obtain ⟨now, _, rfl, hnow⟩ := Program.runs_request_bind_iff.mp hlater
              dsimp only at hnow
              split at hnow
              next hlate =>
                obtain ⟨rfl, rfl⟩ := Program.runs_fail_iff.mp hnow
                exact .late hlate
              next hearly =>
                obtain ⟨_, _, rfl, hagain⟩ := Program.runs_request_bind_iff.mp hnow
                exact .again (Nat.lt_of_not_le hearly) (ih.mp hagain)
        · exact .unanswered error
      · intro h
        refine Action.runs_node_bind_iff.mpr ?_
        cases h with
        | unanswered error => exact .inr ⟨error, rfl, rfl⟩
        | @confirmed _ receipt hsucceeded =>
            refine .inl ⟨some receipt, [], rfl, ?_⟩
            dsimp only
            rw [if_pos hsucceeded]
            exact .done receipt
        | @reverted _ receipt hfailed =>
            refine .inl ⟨some receipt, [], rfl, ?_⟩
            dsimp only
            rw [if_neg (Bool.eq_false_iff.mp hfailed)]
            exact .fail _
        | @late _ now hlate =>
            refine .inl ⟨none, _, rfl, Program.runs_request_bind_iff.mpr ⟨now, [], rfl, ?_⟩⟩
            dsimp only
            rw [if_pos hlate]
            exact .fail _
        | @again _ now later _ hearly hagain =>
            refine .inl ⟨none, _, rfl, Program.runs_request_bind_iff.mpr ⟨now, _, rfl, ?_⟩⟩
            dsimp only
            rw [if_neg (Nat.not_le_of_lt hearly)]
            exact Program.runs_request_bind_iff.mpr ⟨(), later, rfl, ih.mpr hagain⟩

/-! ### Executions -/

/-- What a node said of a call before it was submitted: what the simulation gave, what gas costs,
and what the account holds. -/
structure Estimate where
  simulation : Outcome UInt64
  gasPrice : ℕ
  held : ℕ

namespace Estimate

/-- The three questions, with their answers. -/
def asked (estimate : Estimate) (endpoint : Endpoint) (call : Call) (value : ℕ) :
    List (Exchange surroundings) :=
  [⟨.node (.estimateGas endpoint.sender endpoint.program call.encode value),
      estimate.simulation⟩,
    ⟨.node .gasPrice, .ok estimate.gasPrice⟩,
    ⟨.node (.balance endpoint.sender), .ok estimate.held⟩]

/-- The simulation did not refuse the call, it has this gas limit, and the account holds the cost of
the attached value and all the gas, as it is counted. -/
def Affords (estimate : Estimate) (endpoint : Endpoint) (value : ℕ) (limit : UInt64) : Prop :=
  endpoint.limitAfter estimate.simulation = .ok limit ∧
    callCost value limit estimate.gasPrice ≤ estimate.held

end Estimate

/-- A cost that 128 bits can hold is counted in full. -/
theorem callCost_of_lt {value gasPrice : ℕ} {limit : UInt64}
    (h : value + limit.toNat * gasPrice < 2 ^ 128) :
    callCost value limit gasPrice = value + limit.toNat * gasPrice := by
  rw [callCost, BitVec.toNat_ofNat]
  exact Nat.mod_eq_of_lt h

/-- No more is counted than a call can cost. -/
theorem callCost_le (value gasPrice : ℕ) (limit : UInt64) :
    callCost value limit gasPrice ≤ value + limit.toNat * gasPrice := by
  rw [callCost, BitVec.toNat_ofNat]
  exact Nat.mod_le _ _

/-- An account that holds the cost as it is counted can pay all of it, if 128 bits can hold it. -/
theorem Estimate.Affords.pays {estimate : Estimate} {value : ℕ} {limit : UInt64}
    (h : estimate.Affords endpoint value limit)
    (hcounted : value + limit.toNat * estimate.gasPrice < 2 ^ 128) :
    value + limit.toNat * estimate.gasPrice ≤ estimate.held :=
  callCost_of_lt hcounted ▸ h.2

/-- The transaction of a call. -/
def transaction (endpoint : Endpoint) (call : Call) (value : ℕ) (limit : UInt64) :
    UnsignedTransaction :=
  .call endpoint.chain endpoint.program call.encode value limit

/-- How a call is executed. -/
inductive Executes (endpoint : Endpoint) (call : Call) (value : ℕ) :
    List (Exchange surroundings) → Outcome Receipt → Prop
  /-- The simulation refused the call. -/
  | refused {simulation : Outcome UInt64} {error : RelayError} :
      endpoint.limitAfter simulation = .error error →
      Executes endpoint call value
        [⟨.node (.estimateGas endpoint.sender endpoint.program call.encode value), simulation⟩]
        (.error error)
  /-- The node did not say what gas costs. -/
  | unpriced {simulation : Outcome UInt64} {limit : UInt64} (error : RelayError) :
      endpoint.limitAfter simulation = .ok limit →
      Executes endpoint call value
        [⟨.node (.estimateGas endpoint.sender endpoint.program call.encode value), simulation⟩,
          ⟨.node .gasPrice, .error error⟩]
        (.error error)
  /-- The node did not say what the account holds. -/
  | unweighed {simulation : Outcome UInt64} {limit : UInt64} (gasPrice : ℕ)
      (error : RelayError) :
      endpoint.limitAfter simulation = .ok limit →
      Executes endpoint call value
        [⟨.node (.estimateGas endpoint.sender endpoint.program call.encode value), simulation⟩,
          ⟨.node .gasPrice, .ok gasPrice⟩, ⟨.node (.balance endpoint.sender), .error error⟩]
        (.error error)
  /-- The account holds less than the cost that was counted. -/
  | unaffordable (estimate : Estimate) {limit : UInt64} :
      endpoint.limitAfter estimate.simulation = .ok limit →
      estimate.held < callCost value limit estimate.gasPrice →
      Executes endpoint call value (estimate.asked endpoint call value)
        (.error (.insufficientFunds (callCost value limit estimate.gasPrice) estimate.held))
  /-- The number of the network was not to be had. -/
  | unnamed {estimate : Estimate} {limit : UInt64} {learning : List (Exchange surroundings)}
      {error : RelayError} :
      estimate.Affords endpoint value limit →
      Action.Learns learning (.error error) →
      Executes endpoint call value (estimate.asked endpoint call value ++ learning)
        (.error error)
  /-- The transaction was not taken. -/
  | unsubmitted {estimate : Estimate} {limit : UInt64} {networkId : UInt64}
      {learning submitting : List (Exchange surroundings)} {error : RelayError} :
      estimate.Affords endpoint value limit →
      Action.Learns learning (.ok networkId) →
      Submits endpoint (endpoint.transaction call value limit) estimate.gasPrice networkId
        submitting (.error error) →
      Executes endpoint call value
        (estimate.asked endpoint call value ++ (learning ++ submitting)) (.error error)
  /-- The transaction was taken, and its receipt waited for. -/
  | submitted {estimate : Estimate} {limit : UInt64} {networkId : UInt64} {tx : TxId}
      {start : ℕ} {learning submitting waiting : List (Exchange surroundings)}
      {outcome : Outcome Receipt} :
      estimate.Affords endpoint value limit →
      Action.Learns learning (.ok networkId) →
      Submits endpoint (endpoint.transaction call value limit) estimate.gasPrice networkId
        submitting (.ok tx) →
      Polls endpoint tx start
        (pollLimit endpoint.settings.receiptPollMillis.toNat
          endpoint.settings.confirmationMillis) waiting outcome →
      Executes endpoint call value
        (estimate.asked endpoint call value ++
          (learning ++ (submitting ++ ⟨.now, start⟩ :: waiting))) outcome

/-- An execution that gets past the account's balance goes on with the number of the network. -/
theorem runs_execute_of_affords {estimate : Estimate} {limit : UInt64}
    {later : List (Exchange surroundings)} {outcome : Outcome Receipt}
    (hafford : estimate.Affords endpoint value limit)
    (hlater : (Action.networkId >>= fun networkId =>
      endpoint.submit (endpoint.transaction call value limit) estimate.gasPrice networkId >>=
        endpoint.awaitReceipt).Runs later outcome) :
    (endpoint.execute call value).Runs (estimate.asked endpoint call value ++ later)
      outcome := by
  refine runs_gasLimit_bind_iff.mpr ⟨_, _, rfl, .inl ⟨limit, hafford.1, ?_⟩⟩
  refine Action.runs_node_bind_iff.mpr (.inl ⟨estimate.gasPrice, _, rfl, ?_⟩)
  refine Action.runs_node_bind_iff.mpr (.inl ⟨estimate.held, _, rfl, ?_⟩)
  dsimp only
  rw [if_neg (Nat.not_lt_of_le hafford.2)]
  exact hlater

/-- A call is executed in one of these ways. -/
theorem runs_execute_iff {outcome : Outcome Receipt} :
    (endpoint.execute call value).Runs exchanges outcome ↔
      Executes endpoint call value exchanges outcome := by
  rw [execute, runs_gasLimit_bind_iff]
  constructor
  · rintro ⟨simulation, _, rfl, ⟨limit, hlimit, hpricing⟩ | ⟨error, hrefused, rfl, rfl⟩⟩
    · obtain ⟨gasPrice, _, rfl, hweighing⟩ | ⟨error, rfl, rfl⟩ :=
        Action.runs_node_bind_iff.mp hpricing
      · obtain ⟨held, _, rfl, hpaying⟩ | ⟨error, rfl, rfl⟩ :=
          Action.runs_node_bind_iff.mp hweighing
        · dsimp only at hpaying
          split at hpaying
          next hpoor =>
            obtain ⟨rfl, rfl⟩ := Program.runs_fail_iff.mp hpaying
            exact Executes.unaffordable ⟨simulation, gasPrice, held⟩ hlimit hpoor
          next hrich =>
            have hafford : Estimate.Affords ⟨simulation, gasPrice, held⟩ endpoint value limit :=
              ⟨hlimit, Nat.le_of_not_lt hrich⟩
            obtain ⟨networkId, learning, _, hlearning, hnamed, rfl⟩ |
              ⟨error, hlearning, rfl⟩ := Program.runs_bind_iff.mp hpaying
            · rw [Action.runs_networkId_iff] at hlearning
              obtain ⟨tx, submitting, _, hsubmitting, htaken, rfl⟩ |
                ⟨error, hsubmitting, rfl⟩ := Program.runs_bind_iff.mp hnamed
              · obtain ⟨start, waiting, rfl, hwaiting⟩ :=
                  Program.runs_request_bind_iff.mp htaken
                exact .submitted hafford hlearning (runs_submit_iff.mp hsubmitting)
                  (runs_pollReceipt_iff.mp hwaiting)
              · exact .unsubmitted hafford hlearning (runs_submit_iff.mp hsubmitting)
            · exact .unnamed hafford (Action.runs_networkId_iff.mp hlearning)
        · exact .unweighed gasPrice error hlimit
      · exact .unpriced error hlimit
    · exact .refused hrefused
  · intro h
    rw [← runs_gasLimit_bind_iff]
    cases h with
    | refused hrefused =>
        exact runs_gasLimit_bind_iff.mpr ⟨_, [], rfl, .inr ⟨_, hrefused, rfl, rfl⟩⟩
    | unpriced error hlimit =>
        refine runs_gasLimit_bind_iff.mpr ⟨_, _, rfl, .inl ⟨_, hlimit, ?_⟩⟩
        exact Action.runs_node_bind_iff.mpr (.inr ⟨error, rfl, rfl⟩)
    | unweighed gasPrice error hlimit =>
        refine runs_gasLimit_bind_iff.mpr ⟨_, _, rfl, .inl ⟨_, hlimit, ?_⟩⟩
        refine Action.runs_node_bind_iff.mpr (.inl ⟨gasPrice, _, rfl, ?_⟩)
        exact Action.runs_node_bind_iff.mpr (.inr ⟨error, rfl, rfl⟩)
    | @unaffordable estimate _ hlimit hpoor =>
        refine runs_gasLimit_bind_iff.mpr ⟨_, _, rfl, .inl ⟨_, hlimit, ?_⟩⟩
        refine Action.runs_node_bind_iff.mpr (.inl ⟨estimate.gasPrice, _, rfl, ?_⟩)
        refine Action.runs_node_bind_iff.mpr (.inl ⟨estimate.held, [], rfl, ?_⟩)
        dsimp only
        rw [if_pos hpoor]
        exact .fail _
    | unnamed hafford hlearning =>
        exact runs_execute_of_affords hafford
          (Program.runs_bind_iff.mpr (.inr ⟨_, Action.runs_networkId_iff.mpr hlearning, rfl⟩))
    | unsubmitted hafford hlearning hsubmitting =>
        refine runs_execute_of_affords hafford (Program.runs_bind_iff.mpr
          (.inl ⟨_, _, _, Action.runs_networkId_iff.mpr hlearning, ?_, rfl⟩))
        exact Program.runs_bind_iff.mpr (.inr ⟨_, runs_submit_iff.mpr hsubmitting, rfl⟩)
    | submitted hafford hlearning hsubmitting hwaiting =>
        refine runs_execute_of_affords hafford (Program.runs_bind_iff.mpr
          (.inl ⟨_, _, _, Action.runs_networkId_iff.mpr hlearning, ?_, rfl⟩))
        refine Program.runs_bind_iff.mpr
          (.inl ⟨_, _, _, runs_submit_iff.mpr hsubmitting, ?_, rfl⟩)
        exact Program.runs_request_bind_iff.mpr
          ⟨_, _, rfl, runs_pollReceipt_iff.mpr hwaiting⟩

/-! ### What executions submit -/

/-- Nothing is handed in while a receipt is waited for. -/
theorem Polls.submissions_eq_nil {tx : TxId} {start polls : ℕ} {outcome : Outcome Receipt}
    (h : Polls endpoint tx start polls exchanges outcome) : submissions exchanges = [] := by
  induction h with
  | again _ _ ih => exact ih
  | _ => rfl

/-- The transaction is handed in once, or not at all. -/
theorem Submits.submissions_eq {transaction : UnsignedTransaction} {gasPrice : ℕ}
    {networkId : UInt64} {outcome : Outcome TxId}
    (h : Submits endpoint transaction gasPrice networkId exchanges outcome) :
    submissions exchanges = [] ∨
      ∃ signed, submissions exchanges = [signed] ∧ signed.transaction = transaction := by
  cases h with
  | uncounted | unsigned => exact .inl rfl
  | handedIn answer hsigned => exact .inr ⟨_, rfl, transaction_eq_of_signLegacy hsigned⟩

/-- If the node took a transaction, the exchange in which it did is there. -/
theorem Submits.mem_of_ok {transaction : UnsignedTransaction} {gasPrice : ℕ}
    {networkId : UInt64} {tx : TxId}
    (h : Submits endpoint transaction gasPrice networkId exchanges (.ok tx)) :
    ∃ signed, (⟨.node (.submit signed), .ok tx⟩ : Exchange surroundings) ∈ exchanges := by
  cases h with
  | @handedIn _ signed _ _ =>
      exact ⟨signed, List.mem_cons_of_mem _ (List.mem_cons_of_mem _ List.mem_cons_self)⟩

/-- If a transaction was not taken, the node answered a question with a failure, or the signer
did not sign. -/
theorem Submits.of_error {transaction : UnsignedTransaction} {gasPrice : ℕ}
    {networkId : UInt64} {error : RelayError}
    (h : Submits endpoint transaction gasPrice networkId exchanges (.error error)) :
    (∃ request, request.isSimulation = false ∧
        (⟨.node request, .error error⟩ : Exchange surroundings) ∈ exchanges) ∨
      ∃ fields fault, signLegacy endpoint.signer transaction fields = .error fault ∧
        error = .signing fault := by
  cases h with
  | uncounted => exact .inl ⟨_, rfl, List.mem_cons_of_mem _ List.mem_cons_self⟩
  | unsigned hfault => exact .inr ⟨_, _, hfault, rfl⟩
  | handedIn =>
      exact .inl ⟨_, rfl, List.mem_cons_of_mem _ (List.mem_cons_of_mem _ List.mem_cons_self)⟩

@[simp] theorem Estimate.submissions_asked (estimate : Estimate) :
    submissions (estimate.asked endpoint call value) = [] := rfl

/-- An execution submits nothing, or, once, the transaction of the call, after an estimate by
which the call is not refused and the account can pay. -/
theorem Executes.submissions_eq {outcome : Outcome Receipt}
    (h : Executes endpoint call value exchanges outcome) :
    submissions exchanges = [] ∨ ∃ estimate limit later signed,
      exchanges = estimate.asked endpoint call value ++ later ∧
      Estimate.Affords estimate endpoint value limit ∧
      submissions exchanges = [signed] ∧
      signed.transaction = endpoint.transaction call value limit := by
  cases h with
  | refused | unpriced | unweighed | unaffordable => exact .inl rfl
  | unnamed _ hlearning => exact .inl (by simp [hlearning.submissions_eq_nil])
  | @unsubmitted estimate limit _ learning submitting _ hafford hlearning hsubmitting =>
      have hsubmissions : submissions
          (estimate.asked endpoint call value ++ (learning ++ submitting)) =
            submissions submitting := by
        simp [hlearning.submissions_eq_nil]
      obtain hnil | ⟨signed, hsigned, htransaction⟩ := hsubmitting.submissions_eq
      · exact .inl (hsubmissions.trans hnil)
      · exact .inr ⟨estimate, limit, _, signed, rfl, hafford, hsubmissions.trans hsigned,
          htransaction⟩
  | @submitted estimate limit _ _ start learning submitting waiting _ hafford hlearning
      hsubmitting hwaiting =>
      have hsubmissions : submissions (estimate.asked endpoint call value ++
          (learning ++ (submitting ++ ⟨.now, start⟩ :: waiting))) = submissions submitting := by
        have hnone : submissions (⟨.now, start⟩ :: waiting) = [] := hwaiting.submissions_eq_nil
        simp [hlearning.submissions_eq_nil, hnone]
      obtain hnil | ⟨signed, hsigned, htransaction⟩ := hsubmitting.submissions_eq
      · exact .inl (hsubmissions.trans hnil)
      · exact .inr ⟨estimate, limit, _, signed, rfl, hafford, hsubmissions.trans hsigned,
          htransaction⟩

/-- Whatever an execution hands in is a transaction of the call. -/
theorem Executes.transaction_of_mem {outcome : Outcome Receipt} {signed : SignedTransaction}
    {answer : Outcome TxId} (h : Executes endpoint call value exchanges outcome)
    (hmem : (⟨.node (.submit signed), answer⟩ : Exchange surroundings) ∈ exchanges) :
    ∃ limit, signed.transaction = endpoint.transaction call value limit := by
  have hsigned : signed ∈ submissions exchanges := List.mem_filterMap.mpr ⟨_, hmem, rfl⟩
  obtain hnil | ⟨_, limit, _, signed', -, -, hsubmissions, htransaction⟩ := h.submissions_eq
  · simp [hnil] at hsigned
  · obtain rfl : signed = signed' := by simpa [hsubmissions] using hsigned
    exact ⟨limit, htransaction⟩

/-! ### What the outcomes of executions mean -/

/-- A wait that ends with a receipt was given it, and it says that the transaction succeeded. -/
theorem Polls.of_ok {tx : TxId} {start polls : ℕ} {receipt : Receipt}
    (h : Polls endpoint tx start polls exchanges (.ok receipt)) :
    (⟨.node (.receipt tx), .ok (some receipt)⟩ : Exchange surroundings) ∈ exchanges ∧
      receipt.succeeded = true := by
  generalize houtcome : (Except.ok receipt : Outcome Receipt) = outcome at h
  induction h with
  | confirmed hsucceeded =>
      obtain rfl := Except.ok.inj houtcome
      exact ⟨List.mem_cons_self, hsucceeded⟩
  | again _ _ ih =>
      have hlater := ih houtcome
      exact ⟨by simp [hlater.1], hlater.2⟩
  | exhausted | unanswered | reverted | late => contradiction

/-- An execution that succeeds submitted a transaction whose receipt says that it succeeded. -/
theorem Executes.of_ok {receipt : Receipt}
    (h : Executes endpoint call value exchanges (.ok receipt)) :
    ∃ signed tx, (⟨.node (.submit signed), .ok tx⟩ : Exchange surroundings) ∈ exchanges ∧
      (⟨.node (.receipt tx), .ok (some receipt)⟩ : Exchange surroundings) ∈ exchanges ∧
      receipt.succeeded = true := by
  cases h with
  | @submitted _ _ _ tx _ _ _ _ _ _ _ hsubmitting hwaiting =>
      obtain ⟨signed, hsigned⟩ := hsubmitting.mem_of_ok
      obtain ⟨hreceipt, hsucceeded⟩ := hwaiting.of_ok
      exact ⟨signed, tx, by simp [hsigned], by simp [hreceipt], hsucceeded⟩

/-- Whether an exchange says that a transaction is still waiting. -/
def isPending : Exchange surroundings → Bool
  | ⟨.node (.receipt _), .ok none⟩ => true
  | _ => false

/-- The wait for a receipt ran out: of time, or of questions. -/
def Expires (endpoint : Endpoint) (exchanges : List (Exchange surroundings)) : Prop :=
  (∃ start now : ℕ, [⟨.now, start⟩, ⟨.now, now⟩].Sublist exchanges ∧
    endpoint.settings.confirmationMillis ≤ now - start) ∨
  pollLimit endpoint.settings.receiptPollMillis.toNat endpoint.settings.confirmationMillis ≤
    exchanges.countP isPending

/-- A wait that ran out in some exchanges ran out in all that go with them. -/
theorem Expires.mono {more : List (Exchange surroundings)} (h : endpoint.Expires exchanges)
    (hmore : exchanges.Sublist more) : endpoint.Expires more := by
  obtain ⟨start, now, htimes, hlate⟩ | hpolls := h
  · exact .inl ⟨start, now, htimes.trans hmore, hlate⟩
  · exact .inr (Nat.le_trans hpolls hmore.countP_le)

/-- Why an execution fails. -/
inductive FailsBy (endpoint : Endpoint) (call : Call) (value : ℕ)
    (exchanges : List (Exchange surroundings)) : RelayError → Prop
  /-- The simulation refused the call. -/
  | refusal {error : RelayError} :
      ⟨.node (.estimateGas endpoint.sender endpoint.program call.encode value), .error error⟩ ∈
        exchanges →
      FailsBy endpoint call value exchanges error
  /-- The node answered another question with a failure. -/
  | answer (request : NodeRequest) {error : RelayError} :
      request.isSimulation = false →
      ⟨.node request, .error error⟩ ∈ exchanges →
      FailsBy endpoint call value exchanges error
  /-- The account holds less than the cost that was counted. -/
  | funds {estimate : Estimate} {limit : UInt64} {later : List (Exchange surroundings)} :
      exchanges = estimate.asked endpoint call value ++ later →
      endpoint.limitAfter estimate.simulation = .ok limit →
      estimate.held < callCost value limit estimate.gasPrice →
      FailsBy endpoint call value exchanges
        (.insufficientFunds (callCost value limit estimate.gasPrice) estimate.held)
  /-- The signer did not sign. -/
  | signer {limit : UInt64} {fields : Fields} {fault : SigningFault} :
      signLegacy endpoint.signer (endpoint.transaction call value limit) fields =
        .error fault →
      FailsBy endpoint call value exchanges (.signing fault)
  /-- The transaction was mined and failed. -/
  | revert (signed : SignedTransaction) {tx : TxId} (receipt : Receipt) :
      ⟨.node (.submit signed), .ok tx⟩ ∈ exchanges →
      ⟨.node (.receipt tx), .ok (some receipt)⟩ ∈ exchanges →
      receipt.succeeded = false →
      FailsBy endpoint call value exchanges (.rpc (.reverted tx))
  /-- The wait for the receipt ran out. -/
  | expiry (tx : TxId) :
      endpoint.Expires exchanges →
      FailsBy endpoint call value exchanges
        (.rpc (.unconfirmed tx endpoint.settings.confirmationSeconds))

/-- A wait fails by an answer of the node, because the transaction failed, because the time was
over, or because there was no question left. -/
theorem Polls.of_error {tx : TxId} {start polls : ℕ} {error : RelayError}
    (h : Polls endpoint tx start polls exchanges (.error error)) :
    ⟨.node (.receipt tx), .error error⟩ ∈ exchanges ∨
      (error = .rpc (.reverted tx) ∧ ∃ receipt : Receipt,
        ⟨.node (.receipt tx), .ok (some receipt)⟩ ∈ exchanges ∧ receipt.succeeded = false) ∨
      (error = .rpc (.unconfirmed tx endpoint.settings.confirmationSeconds) ∧
        ((∃ now : ℕ, ⟨.now, now⟩ ∈ exchanges ∧
            endpoint.settings.confirmationMillis ≤ now - start) ∨
          polls ≤ exchanges.countP isPending)) := by
  generalize houtcome : (Except.error error : Outcome Receipt) = outcome at h
  induction h with
  | confirmed => contradiction
  | exhausted =>
      obtain rfl := Except.error.inj houtcome
      exact .inr (.inr ⟨rfl, .inr (Nat.zero_le _)⟩)
  | unanswered =>
      obtain rfl := Except.error.inj houtcome
      exact .inl List.mem_cons_self
  | reverted hfailed =>
      obtain rfl := Except.error.inj houtcome
      exact .inr (.inl ⟨rfl, _, List.mem_cons_self, hfailed⟩)
  | @late _ now hlate =>
      obtain rfl := Except.error.inj houtcome
      exact .inr (.inr ⟨rfl, .inl ⟨now, by simp, hlate⟩⟩)
  | again _ _ ih =>
      obtain hanswer | ⟨rfl, receipt, hreceipt, hfailed⟩ | ⟨rfl, ⟨now, hnow, hlate⟩ | hpolls⟩ :=
        ih houtcome
      · exact .inl (by simp [hanswer])
      · exact .inr (.inl ⟨rfl, receipt, by simp [hreceipt], hfailed⟩)
      · exact .inr (.inr ⟨rfl, .inl ⟨now, by simp [hnow], hlate⟩⟩)
      · refine .inr (.inr ⟨rfl, .inr ?_⟩)
        simpa [List.countP_cons, isPending] using hpolls

/-- An execution that fails has one of six causes. -/
theorem Executes.failsBy {error : RelayError}
    (h : Executes endpoint call value exchanges (.error error)) :
    FailsBy endpoint call value exchanges error := by
  cases h with
  | refused hrefused =>
      obtain rfl := eq_error_of_limitAfter hrefused
      exact .refusal List.mem_cons_self
  | unpriced => exact .answer _ rfl (List.mem_cons_of_mem _ List.mem_cons_self)
  | unweighed =>
      exact .answer _ rfl (List.mem_cons_of_mem _ (List.mem_cons_of_mem _ List.mem_cons_self))
  | unaffordable _ hlimit hpoor => exact .funds (List.append_nil _).symm hlimit hpoor
  | unnamed _ hlearning =>
      cases hlearning with
      | untold => exact .answer .networkId rfl (by simp)
  | unsubmitted _ _ hsubmitting =>
      obtain ⟨request, hrequest, hanswer⟩ | ⟨fields, fault, hfault, rfl⟩ := hsubmitting.of_error
      · exact .answer _ hrequest (by simp [hanswer])
      · exact .signer hfault
  | @submitted estimate _ _ tx start learning submitting waiting _ _ _ hsubmitting hwaiting =>
      obtain hanswer | ⟨rfl, receipt, hreceipt, hfailed⟩ | ⟨rfl, hexpiry⟩ := hwaiting.of_error
      · exact .answer (.receipt tx) rfl (by simp [hanswer])
      · obtain ⟨signed, hsigned⟩ := hsubmitting.mem_of_ok
        exact .revert signed receipt (by simp [hsigned])
          (by simp [hreceipt]) hfailed
      · refine .expiry tx ?_
        have hwait : (⟨.now, start⟩ :: waiting : List (Exchange surroundings)).Sublist
            (estimate.asked endpoint call value ++
              (learning ++ (submitting ++ ⟨.now, start⟩ :: waiting))) := by
          rw [← List.append_assoc, ← List.append_assoc]
          exact List.sublist_append_right _ _
        obtain ⟨now, hnow, hlate⟩ | hpolls := hexpiry
        · refine .inl ⟨start, now, List.Sublist.trans ?_ hwait, hlate⟩
          exact (List.singleton_sublist.mpr hnow).cons_cons _
        · refine .inr (Nat.le_trans hpolls (Nat.le_trans ?_ hwait.countP_le))
          exact (List.sublist_cons_self _ _).countP_le

end Endpoint

end GuardianRelay.Evm
