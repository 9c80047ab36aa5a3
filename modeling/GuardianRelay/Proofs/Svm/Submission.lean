import GuardianRelay.Proofs.Outcome
import GuardianRelay.Proofs.Program
import GuardianRelay.Proofs.Svm.Message
import GuardianRelay.Svm.Endpoint

/-!
# Runs of Submissions on Account-Model Chains

An endpoint signs an instruction over a recent block, hands it in, and is answered when the
transaction has landed. It asks whether an account exists by asking for its data. These are the
parts of which everything is made that an endpoint does with its chain.

## Main results

* `Action.runs_node_iff`, `Action.runs_node_bind_iff`: questions to the node.
* `Action.runs_derived_bind_iff`, `Action.runs_accountExists_bind_iff`: derived addresses, and
  whether there is an account.
* `Endpoint.runs_submit_iff`: the runs of a submission are the three that are enumerated.
* `Endpoint.Submits.of_submission`, `Endpoint.Submits.of_failure`: how a submission ends.
-/

namespace GuardianRelay.Svm

variable {exchanges : List (Exchange surroundings)}

/-! ### Questions to the node -/

namespace Action

variable {α β : Type}

/-- A question to the node is one exchange, and ends as it is answered. -/
theorem runs_node_iff {request : NodeRequest} {outcome : Outcome request.Answer} :
    (node request).Runs exchanges outcome ↔ exchanges = [⟨request, outcome⟩] := by
  rw [node, Program.runs_ask_iff]
  simp only [Program.runs_ofOutcome_iff]
  constructor
  · rintro ⟨reply, later, rfl, rfl, rfl⟩
    rfl
  · rintro rfl
    exact ⟨outcome, [], rfl, rfl, rfl⟩

/-- Going on after a question to the node, unless the answer is a failure. -/
theorem runs_node_bind_iff {request : NodeRequest} {f : request.Answer → Action α}
    {outcome : Outcome α} :
    (node request >>= f).Runs exchanges outcome ↔
      (∃ answer later, exchanges = ⟨request, .ok answer⟩ :: later ∧
        (f answer).Runs later outcome) ∨
      ∃ error, exchanges = [⟨request, .error error⟩] ∧ outcome = .error error := by
  simp only [Program.runs_bind_iff, runs_node_iff]
  constructor
  · rintro (⟨answer, _, later, rfl, hlater, rfl⟩ | ⟨error, rfl, rfl⟩)
    · exact .inl ⟨answer, later, rfl, hlater⟩
    · exact .inr ⟨error, rfl, rfl⟩
  · rintro (⟨answer, later, rfl, hlater⟩ | ⟨error, rfl, rfl⟩)
    · exact .inl ⟨answer, _, later, rfl, hlater, rfl⟩
    · exact .inr ⟨error, rfl, rfl⟩

/-- The failure that the node answered in an exchange. -/
def failure? : Exchange surroundings → Option RelayError
  | ⟨_, .error error⟩ => some error
  | _ => none

/-- The failures that the node answered, in their order. -/
def failures (exchanges : List (Exchange surroundings)) : List RelayError :=
  exchanges.filterMap failure?

/-- A question that was answered with a failure adds it to the failures. -/
theorem mem_failures {request : NodeRequest} {error : RelayError}
    (h : (⟨request, .error error⟩ : Exchange surroundings) ∈ exchanges) :
    error ∈ failures exchanges :=
  List.mem_filterMap.mpr ⟨_, h, rfl⟩

/-- More exchanges have more failures. -/
theorem failures_subset {more : List (Exchange surroundings)} (h : exchanges ⊆ more) :
    failures exchanges ⊆ failures more :=
  List.filterMap_subset _ h

/-- Going on with a derived value, unless the derivation fails. -/
theorem runs_derived_bind_iff {r : Except DeriveError α} {f : α → Action β}
    {outcome : Outcome β} :
    (derived r >>= f).Runs exchanges outcome ↔
      (∃ value, r = .ok value ∧ (f value).Runs exchanges outcome) ∨
      ∃ fault, r = .error fault ∧ exchanges = [] ∧ outcome = .error (.invalidSeed fault) := by
  simp only [derived, Program.runs_ofOutcome_bind_iff, Outcome.ofDerived,
    Outcome.mapError_eq_ok_iff, Outcome.mapError_eq_error_iff]
  constructor
  · rintro (hvalue | ⟨_, ⟨fault, hfault, rfl⟩, hnone, rfl⟩)
    · exact .inl hvalue
    · exact .inr ⟨fault, hfault, hnone, rfl⟩
  · rintro (hvalue | ⟨fault, hfault, hnone, rfl⟩)
    · exact .inl hvalue
    · exact .inr ⟨_, ⟨fault, hfault, rfl⟩, hnone, rfl⟩

/-- The question for an account, with its answer. -/
def lookup (key : Address) (reply : Outcome (Option Bytes)) : Exchange surroundings :=
  ⟨.account key, reply⟩

/-- Going on with whether there is an account, unless the node fails. -/
theorem runs_accountExists_bind_iff {key : Address} {f : Bool → Action β}
    {outcome : Outcome β} :
    (accountExists key >>= f).Runs exchanges outcome ↔
      (∃ data later, exchanges = lookup key (.ok data) :: later ∧
        (f data.isSome).Runs later outcome) ∨
      ∃ error, exchanges = [lookup key (.error error)] ∧ outcome = .error error := by
  rw [accountExists, bind_assoc]
  exact @runs_node_bind_iff _ _ (.account key) _ _

end Action

/-! ### Submissions -/

/-- The transaction that an exchange hands in. -/
def submission? : Exchange surroundings → Option SignedTransaction
  | ⟨.submit signed, _⟩ => some signed
  | _ => none

/-- The transactions that exchanges hand in, in their order. -/
def submissions (exchanges : List (Exchange surroundings)) : List SignedTransaction :=
  exchanges.filterMap submission?

@[simp] theorem submissions_append (first second : List (Exchange surroundings)) :
    submissions (first ++ second) = submissions first ++ submissions second :=
  List.filterMap_append

namespace Endpoint

variable {endpoint : Endpoint}

/-- How a transaction is submitted, and what becomes of it. -/
inductive Submits (endpoint : Endpoint) (transaction : UnsignedTransaction) :
    List (Exchange surroundings) → Outcome TxId → Prop
  /-- The node did not name a recent block. -/
  | undated (error : RelayError) :
      Submits endpoint transaction [⟨.recentBlock, .error error⟩] (.error error)
  /-- The transaction could not be signed. -/
  | unsigned {recentBlock : FixedBytes 32} {fault : SigningFault} :
      signTransaction endpoint.signer transaction recentBlock = .error fault →
      Submits endpoint transaction [⟨.recentBlock, .ok recentBlock⟩] (.error (.signing fault))
  /-- The node was given the transaction, which landed, or did not, or landed and failed. -/
  | handedIn {recentBlock : FixedBytes 32} {signed : SignedTransaction}
      (answer : Outcome TxId) :
      signTransaction endpoint.signer transaction recentBlock = .ok signed →
      Submits endpoint transaction [⟨.recentBlock, .ok recentBlock⟩, ⟨.submit signed, answer⟩]
        answer

/-- A transaction is submitted in one of these ways. -/
theorem runs_submit_iff {transaction : UnsignedTransaction} {outcome : Outcome TxId} :
    (endpoint.submit transaction).Runs exchanges outcome ↔
      Submits endpoint transaction exchanges outcome := by
  constructor
  · intro h
    obtain ⟨recentBlock, _, rfl, hsign⟩ | ⟨error, rfl, rfl⟩ := Action.runs_node_bind_iff.mp h
    · obtain ⟨signed, hsigned, hsubmit⟩ | ⟨error, herror, rfl, rfl⟩ :=
        Program.runs_ofOutcome_bind_iff.mp hsign
      · obtain rfl := Action.runs_node_iff.mp hsubmit
        exact .handedIn outcome (Outcome.mapError_eq_ok_iff.mp hsigned)
      · obtain ⟨fault, hfault, rfl⟩ := Outcome.mapError_eq_error_iff.mp herror
        exact .unsigned hfault
    · exact .undated error
  · intro h
    refine Action.runs_node_bind_iff.mpr ?_
    cases h with
    | undated error => exact .inr ⟨error, rfl, rfl⟩
    | @unsigned recentBlock fault hfault =>
        refine .inl ⟨recentBlock, [], rfl, Program.runs_ofOutcome_bind_iff.mpr (.inr ?_)⟩
        exact ⟨_, Outcome.mapError_eq_error_iff.mpr ⟨fault, hfault, rfl⟩, rfl, rfl⟩
    | @handedIn recentBlock signed _ hsigned =>
        refine .inl ⟨recentBlock, [⟨.submit signed, outcome⟩], rfl, ?_⟩
        exact Program.runs_ofOutcome_bind_iff.mpr (.inl
          ⟨signed, Outcome.mapError_eq_ok_iff.mpr hsigned, Action.runs_node_iff.mpr rfl⟩)

/-- The transaction is handed in once, or not at all. -/
theorem Submits.submissions_eq {transaction : UnsignedTransaction} {outcome : Outcome TxId}
    (h : Submits endpoint transaction exchanges outcome) :
    submissions exchanges = [] ∨
      ∃ signed, submissions exchanges = [signed] ∧ signed.transaction = transaction := by
  cases h with
  | undated | unsigned => exact .inl rfl
  | handedIn answer hsigned => exact .inr ⟨_, rfl, transaction_eq_of_signTransaction hsigned⟩

/-- If the transaction landed, the exchange in which it was handed in is there. -/
theorem Submits.mem_of_ok {transaction : UnsignedTransaction} {tx : TxId}
    (h : Submits endpoint transaction exchanges (.ok tx)) :
    ∃ signed, (⟨.submit signed, .ok tx⟩ : Exchange surroundings) ∈ exchanges := by
  cases h with
  | @handedIn _ signed _ _ => exact ⟨signed, List.mem_cons_of_mem _ List.mem_cons_self⟩

/-- Handing the transaction in is the end of a submission, and the answer is its outcome. Nothing is
handed in before. -/
theorem Submits.of_submission {transaction : UnsignedTransaction} {outcome answer : Outcome TxId}
    {before after : List (Exchange surroundings)} {signed : SignedTransaction}
    (h : Submits endpoint transaction (before ++ ⟨.submit signed, answer⟩ :: after) outcome) :
    signed.transaction = transaction ∧ submissions before = [] ∧ after = [] ∧
      outcome = answer := by
  generalize hsplit : before ++ ⟨.submit signed, answer⟩ :: after = exchanges at h
  cases h with
  | undated | unsigned =>
      obtain _ | ⟨_, before⟩ := before
      · cases hsplit
      · simp at hsplit
  | handedIn answer hsigned =>
      obtain _ | ⟨_, _ | ⟨_, before⟩⟩ := before
      · cases hsplit
      · cases hsplit
        exact ⟨transaction_eq_of_signTransaction hsigned, rfl, rfl, rfl⟩
      · simp at hsplit

/-- A question that the node failed to answer is the end of a submission. -/
theorem Submits.of_failure {transaction : UnsignedTransaction} {outcome : Outcome TxId}
    {before after : List (Exchange surroundings)} {request : NodeRequest} {error : RelayError}
    (h : Submits endpoint transaction (before ++ ⟨request, .error error⟩ :: after) outcome) :
    after = [] ∧ outcome = .error error := by
  generalize hsplit : before ++ ⟨request, .error error⟩ :: after = exchanges at h
  cases h with
  | undated =>
      obtain _ | ⟨_, before⟩ := before
      · cases hsplit
        exact ⟨rfl, rfl⟩
      · simp at hsplit
  | unsigned =>
      obtain _ | ⟨_, before⟩ := before
      · cases hsplit
      · simp at hsplit
  | handedIn answer hsigned =>
      obtain _ | ⟨_, _ | ⟨_, before⟩⟩ := before
      · cases hsplit
      · cases hsplit
        exact ⟨rfl, rfl⟩
      · simp at hsplit

/-- If only the way to the node fails, a submission does not itself say that something was redeemed
already. -/
theorem Submits.ne_alreadyRedeemed {transaction : UnsignedTransaction} {error : RelayError}
    (h : Submits endpoint transaction exchanges (.error error))
    (hrpc : ∀ error ∈ Action.failures exchanges, ∃ fault, error = .rpc fault) :
    error ≠ .alreadyRedeemed := by
  cases h with
  | undated =>
      obtain ⟨fault, rfl⟩ := hrpc error (Action.mem_failures List.mem_cons_self)
      nofun
  | unsigned => nofun
  | handedIn =>
      obtain ⟨fault, rfl⟩ := hrpc error
        (Action.mem_failures (List.mem_cons_of_mem _ List.mem_cons_self))
      nofun

end Endpoint

end GuardianRelay.Svm
