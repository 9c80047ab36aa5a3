import GuardianRelay.Proofs.Attestation.RoundTrip
import GuardianRelay.Proofs.Evm.Abi
import GuardianRelay.Proofs.Evm.Execution

/-!
# Runs of Redemptions on Contract-Model Chains

An endpoint that redeems an attestation first asks the contract whether that was done already,
then executes the call, and asks once more if the execution failed without saying why. There are
seven ways to go (`Endpoint.Redeems`). A redemption hands in one transaction at most, and only
after every check has passed; and it says that an attestation was redeemed already exactly when
the contract or the node told it so.

The cost of a call is counted in 128 bits, and what goes beyond them is lost. So an account that
cannot pay is kept from redeeming only if 128 bits can hold the cost.

## Main results

* `Endpoint.runs_redeem_iff`: the runs are exactly the ones enumerated.
* `Endpoint.redeem_settles`: what a redemption hands in, and what each of its outcomes means,
  under all answers.
* `Endpoint.redeem_overdrawn`: an account that holds nothing hands a transaction in.
-/

namespace GuardianRelay.Evm

variable {exchanges : List (Exchange surroundings)}

/-! ### Contracts -/

/-- A contract that redeems attestations: what it is for, and where it is. -/
structure Contract where
  role : Role
  address : EvmAddress
deriving DecidableEq

namespace Contract

/-- The contract that keeps the records of what was redeemed: a token bridge for the integrations
with it, and a messenger for itself. -/
def recorder (contract : Contract) : EvmAddress :=
  match contract.role with
  | .messenger => contract.address
  | .tokens bridge => bridge

/-- The call that asks whether an attestation of this digest was redeemed. -/
def recordCall (contract : Contract) (digest : Hash256) : Call :=
  match contract.role with
  | .messenger => .isMessageConsumed digest
  | .tokens _ => .isTransferCompleted digest

/-- Different digests are asked for with different data. -/
theorem encode_recordCall_inj (contract : Contract) {digest digest' : Hash256}
    (h : (contract.recordCall digest).encode = (contract.recordCall digest').encode) :
    digest = digest' := by
  have harguments := congrArg (List.drop selectorLength) h
  rw [Call.drop_selector_encode, Call.drop_selector_encode, recordCall, recordCall] at harguments
  cases hrole : contract.role <;>
    simpa [hrole, Call.arguments, Arguments.encode, FixedBytes.ext_iff] using harguments

/-- The call that delivers an attestation in its written form. -/
def deliveryCall (contract : Contract) (encoded : Bytes) : Call :=
  match contract.role with
  | .messenger => .receiveMessage encoded
  | .tokens _ => .redeemTokens encoded

/-- What is delivered is the only argument. -/
@[simp] theorem arguments_deliveryCall (contract : Contract) (encoded : Bytes) :
    (contract.deliveryCall encoded).arguments = .bytes encoded := by
  rw [deliveryCall]
  split <;> rfl

end Contract

namespace Endpoint

variable {endpoint : Endpoint} {a : Attestation}

/-- The contract that an endpoint drives. -/
def contract (endpoint : Endpoint) : Contract := ⟨endpoint.role, endpoint.program⟩

/-! ### Probes -/

/-- The question whether an attestation was redeemed, with its answer. -/
def probe (endpoint : Endpoint) (a : Attestation) (reply : Outcome Bytes) :
    Exchange surroundings :=
  ⟨.node (.call endpoint.contract.recorder (endpoint.contract.recordCall a.digest).encode),
    reply⟩

/-- What a probe found out. -/
def found (reply : Outcome Bytes) : Outcome Bool :=
  reply >>= fun data => Outcome.ofRpc (truth data)

/-- The recorder is asked, and its answer is read as a truth value. -/
theorem isRedeemed_eq :
    endpoint.isRedeemed a =
      Action.call endpoint.contract.recorder (endpoint.contract.recordCall a.digest) >>=
        fun data => Program.ofOutcome (Outcome.ofRpc (truth data)) := by
  rw [isRedeemed, Contract.recorder, Contract.recordCall, contract]
  cases endpoint.role <;> rfl

/-- Whether an attestation was redeemed is asked with one probe. -/
theorem runs_isRedeemed_iff {outcome : Outcome Bool} :
    (endpoint.isRedeemed a).Runs exchanges outcome ↔
      ∃ reply, exchanges = [endpoint.probe a reply] ∧ outcome = found reply := by
  rw [isRedeemed_eq]
  constructor
  · intro h
    obtain ⟨data, _, rfl, hread⟩ | ⟨error, rfl, rfl⟩ := Action.runs_node_bind_iff.mp h
    · obtain ⟨rfl, rfl⟩ := Program.runs_ofOutcome_iff.mp hread
      exact ⟨.ok data, rfl, rfl⟩
    · exact ⟨.error error, rfl, rfl⟩
  · rintro ⟨data | data, rfl, rfl⟩
    · exact Action.runs_node_bind_iff.mpr (.inr ⟨data, rfl, rfl⟩)
    · exact Action.runs_node_bind_iff.mpr
        (.inl ⟨data, [], rfl, Program.runs_ofOutcome_iff.mpr ⟨rfl, rfl⟩⟩)

/-- Going on after a probe, unless it failed. -/
theorem runs_isRedeemed_bind_iff {α : Type} {f : Bool → Action α} {outcome : Outcome α} :
    (endpoint.isRedeemed a >>= f).Runs exchanges outcome ↔
      ∃ reply later, exchanges = endpoint.probe a reply :: later ∧
        ((∃ redeemed, found reply = .ok redeemed ∧ (f redeemed).Runs later outcome) ∨
          ∃ error, found reply = .error error ∧ later = [] ∧ outcome = .error error) := by
  simp only [Program.runs_bind_iff, runs_isRedeemed_iff]
  constructor
  · rintro (⟨redeemed, _, later, ⟨reply, rfl, hfound⟩, hf, rfl⟩ |
      ⟨error, ⟨reply, rfl, hfound⟩, rfl⟩)
    · exact ⟨reply, later, rfl, .inl ⟨redeemed, hfound.symm, hf⟩⟩
    · exact ⟨reply, [], rfl, .inr ⟨error, hfound.symm, rfl, rfl⟩⟩
  · rintro ⟨reply, later, rfl, ⟨redeemed, hfound, hf⟩ | ⟨error, hfound, rfl, rfl⟩⟩
    · exact .inl ⟨redeemed, _, later, ⟨reply, rfl, hfound.symm⟩, hf, rfl⟩
    · exact .inr ⟨error, ⟨reply, rfl, hfound.symm⟩, rfl⟩

/-! ### The call that redeems -/

/-- A payload is for the contract of an endpoint: it decodes, and if it is a transfer, it goes to
this chain. -/
def Suits (endpoint : Endpoint) (payload : Bytes) : Prop :=
  match endpoint.role with
  | .messenger => ∃ message, MessengerMessage.decode payload = .ok message
  | .tokens _ => ∃ transfer, TokenTransfer.decode payload = .ok transfer ∧
      transfer.recipientChain = endpoint.chain

/-- The call delivers the written form of an attestation whose payload is for the contract. -/
theorem redeemCall_eq_ok_iff {call : Call} :
    endpoint.redeemCall a = .ok call ↔ ∃ encoded, a.encode = .ok encoded ∧
      endpoint.Suits a.payload ∧ call = endpoint.contract.deliveryCall encoded := by
  rw [redeemCall, Outcome.bind_eq_ok_iff, Suits, contract]
  simp only [Outcome.ofParsed, Outcome.mapError_eq_ok_iff, Contract.deliveryCall]
  refine exists_congr fun encoded => and_congr_right fun _ => ?_
  cases endpoint.role with
  | messenger =>
      simp only [Outcome.bind_eq_ok_iff, Outcome.mapError_eq_ok_iff]
      constructor
      · rintro ⟨message, hdecode, h⟩
        exact ⟨⟨message, hdecode⟩, (Except.ok.inj h).symm⟩
      · rintro ⟨⟨message, hdecode⟩, rfl⟩
        exact ⟨message, hdecode, rfl⟩
  | tokens bridge =>
      simp only [Outcome.bind_eq_ok_iff, Outcome.mapError_eq_ok_iff]
      constructor
      · rintro ⟨transfer, hdecode, h⟩
        split at h
        next => contradiction
        next hchain =>
          exact ⟨⟨transfer, hdecode, not_not.mp hchain⟩, (Except.ok.inj h).symm⟩
      · rintro ⟨⟨transfer, hdecode, hchain⟩, rfl⟩
        refine ⟨transfer, hdecode, ?_⟩
        rw [if_neg (not_not.mpr hchain)]
        rfl

/-- That an attestation is not for the contract is no reason to say that it was redeemed. -/
theorem redeemCall_ne_alreadyRedeemed : endpoint.redeemCall a ≠ .error .alreadyRedeemed := by
  intro h
  rw [redeemCall, Outcome.bind_eq_error_iff] at h
  simp only [Outcome.ofParsed, Outcome.mapError_eq_error_iff] at h
  obtain ⟨fault, -, hfault⟩ | ⟨encoded, -, h⟩ := h
  · contradiction
  · cases hrole : endpoint.role with
    | messenger =>
        simp only [hrole, Outcome.bind_eq_error_iff, Outcome.mapError_eq_error_iff] at h
        obtain ⟨fault, -, hfault⟩ | ⟨message, -, hmessage⟩ := h <;> contradiction
    | tokens bridge =>
        simp only [hrole, Outcome.bind_eq_error_iff, Outcome.mapError_eq_error_iff] at h
        obtain ⟨fault, -, hfault⟩ | ⟨transfer, -, htransfer⟩ := h
        · contradiction
        · split at htransfer
          next => cases Except.error.inj htransfer
          next => contradiction

/-! ### The ways to redeem -/

/-- What a redemption makes of the outcome of its execution. -/
def conclude (endpoint : Endpoint) (a : Attestation) : Outcome Receipt → Action TxId
  | .ok receipt => return receipt.hash
  | .error error => do
    if error.rpcText?.any saysDuplicateRedeem then throw .alreadyRedeemed
    match ← (endpoint.isRedeemed a).attempt with
    | .ok true => throw .alreadyRedeemed
    | _ => throw error

/-- A redemption probes, executes its call, and concludes. -/
theorem redeem_eq :
    endpoint.redeem a = endpoint.isRedeemed a >>= fun redeemed =>
      if redeemed then throw .alreadyRedeemed
      else Program.ofOutcome (endpoint.redeemCall a) >>= fun call =>
        (endpoint.execute call 0).attempt >>= endpoint.conclude a := by
  rw [redeem]
  refine bind_congr fun redeemed => ?_
  cases redeemed with
  | true => rfl
  | false =>
      refine bind_congr fun call => bind_congr fun result => ?_
      cases result <;> rfl

/-- How a redemption concludes from the outcome of its execution. -/
inductive Concludes (endpoint : Endpoint) (a : Attestation) :
    Outcome Receipt → List (Exchange surroundings) → Outcome TxId → Prop
  /-- The execution succeeded. -/
  | success (receipt : Receipt) : Concludes endpoint a (.ok receipt) [] (.ok receipt.hash)
  /-- The failure says that the attestation was redeemed before. -/
  | duplicate {error : RelayError} :
      error.rpcText?.any saysDuplicateRedeem = true →
      Concludes endpoint a (.error error) [] (.error .alreadyRedeemed)
  /-- The attestation turns out to be redeemed. -/
  | overtaken {error : RelayError} {reply : Outcome Bytes} :
      error.rpcText?.any saysDuplicateRedeem = false →
      found reply = .ok true →
      Concludes endpoint a (.error error) [endpoint.probe a reply] (.error .alreadyRedeemed)
  /-- Nothing says that the attestation was redeemed. -/
  | failure {error : RelayError} {reply : Outcome Bytes} :
      error.rpcText?.any saysDuplicateRedeem = false →
      found reply ≠ .ok true →
      Concludes endpoint a (.error error) [endpoint.probe a reply] (.error error)

/-- A redemption concludes in one of these ways. -/
theorem runs_conclude_iff {result : Outcome Receipt} {outcome : Outcome TxId} :
    (endpoint.conclude a result).Runs exchanges outcome ↔
      Concludes endpoint a result exchanges outcome := by
  cases result with
  | ok receipt =>
      rw [conclude, Program.pure_eq, Program.runs_done_iff]
      constructor
      · rintro ⟨rfl, rfl⟩
        exact .success receipt
      · rintro ⟨⟩
        exact ⟨rfl, rfl⟩
  | error error =>
      rw [conclude]
      cases hduplicate : error.rpcText?.any saysDuplicateRedeem with
      | true =>
          constructor
          · intro h
            obtain ⟨rfl, rfl⟩ := Program.runs_fail_iff.mp h
            exact .duplicate hduplicate
          · rintro (_ | _ | ⟨hclear, -⟩ | ⟨hclear, -⟩)
            · exact .fail _
            all_goals exact absurd (hduplicate.symm.trans hclear) (by decide)
      | false =>
          constructor
          · intro h
            obtain ⟨verdict, _, _, hprobe, hverdict, rfl⟩ := Program.runs_attempt_bind_iff.mp h
            obtain ⟨reply, rfl, rfl⟩ := runs_isRedeemed_iff.mp hprobe
            split at hverdict
            next hfound =>
              obtain ⟨rfl, rfl⟩ := Program.runs_fail_iff.mp hverdict
              exact .overtaken hduplicate hfound
            next hfound =>
              obtain ⟨rfl, rfl⟩ := Program.runs_fail_iff.mp hverdict
              exact .failure hduplicate hfound
          · intro h
            refine Program.runs_attempt_bind_iff.mpr ?_
            rcases h with _ | hclear | @⟨_, reply, -, hfound⟩ | @⟨_, reply, -, hfound⟩
            · exact absurd (hduplicate.symm.trans hclear) (by decide)
            · refine ⟨_, _, [], runs_isRedeemed_iff.mpr ⟨reply, rfl, rfl⟩, ?_, rfl⟩
              rw [hfound]
              exact .fail _
            · refine ⟨_, _, [], runs_isRedeemed_iff.mpr ⟨reply, rfl, rfl⟩, ?_, rfl⟩
              split
              next htrue => exact absurd htrue hfound
              next => exact .fail _

/-- How an attestation is redeemed. -/
inductive Redeems (endpoint : Endpoint) (a : Attestation) :
    List (Exchange surroundings) → Outcome TxId → Prop
  /-- The attestation was redeemed before. -/
  | known {reply : Outcome Bytes} :
      found reply = .ok true →
      Redeems endpoint a [endpoint.probe a reply] (.error .alreadyRedeemed)
  /-- Whether the attestation was redeemed was not to be had. -/
  | unprobed {reply : Outcome Bytes} {error : RelayError} :
      found reply = .error error →
      Redeems endpoint a [endpoint.probe a reply] (.error error)
  /-- The attestation has no written form, or is not for the contract. -/
  | unfit {reply : Outcome Bytes} {error : RelayError} :
      found reply = .ok false →
      endpoint.redeemCall a = .error error →
      Redeems endpoint a [endpoint.probe a reply] (.error error)
  /-- The call that redeems the attestation was executed. -/
  | executed {reply : Outcome Bytes} {call : Call} {result : Outcome Receipt}
      {executing concluding : List (Exchange surroundings)} {outcome : Outcome TxId} :
      found reply = .ok false →
      endpoint.redeemCall a = .ok call →
      Executes endpoint call 0 executing result →
      Concludes endpoint a result concluding outcome →
      Redeems endpoint a (endpoint.probe a reply :: (executing ++ concluding)) outcome

/-- An attestation is redeemed in one of these ways. -/
theorem runs_redeem_iff {outcome : Outcome TxId} :
    (endpoint.redeem a).Runs exchanges outcome ↔ Redeems endpoint a exchanges outcome := by
  rw [redeem_eq, runs_isRedeemed_bind_iff]
  constructor
  · rintro ⟨reply, later, rfl, ⟨redeemed, hfound, h⟩ | ⟨error, hfound, rfl, rfl⟩⟩
    · cases redeemed with
      | true =>
          obtain ⟨rfl, rfl⟩ := Program.runs_fail_iff.mp h
          exact .known hfound
      | false =>
          obtain ⟨call, hcall, hattempt⟩ | ⟨error, herror, rfl, rfl⟩ :=
            Program.runs_ofOutcome_bind_iff.mp h
          · obtain ⟨result, executing, concluding, hexecute, hconclude, rfl⟩ :=
              Program.runs_attempt_bind_iff.mp hattempt
            exact .executed hfound hcall (runs_execute_iff.mp hexecute)
              (runs_conclude_iff.mp hconclude)
          · exact .unfit hfound herror
    · exact .unprobed hfound
  · rintro (hfound | hfound | ⟨hfound, herror⟩ | ⟨hfound, hcall, hexecute, hconclude⟩)
    · exact ⟨_, [], rfl, .inl ⟨true, hfound, .fail _⟩⟩
    · exact ⟨_, [], rfl, .inr ⟨_, hfound, rfl, rfl⟩⟩
    · exact ⟨_, [], rfl, .inl ⟨false, hfound,
        Program.runs_ofOutcome_bind_iff.mpr (.inr ⟨_, herror, rfl, rfl⟩)⟩⟩
    · refine ⟨_, _, rfl, .inl ⟨false, hfound,
        Program.runs_ofOutcome_bind_iff.mpr (.inl ⟨_, hcall, ?_⟩)⟩⟩
      exact Program.runs_attempt_bind_iff.mpr
        ⟨_, _, _, runs_execute_iff.mpr hexecute, runs_conclude_iff.mpr hconclude, rfl⟩

/-! ### What redemptions submit -/

/-- Nothing is handed in to conclude. -/
theorem Concludes.submissions_eq_nil {result : Outcome Receipt} {outcome : Outcome TxId}
    (h : Concludes endpoint a result exchanges outcome) : submissions exchanges = [] := by
  cases h <;> rfl

/-- What has been found out when a transaction is handed in to redeem an attestation. -/
structure Cleared (endpoint : Endpoint) (a : Attestation)
    (exchanges : List (Exchange surroundings)) (signed : SignedTransaction)
    (reply : Outcome Bytes) (estimate : Estimate) (limit : UInt64) : Prop where
  /-- The questions began with the probe and the estimate of the call. -/
  asked : ∃ call later, exchanges =
    endpoint.probe a reply :: (estimate.asked endpoint call 0 ++ later)
  /-- The attestation was not redeemed before. -/
  unredeemed : found reply = .ok false
  /-- It has a written form. -/
  encodes : ∃ encoded, a.encode = .ok encoded
  /-- Its payload is for the contract. -/
  suits : endpoint.Suits a.payload
  /-- The simulation did not say that the call would revert. -/
  unreverted : ∀ error, estimate.simulation = .error error →
    ¬ error.rpcText?.any saysReverted
  /-- The account holds the cost of the gas as it is counted. -/
  counted : callCost 0 limit estimate.gasPrice ≤ estimate.held
  /-- So it holds what all the gas of the transaction costs, if 128 bits can hold that. -/
  affordable : limit.toNat * estimate.gasPrice < 2 ^ 128 →
    limit.toNat * estimate.gasPrice ≤ estimate.held
  gasLimit : signed.transaction.gasLimit = some limit
  /-- The contract reads the attestation in the data of the transaction. The length of its
  written form has to fit a word, as that of any byte string on a machine does. -/
  delivers : a.encodedLength < 256 ^ wordLength →
    ∃ b, Call.bytes? signed.transaction.data = some b ∧ Attestation.decode b = .ok a

/-- A transaction that is handed in to redeem an attestation is the only one, and everything is
cleared for it. -/
theorem Redeems.submissions_eq {outcome : Outcome TxId}
    (h : Redeems endpoint a exchanges outcome) :
    submissions exchanges = [] ∨ ∃ signed reply estimate limit,
      submissions exchanges = [signed] ∧
        Cleared endpoint a exchanges signed reply estimate limit := by
  cases h with
  | known | unprobed | unfit => exact .inl rfl
  | @executed reply call result executing concluding _ hfound hcall hexecute hconclude =>
      have hsubmissions : submissions (endpoint.probe a reply :: (executing ++ concluding)) =
          submissions executing := by
        have hhead : submission? (endpoint.probe a reply) = none := rfl
        rw [submissions, List.filterMap_cons_none hhead]
        exact (submissions_append _ _).trans (by simp [hconclude.submissions_eq_nil])
      obtain hnil | ⟨estimate, limit, later, signed, rfl, hafford, hsigned, htransaction⟩ :=
        hexecute.submissions_eq
      · exact .inl (hsubmissions.trans hnil)
      · obtain ⟨encoded, hencode, hsuits, rfl⟩ := redeemCall_eq_ok_iff.mp hcall
        refine .inr ⟨signed, reply, estimate, limit, hsubmissions.trans hsigned, ?_⟩
        exact
          { asked := ⟨_, later ++ concluding, by rw [List.append_assoc]⟩
            unredeemed := hfound
            encodes := ⟨encoded, hencode⟩
            suits := hsuits
            unreverted := fun error herror =>
              not_saysReverted_of_limitAfter (herror ▸ hafford.1)
            counted := hafford.2
            affordable := by simpa using hafford.pays
            gasLimit := htransaction ▸ rfl
            delivers := fun hlength => by
              refine ⟨encoded, ?_, Attestation.decode_eq_ok_iff_encode.mpr hencode⟩
              obtain ⟨-, rfl⟩ := Attestation.encode_eq_ok_iff.mp hencode
              rw [htransaction]
              exact Call.bytes?_encode (endpoint.contract.arguments_deliveryCall _)
                (a.length_written ▸ hlength) }

/-! ### What the outcomes of redemptions mean -/

/-- The execution of a redemption failed with an error, and `later` is what was asked after it. -/
def ExecutionFailed (endpoint : Endpoint) (a : Attestation)
    (exchanges : List (Exchange surroundings)) (error : RelayError)
    (later : List (Exchange surroundings)) : Prop :=
  ∃ reply call executing, found reply = .ok false ∧ endpoint.redeemCall a = .ok call ∧
    (endpoint.execute call 0).Runs executing (.error error) ∧
    exchanges = endpoint.probe a reply :: (executing ++ later)

/-- An execution that is only answered with failures of the node does not itself say that the
attestation was redeemed. -/
theorem FailsBy.ne_alreadyRedeemed {call : Call} {value : ℕ} {error : RelayError}
    (h : FailsBy endpoint call value exchanges error)
    (hrpc : ∀ error ∈ Action.failures exchanges, ∃ fault, error = .rpc fault) :
    error ≠ .alreadyRedeemed := by
  cases h with
  | refusal hanswer | answer _ _ hanswer =>
      obtain ⟨fault, rfl⟩ := hrpc _ (Action.mem_failures hanswer)
      nofun
  | funds | signer | revert | expiry => nofun

/-- A redemption that succeeds has a receipt for the transaction that it handed in, which says
that the transaction succeeded. -/
theorem Redeems.of_ok {tx : TxId} (h : Redeems endpoint a exchanges (.ok tx)) :
    ∃ signed name receipt,
      (⟨.node (.submit signed), .ok name⟩ : Exchange surroundings) ∈ exchanges ∧
      (⟨.node (.receipt name), .ok (some receipt)⟩ : Exchange surroundings) ∈ exchanges ∧
      receipt.succeeded = true ∧ tx = receipt.hash := by
  cases h with
  | executed _ _ hexecute hconclude =>
      cases hconclude with
      | success receipt =>
          obtain ⟨signed, name, hsigned, hreceipt, hsucceeded⟩ := hexecute.of_ok
          exact ⟨signed, name, receipt, by simp [hsigned], by simp [hreceipt], hsucceeded, rfl⟩

/-- If only the way to the node fails, a redemption that says that the attestation was redeemed
was told so: by the first probe, by the failure of its execution, or by the probe after it. -/
theorem Redeems.of_alreadyRedeemed (h : Redeems endpoint a exchanges (.error .alreadyRedeemed))
    (hrpc : ∀ error ∈ Action.failures exchanges, ∃ fault, error = .rpc fault) :
    (∃ reply later, exchanges = endpoint.probe a reply :: later ∧ found reply = .ok true) ∨
      ∃ error later, ExecutionFailed endpoint a exchanges error later ∧
        (error.rpcText?.any saysDuplicateRedeem = true ∨
          ∃ reply, later = [endpoint.probe a reply] ∧ found reply = .ok true) := by
  generalize houtcome : (Except.error .alreadyRedeemed : Outcome TxId) = outcome at h
  cases h with
  | known hfound => exact .inl ⟨_, _, rfl, hfound⟩
  | @unprobed reply error hfound =>
      obtain rfl := Except.error.inj houtcome
      obtain hreply | ⟨data, -, hdata⟩ := Outcome.bind_eq_error_iff.mp hfound
      · subst hreply
        obtain ⟨fault, hfault⟩ := hrpc _ (Action.mem_failures List.mem_cons_self)
        cases hfault
      · obtain ⟨fault, -, hfault⟩ := Outcome.mapError_eq_error_iff.mp hdata
        cases hfault
  | unfit _ herror =>
      obtain rfl := Except.error.inj houtcome
      exact absurd herror redeemCall_ne_alreadyRedeemed
  | @executed reply call result executing concluding _ hfound hcall hexecute hconclude =>
      have hfailed : ∀ {error}, result = .error error →
          ExecutionFailed endpoint a (endpoint.probe a reply :: (executing ++ concluding)) error
            concluding := by
        rintro error rfl
        exact ⟨reply, call, executing, hfound, hcall, runs_execute_iff.mpr hexecute, rfl⟩
      cases hconclude with
      | success => cases houtcome
      | duplicate hduplicate => exact .inr ⟨_, _, hfailed rfl, .inl hduplicate⟩
      | overtaken _ hrepeated => exact .inr ⟨_, _, hfailed rfl, .inr ⟨_, rfl, hrepeated⟩⟩
      | failure =>
          obtain rfl := Except.error.inj houtcome
          have hne := hexecute.failsBy.ne_alreadyRedeemed fun error herror =>
            hrpc error (Action.failures_subset (by simp) herror)
          exact absurd rfl hne

/-- The messenger of the second chain, driven by an account that signs everything. -/
def openEndpoint : Endpoint where
  chain := 2
  role := .messenger
  core := FixedBytes.ofNat 1
  program := FixedBytes.ofNat 2
  sender := FixedBytes.zero
  signer := openSigner
  settings := .default
  signer_address := Address.evm?_ofEvm _

/-- An attestation of a message without content. -/
def emptyMessage : Attestation := { (default : Attestation) with payload := [1, 0, 0] }

/-- The call that delivers the message. -/
def delivery : Call := .receiveMessage emptyMessage.written

theorem redeemCall_emptyMessage : openEndpoint.redeemCall emptyMessage = .ok delivery :=
  redeemCall_eq_ok_iff.mpr ⟨emptyMessage.written,
    Attestation.encode_eq_ok_iff.mpr ⟨by decide, rfl⟩, ⟨.data [], by decide⟩, rfl⟩

/-- Gas costs 1, and there is enough to pay for it. -/
def cheapGas : Estimate := ⟨.ok 100000, 1, 1000000⟩

theorem affords_cheapGas (endpoint : Endpoint) :
    cheapGas.Affords endpoint 0 (scaledGas 100000) := ⟨rfl, by decide⟩

/-- The open account executes the delivery with its transaction of this number, which the node
takes. -/
def delivering (nonce : UInt64) (signed : SignedTransaction) (tx : TxId) :
    List (Exchange surroundings) :=
  cheapGas.asked openEndpoint delivery 0 ++
    [⟨.knownNetwork, some 5⟩, ⟨.lock, ()⟩,
      ⟨.node (.transactionCount openEndpoint.sender), .ok nonce⟩,
      ⟨.node (.submit signed), .ok tx⟩, ⟨.unlock, ()⟩, ⟨.now, (0 : ℕ)⟩]

/-- The transaction is mined at once. -/
def mined (receipt : Receipt) : Exchange surroundings :=
  ⟨.node (.receipt receipt.hash), .ok (some receipt)⟩

/-- The execution has the outcome that the receipt gives it. -/
theorem executes_delivering {nonce : UInt64} {signed : SignedTransaction} (receipt : Receipt)
    (hsigned : signLegacy openSigner (openEndpoint.transaction delivery 0 (scaledGas 100000))
      ⟨nonce, 1, 5⟩ = .ok signed) :
    Executes openEndpoint delivery 0 (delivering nonce signed receipt.hash ++ [mined receipt])
      (if receipt.succeeded then .ok receipt else .error (.rpc (.reverted receipt.hash))) := by
  refine .submitted (affords_cheapGas _) (.known 5) (.handedIn _ hsigned) ?_
  split
  next hsucceeded => exact .confirmed hsucceeded
  next hfailed => exact .reverted (Bool.eq_false_iff.mpr hfailed)

/-- A receipt that says that a transaction failed. -/
def failedReceipt : Receipt := ⟨"0x02", some "0x0", []⟩

/-- What the contract answers to a probe. -/
def told (redeemed : Bool) : Exchange surroundings :=
  openEndpoint.probe emptyMessage (.ok (Word.ofNat redeemed.toNat).toList)

/-- Somebody else's transaction is mined first. -/
def lostRace (signed : SignedTransaction) : List (Exchange surroundings) :=
  told false ::
    ((delivering 1 signed failedReceipt.hash ++ [mined failedReceipt]) ++ [told true])

end Endpoint

end GuardianRelay.Evm
