import GuardianRelay.Proofs.Endpoint
import GuardianRelay.Proofs.Evm.Calldata
import GuardianRelay.Proofs.Evm.Preflight
import GuardianRelay.Proofs.Evm.Publication
import GuardianRelay.Proofs.Evm.Signing
import GuardianRelay.Proofs.Payload.Message

/-!
# What a Contract-Model Endpoint Lets Go

Between an intent and the one transaction that sends it stand checks of the intent itself, the two
answers of a token, the fee, the simulation of the call and the balance of the account. This module
says under all answers of a node what has been found out when a transaction is handed in
(`Endpoint.Released`): every check has passed, and the transaction carries the very values that
were checked, to the octets that are handed in.

A run either comes to that point or ends before it (`Endpoint.Withheld`). What goes wrong after it
is a failure of the node or of the transaction, so every other failure says that nothing was sent.

The cost of a call is counted in 128 bits, and what goes beyond them is lost. That the account can
pay is therefore said of the costs that 128 bits can hold; the rest is said of all.

## Main results

* `Endpoint.runs_send`: a run that does not stop before comes to the publication of the call that
  the intent clears as.
* `Endpoint.Executes.rpc_of_submission`: how an execution fails that has handed something in.
* `Endpoint.send_releases`: what is handed in, and what a failure says about it.
-/

namespace GuardianRelay.Evm

/-! ### Lengths and numbers -/

/-- Only numbers of 128 bits are read. -/
theorem number_lt {data : Bytes} {index n : ℕ} (h : number data index = .ok n) : n < 2 ^ 128 := by
  obtain ⟨w, hword, -⟩ := Outcome.bind_eq_ok_iff.mp h
  rw [number_of_word hword] at h
  split at h
  next hnarrow => exact Except.ok.inj h ▸ hnarrow
  next => contradiction

/-- The gas limit of a call that was estimated, as a number. -/
theorem toNat_scaledGas (gas : UInt64) :
    (Endpoint.scaledGas gas).toNat = min (150 * gas.toNat) (2 ^ 64 - 1) / 100 := by
  rw [Endpoint.scaledGas, UInt64.toNat_ofNat', Nat.mul_comm gas.toNat, Nat.mod_eq_of_lt]
  · rfl
  · simp only [UInt64.size]
    omega

namespace Endpoint

variable {endpoint : Endpoint} {exchanges : List (Exchange surroundings)}

/-! ### Runs that stop early -/

/-- A run ended in a failure, and nothing was handed in. -/
def Withheld {α : Type} (exchanges : List (Exchange surroundings)) (outcome : Outcome α) : Prop :=
  submissions exchanges = [] ∧ ∃ error, outcome = .error error

/-- A call of a contract, with what it returned. -/
def returned (contract : EvmAddress) (call : Call) (data : Bytes) : Exchange surroundings :=
  ⟨.node (.call contract call.encode), .ok data⟩

/-- Nothing is handed in by a call that returns. -/
@[simp] theorem submissions_returned (contract : EvmAddress) (call : Call) (data : Bytes)
    (later : List (Exchange surroundings)) :
    submissions (returned contract call data :: later) = submissions later :=
  List.filterMap_cons_none rfl

/-- A failure after a call that returned stays one before which nothing was handed in. -/
theorem Withheld.cons {α : Type} {outcome : Outcome α} (h : Withheld exchanges outcome)
    (contract : EvmAddress) (call : Call) (data : Bytes) :
    Withheld (returned contract call data :: exchanges) outcome :=
  ⟨(submissions_returned _ _ _ _).trans h.1, h.2⟩

/-- A program that has failed hands nothing in. -/
theorem withheld_of_runs_fail {α : Type} {error : RelayError} {outcome : Outcome α}
    (h : (.fail error : Action α).Runs exchanges outcome) : Withheld exchanges outcome := by
  obtain ⟨rfl, rfl⟩ := Program.runs_fail_iff.mp h
  exact ⟨rfl, error, rfl⟩

/-- A number that a contract is asked for is read from what it returned, or the run ends. -/
theorem runs_callNumber_bind {α : Type} {contract : EvmAddress} {call : Call} {f : ℕ → Action α}
    {outcome : Outcome α} (h : (Action.callNumber contract call >>= f).Runs exchanges outcome) :
    (∃ data n later, exchanges = returned contract call data :: later ∧
      number data 0 = .ok n ∧ (f n).Runs later outcome) ∨ Withheld exchanges outcome := by
  rw [Action.callNumber, bind_assoc] at h
  obtain ⟨data, later, rfl, hread⟩ | ⟨error, rfl, rfl⟩ := Action.runs_node_bind_iff.mp h
  · obtain ⟨n, hn, hlater⟩ | ⟨error, -, rfl, rfl⟩ := Program.runs_ofOutcome_bind_iff.mp hread
    · exact .inl ⟨data, n, later, rfl, Outcome.mapError_eq_ok_iff.mp hn, hlater⟩
    · exact .inr ⟨rfl, error, rfl⟩
  · exact .inr ⟨rfl, error, rfl⟩

/-- A number that is demanded is read and is enough, or the run ends. -/
theorem runs_demand {contract : EvmAddress} {call : Call} {need : ℕ} {refuse : ℕ → RelayError}
    {next : Action SendReceipt} {outcome : Outcome SendReceipt}
    (h : (demand contract call need refuse next).Runs exchanges outcome) :
    (∃ data n later, exchanges = returned contract call data :: later ∧
      number data 0 = .ok n ∧ need ≤ n ∧ next.Runs later outcome) ∨
      Withheld exchanges outcome := by
  obtain ⟨data, n, later, rfl, hn, hlater⟩ | hwithheld := runs_callNumber_bind h
  · split at hlater
    next => exact .inr ((withheld_of_runs_fail hlater).cons _ _ _)
    next henough => exact .inl ⟨data, n, later, rfl, hn, Nat.not_lt.mp henough, hlater⟩
  · exact .inr hwithheld

/-! ### Intents that clear -/

/-- An intent clears as a call: it is for the contract of the endpoint and well formed, and the
token answered that the account holds enough and that the contract may take enough. -/
inductive Clears (endpoint : Endpoint) : Intent → List (Exchange surroundings) → Call → Prop
  | message {payload : Bytes} :
      endpoint.role = .messenger →
      payload.length ≤ 1024 →
      Clears endpoint (.message payload) [] (.sendMessage payload)
  | tokens {bridge contract : EvmAddress} {amount : UInt64} {chain : ChainId}
      {recipient : Address} {batch : UInt32} {balance allowance : Bytes} {held approved : ℕ} :
      endpoint.role = .tokens bridge →
      chain ≠ 0 →
      chain ≠ endpoint.chain →
      recipient ≠ .zero →
      amount ≠ 0 →
      number balance 0 = .ok held →
      amount.toNat ≤ held →
      number allowance 0 = .ok approved →
      amount.toNat ≤ approved →
      Clears endpoint (.tokens (.ofEvm contract) amount chain recipient batch)
        [returned contract (.balanceOf endpoint.sender) balance,
          returned contract (.allowance endpoint.sender endpoint.program) allowance]
        (.sendTokens contract amount.toNat chain recipient batch)

/-- A transfer is refused at once, or it is well formed and the token is asked. -/
theorem sendTokens_cases (endpoint : Endpoint) (token : Address) (amount : UInt64)
    (chain : ChainId) (recipient : Address) (batch : UInt32) :
    (∃ error, endpoint.sendTokens token amount chain recipient batch = .fail error) ∨
      ∃ contract, checkRecipient endpoint.chain chain recipient = .ok () ∧ amount ≠ 0 ∧
        token = .ofEvm contract ∧
        endpoint.sendTokens token amount chain recipient batch =
          endpoint.preflight contract amount.toNat
            (endpoint.publish (.sendTokens contract amount.toNat chain recipient batch)) := by
  cases hrecipient : checkRecipient endpoint.chain chain recipient with
  | error fault =>
    exact .inl ⟨.invalidRecipient fault, by simp [sendTokens, hrecipient]⟩
  | ok _ =>
    by_cases hamount : amount = 0
    · exact .inl ⟨.zeroAmount, by simp [sendTokens, hrecipient, hamount]⟩
    · cases htoken : token.evm? with
      | none =>
        exact .inl ⟨.config (.tokenNotEvm token),
          by simp [sendTokens, hrecipient, hamount, htoken]⟩
      | some contract =>
        refine .inr ⟨contract, rfl, hamount, Address.evm?_eq_some_iff.mp htoken, ?_⟩
        simp only [sendTokens, hrecipient, htoken, if_neg hamount, Program.throw_eq,
          Program.bind_fail, preflight, demand]

/-- Sending comes to the publication of the call that the intent clears as, or it ends with
nothing handed in. -/
theorem runs_send {intent : Intent} {outcome : Outcome SendReceipt}
    (h : (endpoint.send intent).Runs exchanges outcome) :
    (∃ checking call publishing, Clears endpoint intent checking call ∧
      exchanges = checking ++ publishing ∧
      (endpoint.publish call).Runs publishing outcome) ∨ Withheld exchanges outcome := by
  unfold send at h
  split at h
  next payload hrole =>
    obtain ⟨b, hencode, hpublish⟩ | ⟨error, -, rfl, rfl⟩ := Program.runs_ofOutcome_bind_iff.mp h
    · have hcarried : payload.length ≤ 1024 :=
        (MessengerMessage.encode_eq_ok_iff.mp (Outcome.mapError_eq_ok_iff.mp hencode)).1
      exact .inl ⟨[], _, exchanges, .message hrole hcarried, rfl, hpublish⟩
    · exact .inr ⟨rfl, error, rfl⟩
  next bridge token amount chain recipient batch hrole =>
    obtain ⟨error, hfail⟩ | ⟨contract, hrecipient, hamount, rfl, hpreflight⟩ :=
      sendTokens_cases endpoint token amount chain recipient batch
    · exact .inr (withheld_of_runs_fail (hfail ▸ h))
    · obtain ⟨hsome, helsewhere, hsomebody⟩ := checkRecipient_eq_ok_iff.mp hrecipient
      rw [hpreflight] at h
      obtain ⟨balance, held, later, rfl, hheld, henough, hlater⟩ | hwithheld := runs_demand h
      · obtain ⟨allowance, approved, publishing, rfl, happroved, hallowed, hpublish⟩ | hwithheld :=
          runs_demand hlater
        · exact .inl ⟨[_, _], _, publishing, .tokens hrole hsome helsewhere hsomebody hamount hheld
            henough happroved hallowed, rfl, hpublish⟩
        · exact .inr (hwithheld.cons _ _ _)
      · exact .inr hwithheld
  next => exact .inr (withheld_of_runs_fail h)
  next => exact .inr (withheld_of_runs_fail h)

/-- The call that an intent clears as can be read from its data, which are short. -/
theorem Clears.fits {intent : Intent} {checking : List (Exchange surroundings)} {call : Call}
    (h : Clears endpoint intent checking call) :
    call.Fits ∧ call.encode.length < 2 ^ 63 := by
  cases h with
  | @message payload _ hcarried =>
    have hpadding := (Arguments.padding_spec payload.length).2
    refine ⟨hcarried.trans_lt (by decide), ?_⟩
    simp only [Call.encode, Call.arguments, Arguments.encode, List.length_append, length_selector,
      FixedBytes.length_toList, Bytes.zeros, List.length_replicate]
    simp only [wordLength, selectorLength] at hpadding ⊢
    omega
  | @tokens _ _ amount =>
    refine ⟨amount.toNat_lt.trans (by decide), ?_⟩
    simp only [Call.encode, Call.arguments, Arguments.encode, List.length_append, length_selector,
      length_words, List.length_cons, List.length_nil]
    decide

/-! ### Executions that hand something in -/

/-- What is handed in was signed. -/
theorem Submits.signs {transaction : UnsignedTransaction} {gasPrice : ℕ} {networkId : UInt64}
    {outcome : Outcome TxId} {signed : SignedTransaction}
    (h : Submits endpoint transaction gasPrice networkId exchanges outcome)
    (hmem : signed ∈ submissions exchanges) :
    ∃ nonce, signLegacy endpoint.signer transaction ⟨nonce, gasPrice, networkId⟩ =
      .ok signed := by
  cases h with
  | uncounted | unsigned => exact absurd hmem List.not_mem_nil
  | @handedIn nonce signed' answer hsigned =>
    obtain rfl : signed = signed' := List.mem_singleton.mp hmem
    exact ⟨nonce, hsigned⟩

/-- If something was handed in that was not taken, the node said so. -/
theorem Submits.mem_of_error {transaction : UnsignedTransaction} {gasPrice : ℕ}
    {networkId : UInt64} {error : RelayError}
    (h : Submits endpoint transaction gasPrice networkId exchanges (.error error))
    (hsubmissions : submissions exchanges ≠ []) :
    ∃ signed, ⟨.node (.submit signed), .error error⟩ ∈ exchanges := by
  cases h with
  | uncounted | unsigned => exact absurd rfl hsubmissions
  | @handedIn _ signed =>
    exact ⟨signed, List.mem_cons_of_mem _ (List.mem_cons_of_mem _ List.mem_cons_self)⟩

/-- What an execution hands in was signed at the price and with the limit of its estimate, by
which the account can pay. -/
theorem Executes.signs {call : Call} {value : ℕ} {outcome : Outcome Receipt}
    {signed : SignedTransaction} (h : Executes endpoint call value exchanges outcome)
    (hmem : signed ∈ submissions exchanges) :
    ∃ estimate limit fields later,
      exchanges = Estimate.asked estimate endpoint call value ++ later ∧
      estimate.Affords endpoint value limit ∧ fields.gasPrice = estimate.gasPrice ∧
      signLegacy endpoint.signer (endpoint.transaction call value limit) fields = .ok signed := by
  cases h with
  | refused | unpriced | unweighed | unaffordable => exact absurd hmem List.not_mem_nil
  | unnamed _ hlearning => simp [hlearning.submissions_eq_nil] at hmem
  | unsubmitted hafford hlearning hsubmitting =>
    rw [submissions_append, submissions_append, Estimate.submissions_asked,
      hlearning.submissions_eq_nil] at hmem
    obtain ⟨nonce, hsigned⟩ := hsubmitting.signs hmem
    exact ⟨_, _, _, _, rfl, hafford, rfl, hsigned⟩
  | @submitted _ _ _ _ start _ _ waiting _ hafford hlearning hsubmitting hwaiting =>
    have hnone : submissions (⟨.now, start⟩ :: waiting) = [] := hwaiting.submissions_eq_nil
    rw [submissions_append, submissions_append, submissions_append, Estimate.submissions_asked,
      hlearning.submissions_eq_nil, hnone, List.append_nil] at hmem
    obtain ⟨nonce, hsigned⟩ := hsubmitting.signs hmem
    exact ⟨_, _, _, _, rfl, hafford, rfl, hsigned⟩

/-- An execution that fails after it has handed something in fails by an answer of the node, or
because of what became of the transaction. -/
theorem Executes.rpc_of_submission {call : Call} {value : ℕ} {error : RelayError}
    (h : Executes endpoint call value exchanges (.error error))
    (hrpc : ∀ error ∈ Action.failures exchanges, ∃ fault, error = .rpc fault)
    (hsubmissions : submissions exchanges ≠ []) : ∃ fault, error = .rpc fault := by
  cases h with
  | refused | unpriced | unweighed | unaffordable => exact absurd rfl hsubmissions
  | unnamed _ hlearning => simp [hlearning.submissions_eq_nil] at hsubmissions
  | unsubmitted _ hlearning hsubmitting =>
    obtain ⟨signed, hanswer⟩ := hsubmitting.mem_of_error
      (by simpa [hlearning.submissions_eq_nil] using hsubmissions)
    exact hrpc _ (@Action.mem_failures _ (.submit signed) _ (by simp [hanswer]))
  | @submitted _ _ _ tx _ _ _ _ _ _ _ _ hwaiting =>
    obtain hanswer | ⟨rfl, -⟩ | ⟨rfl, -⟩ := hwaiting.of_error
    · exact hrpc _ (@Action.mem_failures _ (.receipt tx) _ (by simp [hanswer]))
    · exact ⟨_, rfl⟩
    · exact ⟨_, rfl⟩

/-! ### Publications -/

/-- Publishing comes to the execution of the call, with the fee that the core contract names, or it
ends with nothing handed in. It fails if the execution does, or if no number can be read. -/
theorem runs_publish {call : Call} {outcome : Outcome SendReceipt}
    (h : (endpoint.publish call).Runs exchanges outcome) :
    (∃ data fee executing result, exchanges = returned endpoint.core .messageFee data :: executing ∧
      number data 0 = .ok fee ∧ Executes endpoint call fee executing result ∧
      ∀ error, outcome = .error error → result = .error error ∨ ∃ fault, error = .rpc fault) ∨
      Withheld exchanges outcome := by
  obtain ⟨data, fee, executing, rfl, hfee, hexecute⟩ | hwithheld := runs_callNumber_bind h
  · obtain ⟨receipt, first, second, hfirst, hread, rfl⟩ | ⟨error, hfail, rfl⟩ :=
      Program.runs_bind_iff.mp hexecute
    · obtain ⟨sequence, -, hdone⟩ | ⟨error, hfault, rfl, rfl⟩ :=
        Program.runs_ofOutcome_bind_iff.mp hread
      · obtain ⟨rfl, rfl⟩ := Program.runs_done_iff.mp hdone
        exact .inl ⟨data, fee, first, .ok receipt, by rw [List.append_nil], hfee,
          runs_execute_iff.mp hfirst, nofun⟩
      · obtain ⟨fault, -, rfl⟩ := Outcome.mapError_eq_error_iff.mp hfault
        refine .inl ⟨data, fee, first, .ok receipt, by rw [List.append_nil], hfee,
          runs_execute_iff.mp hfirst, ?_⟩
        rintro _ ⟨⟩
        exact .inr ⟨fault, rfl⟩
    · refine .inl ⟨data, fee, executing, .error error, rfl, hfee, runs_execute_iff.mp hfail, ?_⟩
      rintro _ ⟨⟩
      exact .inl rfl
  · exact .inr hwithheld

/-! ### What is handed in -/

/-- The gas limit of a call that was simulated and not refused, as a number: half as much again as
was estimated, or what the settings say. -/
def limitOf (endpoint : Endpoint) : Outcome UInt64 → ℕ
  | .ok gas => min (150 * gas.toNat) (2 ^ 64 - 1) / 100
  | .error _ => endpoint.settings.defaultGasLimit.toNat

theorem toNat_eq_of_limitAfter {simulation : Outcome UInt64} {limit : UInt64}
    (h : endpoint.limitAfter simulation = .ok limit) :
    limit.toNat = endpoint.limitOf simulation := by
  cases simulation with
  | ok gas =>
    obtain rfl := Except.ok.inj h
    exact toNat_scaledGas gas
  | error error =>
    rw [limitAfter, if_neg (not_saysReverted_of_limitAfter h)] at h
    exact congrArg UInt64.toNat (Except.ok.inj h).symm

/-- What has been found out when a transaction is handed in that sends something: which call the
intent clears as, the fee, the estimate of the call, and the gas limit. -/
structure Released (endpoint : Endpoint) (intent : Intent)
    (exchanges : List (Exchange surroundings)) (signed : SignedTransaction)
    (call : Call) (fee : ℕ) (estimate : Estimate) (limit : UInt64) : Prop where
  /-- The questions began with the checks of the intent, the fee, and the estimate of the call. -/
  asked : ∃ checking data later, Clears endpoint intent checking call ∧ number data 0 = .ok fee ∧
    exchanges = checking ++ returned endpoint.core .messageFee data ::
      (estimate.asked endpoint call fee ++ later)
  /-- The simulation did not say that the call would revert. -/
  unreverted : ∀ error, estimate.simulation = .error error →
    ¬ error.rpcText?.any saysReverted
  limit_eq : limit.toNat = endpoint.limitOf estimate.simulation
  /-- The account holds the cost of the call as it is counted. -/
  counted : callCost fee limit estimate.gasPrice ≤ estimate.held
  /-- So it holds the fee and what all the gas costs, if 128 bits can hold that. -/
  affordable : fee + limit.toNat * estimate.gasPrice < 2 ^ 128 →
    fee + limit.toNat * estimate.gasPrice ≤ estimate.held
  target : signed.transaction.target = .ofEvm endpoint.program
  value : signed.transaction.value = fee
  gasLimit : signed.transaction.gasLimit = some limit
  /-- The contract reads the arguments of the call in the data. -/
  arguments : ∃ data, signed.transaction.data = selector call.signature ++ data ∧ call.Holds data
  /-- What is handed in was signed at the price of the estimate. A node reads this call in it, if
  the numbers that it named itself have their widths. -/
  raw : ∃ fields, fields.gasPrice = estimate.gasPrice ∧
    signLegacy endpoint.signer signed.transaction fields = .ok signed ∧
    (fields.gasPrice < 2 ^ 128 → 2 * fields.networkId.toNat + 36 < 2 ^ 64 →
      ∃ envelope, Envelope.read? signed.raw = some envelope ∧
        envelope.target = endpoint.program ∧ envelope.value = fee ∧
        envelope.gasLimit = limit.toNat ∧ envelope.data = signed.transaction.data)

/-- What is executed for an intent that clears is handed in only as its call. -/
theorem Executes.released {intent : Intent} {checking executing : List (Exchange surroundings)}
    {call : Call} {data : Bytes} {fee : ℕ} {result : Outcome Receipt} {signed : SignedTransaction}
    (h : Executes endpoint call fee executing result)
    (hclears : Clears endpoint intent checking call) (hfee : number data 0 = .ok fee)
    (hmem : signed ∈ submissions executing) :
    ∃ estimate limit, Released endpoint intent
      (checking ++ returned endpoint.core .messageFee data :: executing) signed call fee estimate
      limit := by
  obtain ⟨estimate, limit, fields, later, rfl, hafford, hprice, hsign⟩ := h.signs hmem
  obtain ⟨hfits, hshort⟩ := hclears.fits
  have htransaction := transaction_eq_of_signLegacy hsign
  refine ⟨estimate, limit, ?_⟩
  exact
    { asked := ⟨checking, data, later, hclears, hfee, rfl⟩
      unreverted := fun error herror => not_saysReverted_of_limitAfter (herror ▸ hafford.1)
      limit_eq := toNat_eq_of_limitAfter hafford.1
      counted := hafford.2
      affordable := hafford.pays
      target := by rw [htransaction]; rfl
      value := by rw [htransaction]; rfl
      gasLimit := by rw [htransaction]; rfl
      arguments := ⟨call.arguments.encode, by rw [htransaction]; rfl, Call.holds_arguments hfits⟩
      raw := ⟨fields, hprice, htransaction ▸ hsign, fun hgasPrice hnetwork => by
        obtain ⟨signature, ⟨-, hlast⟩, -, rfl⟩ :=
          (signLegacy_eq_ok_iff_handedIn rfl rfl hnetwork).mp hsign
        have hsmall : (signature.getLastD 0).toNat ≤ 28 := by
          obtain hlast | hlast := hlast <;>
            · rw [hlast]
              decide
        refine ⟨_, read?_handedIn ⟨number_lt hfee, hshort, hgasPrice, hnetwork⟩ hsmall, rfl, rfl,
          rfl, rfl⟩⟩ }

/-- **Sending under all answers.** Let every failure of the node be one of the way to it, as a
node's client reports them. Then sending hands in one transaction at most, and only one that was
released: the intent is for the contract and well formed, the token's answers suffice, the
simulation did not refuse the call, and the account can pay, if 128 bits can hold the cost; the
transaction carries the fee, the gas limit and the arguments that this was found out for. If sending
fails in another way than the way to the node and to the receipt does, because of a recipient, an
amount, what is held or allowed, a message that is too long, a signer or a contract that is for
something else, nothing was handed in. -/
theorem send_releases {intent : Intent} {outcome : Outcome SendReceipt}
    (h : (endpoint.send intent).Runs exchanges outcome)
    (hrpc : ∀ error ∈ Action.failures exchanges, ∃ fault, error = .rpc fault) :
    (submissions exchanges).length ≤ 1 ∧
    (∀ signed ∈ submissions exchanges, ∃ call fee estimate limit,
      Released endpoint intent exchanges signed call fee estimate limit) ∧
    (∀ error, outcome = .error error → (∀ fault, error ≠ .rpc fault) →
      submissions exchanges = []) := by
  obtain ⟨checking, call, publishing, hclears, rfl, hpublish⟩ | ⟨hnone, -⟩ := runs_send h
  · have hchecking : submissions checking = [] := by cases hclears <;> rfl
    obtain ⟨data, fee, executing, result, rfl, hfee, hexecute, hfailure⟩ | ⟨hnone, -⟩ :=
      runs_publish hpublish
    · have hsubmissions : submissions (checking ++
          returned endpoint.core .messageFee data :: executing) = submissions executing := by
        rw [submissions_append, hchecking, List.nil_append, submissions_returned]
      rw [hsubmissions]
      refine ⟨?_, fun signed hmem => ⟨call, fee, hexecute.released hclears hfee hmem⟩, ?_⟩
      · obtain hnil | ⟨_, _, _, signed, -, -, hsigned, -⟩ := hexecute.submissions_eq
        · simp [hnil]
        · simp [hsigned]
      · intro error houtcome hother
        by_contra hsubmitted
        obtain ⟨fault, hfault⟩ : ∃ fault, error = .rpc fault := by
          obtain rfl | hfault := hfailure error houtcome
          · exact hexecute.rpc_of_submission
              (fun error herror => hrpc error (Action.failures_subset (by simp) herror)) hsubmitted
          · exact hfault
        exact hother fault hfault
    · simp [hchecking, hnone]
  · simp [hnone]

/-- A message without content is released: publishing costs nothing, and the account holds what
the gas costs. -/
theorem send_releases_message :
    ∃ signed outcome, (openEndpoint.send (.message [])).Runs (sending signed crowded) outcome ∧
      submissions (sending signed crowded) = [signed] ∧
      ∃ call fee estimate limit, Released openEndpoint (.message []) (sending signed crowded)
        signed call fee estimate limit := by
  obtain ⟨signed, hruns⟩ := exists_runs_send sequence_crowded
  obtain ⟨-, hreleased, -⟩ := send_releases hruns (by nofun)
  have hsubmissions : submissions (sending signed crowded) = [signed] := rfl
  exact ⟨signed, _, hruns, hsubmissions, hreleased signed (by simp [hsubmissions])⟩

end Endpoint

end GuardianRelay.Evm
