import GuardianRelay.Proofs.Evm.Redemption
import GuardianRelay.Proofs.Svm.Submission

/-!
# Runs of Registrations

The endpoints of both kinds of chains register another chain's endpoint in the same way. They
check what is to be registered, read what the chain holds, and land a transaction unless it holds
that address already. A transaction that is rejected with a text which says that there is a
registration counts as one that was not needed. What the chain holds is not read again, so the
registration that there is may be another address's.

## Main results

* `Registrar.runs_register_iff`: the runs are exactly the ones enumerated.
* `Evm.Endpoint.register_eq`, `Svm.Endpoint.register_eq`: both kinds of endpoints register in this
  way.
* `register_unchanged_iff`: when a registration says that the chain held the address already,
  under all answers.
* `Evm.Endpoint.register_rejectedUpdate`: it says so although the chain holds another address.
-/

namespace GuardianRelay

/-- What registering an address is made of. -/
structure Registrar (I : Interface) where
  /-- Whether the address can be registered. -/
  check : Except EndpointFault Unit
  address : Address
  /-- Reads what the chain holds. -/
  read : Program I (Option Address)
  /-- Lands the transaction that registers the address. -/
  land : Program I TxId
  /-- Whether a text says that there is a registration. -/
  duplicate : String → Bool

namespace Registrar

variable {I : Interface} {exchanges : List (Exchange I)}

/-- What becomes of a registration whose transaction ended like this. -/
def registeredAfter (r : Registrar I) : Outcome TxId → Outcome Registration :=
  Outcome.settle r.duplicate .submitted (.ok .unchanged)

/-- Registers the address, unless it cannot be or is registered. -/
def register (r : Registrar I) : Program I Registration := do
  Program.ofOutcome (r.check.mapError .invalidForeignEndpoint)
  let held ← r.read
  if held = some r.address then return .unchanged
  else Program.ofOutcome (r.registeredAfter (← r.land.attempt))

/-- How an address is registered. -/
inductive Registers (r : Registrar I) : List (Exchange I) → Outcome Registration → Prop
  /-- It cannot be registered. -/
  | invalid {fault : EndpointFault} :
      r.check = .error fault → Registers r [] (.error (.invalidForeignEndpoint fault))
  /-- What the chain holds could not be read. -/
  | unread {reading : List (Exchange I)} {error : RelayError} :
      r.check = .ok () → r.read.Runs reading (.error error) → Registers r reading (.error error)
  /-- The chain holds it. -/
  | held {reading : List (Exchange I)} :
      r.check = .ok () → r.read.Runs reading (.ok (some r.address)) →
      Registers r reading (.ok .unchanged)
  /-- The chain held nothing, or another address, and the transaction ended in some way. -/
  | landed {reading landing : List (Exchange I)} {held : Option Address}
      {result : Outcome TxId} :
      r.check = .ok () → r.read.Runs reading (.ok held) → held ≠ some r.address →
      r.land.Runs landing result → Registers r (reading ++ landing) (r.registeredAfter result)

/-- An address is registered in one of these ways. -/
theorem runs_register_iff {r : Registrar I} {outcome : Outcome Registration} :
    r.register.Runs exchanges outcome ↔ Registers r exchanges outcome := by
  rw [register, Program.runs_ofOutcome_bind_iff]
  constructor
  · rintro (⟨_, hchecked, hlater⟩ | ⟨error, hchecked, rfl, rfl⟩)
    · have hcheck := Outcome.mapError_eq_ok_iff.mp hchecked
      obtain ⟨held, reading, landing, hread, hland, rfl⟩ | ⟨error, hread, rfl⟩ :=
        Program.runs_bind_iff.mp hlater
      · split at hland
        next hheld =>
          obtain ⟨rfl, rfl⟩ := Program.runs_done_iff.mp hland
          rw [List.append_nil]
          exact .held hcheck (hheld ▸ hread)
        next hheld =>
          obtain ⟨result, hresult, rfl⟩ := Program.runs_attempt_ofOutcome_iff.mp hland
          exact .landed hcheck hread hheld hresult
      · exact .unread hcheck hread
    · obtain ⟨fault, hcheck, rfl⟩ := Outcome.mapError_eq_error_iff.mp hchecked
      exact .invalid hcheck
  · rintro (hcheck | ⟨hcheck, hread⟩ | ⟨hcheck, hread⟩ | ⟨hcheck, hread, hheld, hland⟩)
    · exact .inr ⟨_, Outcome.mapError_eq_error_iff.mpr ⟨_, hcheck, rfl⟩, rfl, rfl⟩
    · exact .inl ⟨(), Outcome.mapError_eq_ok_iff.mpr hcheck,
        Program.runs_bind_iff.mpr (.inr ⟨_, hread, rfl⟩)⟩
    · refine .inl ⟨(), Outcome.mapError_eq_ok_iff.mpr hcheck,
        Program.runs_bind_iff.mpr (.inl ⟨_, _, [], hread, ?_, (List.append_nil _).symm⟩)⟩
      rw [if_pos rfl]
      exact .done _
    · refine .inl ⟨(), Outcome.mapError_eq_ok_iff.mpr hcheck,
        Program.runs_bind_iff.mpr (.inl ⟨_, _, _, hread, ?_, rfl⟩)⟩
      rw [if_neg hheld]
      exact Program.runs_attempt_ofOutcome_iff.mpr ⟨_, hland, rfl⟩

/-- The chain held another address, or none, and the transaction that should have changed that was
rejected with a text which says that there is a registration. -/
def Rejected (r : Registrar I) (exchanges : List (Exchange I)) : Prop :=
  ∃ held reading landing error,
    r.read.Runs reading (.ok held) ∧ held ≠ some r.address ∧
    r.land.Runs landing (.error error) ∧ error.rpcText?.any r.duplicate = true ∧
    exchanges = reading ++ landing

/-- A registration leaves what there is in two cases: the chain holds the address, or the
transaction is rejected as one of a registration that there is. -/
theorem runs_register_unchanged_iff {r : Registrar I} :
    r.register.Runs exchanges (.ok .unchanged) ↔
      r.check = .ok () ∧
      (r.read.Runs exchanges (.ok (some r.address)) ∨ r.Rejected exchanges) := by
  rw [runs_register_iff]
  constructor
  · intro h
    generalize houtcome : (Except.ok .unchanged : Outcome Registration) = outcome at h
    cases h with
    | invalid | unread => cases houtcome
    | held hcheck hread => exact ⟨hcheck, .inl hread⟩
    | @landed reading landing held result hcheck hread hheld hland =>
        cases result with
        | ok tx => cases houtcome
        | error error =>
            cases hduplicate : error.rpcText?.any r.duplicate with
            | true =>
                exact ⟨hcheck, .inr ⟨held, reading, landing, error, hread, hheld, hland,
                  hduplicate, rfl⟩⟩
            | false => cases houtcome.trans (Outcome.settle_of_clear hduplicate)
  · rintro ⟨hcheck, hread | ⟨held, reading, landing, error, hread, hheld, hland, hduplicate, rfl⟩⟩
    · exact .held hcheck hread
    · have h := Registers.landed hcheck hread hheld hland
      rwa [registeredAfter, Outcome.settle_of_second hduplicate] at h

end Registrar

/-! ### Both kinds of endpoints -/

/-- The parts of a registration on a contract-model chain. -/
def Evm.Endpoint.registrar (endpoint : Evm.Endpoint) (foreign : ChainId) (address : Address) :
    Registrar Evm.surroundings where
  check := checkForeignEndpoint endpoint.chain foreign address
  address := address
  read := endpoint.registered foreign
  land := Receipt.hash <$> endpoint.execute (.registerEmitter foreign address) 0
  duplicate := Evm.saysDuplicateRegistration

/-- The parts of a registration on an account-model chain. -/
def Svm.Endpoint.registrar (endpoint : Svm.Endpoint) (foreign : ChainId) (address : Address) :
    Registrar Svm.surroundings where
  check := checkForeignEndpoint endpoint.chain foreign address
  address := address
  read := endpoint.registered foreign
  land := Program.ofOutcome (endpoint.registerInstruction foreign address) >>= endpoint.submit
  duplicate := Svm.saysInUse

/-- Whether an address would change anything is whether it is another one than is held. -/
theorem ite_registrationNeeded {α : Type} {held : Option Address} {address : Address} {p q : α} :
    (if ! registrationNeeded held address then p else q) =
      if held = some address then p else q := by
  simp [registrationNeeded]

/-- An endpoint on a contract-model chain registers in this way. -/
theorem Evm.Endpoint.register_eq {endpoint : Evm.Endpoint} {foreign : ChainId}
    {address : Address} :
    endpoint.register foreign address = (endpoint.registrar foreign address).register := by
  rw [register, Registrar.register, registrar]
  cases checkForeignEndpoint endpoint.chain foreign address with
  | error fault => rfl
  | ok =>
      refine bind_congr (m := Program _) fun held => ?_
      rw [ite_registrationNeeded, Program.attempt_map, bind_map_left]
      refine congrArg (ite (held = some address) _) (bind_congr fun result => ?_)
      cases result with
      | ok receipt => rfl
      | error error =>
          dsimp only [Registrar.registeredAfter, Outcome.settle, Except.map]
          cases error.rpcText?.any saysDuplicateRegistration <;> rfl

/-- Why there is no instruction is nothing that a node said. -/
theorem Svm.Endpoint.rpcText?_of_registerInstruction {endpoint : Svm.Endpoint}
    {foreign : ChainId} {address : Address} {error : RelayError}
    (h : endpoint.registerInstruction foreign address = .error error) :
    error.rpcText? = none := by
  rw [registerInstruction] at h
  split at h
  next =>
    obtain ⟨fault, -, rfl⟩ := Outcome.mapError_eq_error_iff.mp h
    rfl
  next =>
    split at h
    next => cases h; rfl
    next =>
      obtain ⟨fault, -, rfl⟩ := Outcome.mapError_eq_error_iff.mp h
      rfl

/-- An endpoint on an account-model chain registers in this way. -/
theorem Svm.Endpoint.register_eq {endpoint : Svm.Endpoint} {foreign : ChainId}
    {address : Address} :
    endpoint.register foreign address = (endpoint.registrar foreign address).register := by
  rw [register, Registrar.register, registrar]
  cases checkForeignEndpoint endpoint.chain foreign address with
  | error fault => rfl
  | ok =>
      refine bind_congr (m := Program _) fun held => ?_
      rw [ite_registrationNeeded]
      refine congrArg (ite (held = some address) _) ?_
      cases hinstruction : endpoint.registerInstruction foreign address with
      | error error =>
          have htext := rpcText?_of_registerInstruction hinstruction
          simp [Program.ofOutcome, Program.attempt, Registrar.registeredAfter, Outcome.settle,
            htext]
      | ok transaction =>
          refine bind_congr (x := (endpoint.submit transaction).attempt) fun result => ?_
          cases result with
          | ok tx => rfl
          | error error =>
              dsimp only [Registrar.registeredAfter, Outcome.settle]
              cases error.rpcText?.any saysInUse <;> rfl

/-- **When a registration says that the chain held the address already**, on either kind of chain
and under all answers: exactly if the address can be registered, and either what was read is the
address, or what was read is another one or none and the transaction was rejected with a text which
says that there is a registration. -/
theorem register_unchanged_iff (evm : Evm.Endpoint) (svm : Svm.Endpoint) (foreign : ChainId)
    (address : Address) (evmExchanges : List (Exchange Evm.surroundings))
    (svmExchanges : List (Exchange Svm.surroundings)) :
    ((evm.register foreign address).Runs evmExchanges (.ok .unchanged) ↔
      checkForeignEndpoint evm.chain foreign address = .ok () ∧
      ((evm.registered foreign).Runs evmExchanges (.ok (some address)) ∨
        (evm.registrar foreign address).Rejected evmExchanges)) ∧
    ((svm.register foreign address).Runs svmExchanges (.ok .unchanged) ↔
      checkForeignEndpoint svm.chain foreign address = .ok () ∧
      ((svm.registered foreign).Runs svmExchanges (.ok (some address)) ∨
        (svm.registrar foreign address).Rejected svmExchanges)) := by
  constructor
  · rw [Evm.Endpoint.register_eq]
    exact Registrar.runs_register_unchanged_iff
  · rw [Svm.Endpoint.register_eq]
    exact Registrar.runs_register_unchanged_iff

/-! ### An update that is rejected -/

namespace Evm.Endpoint

/-- The address that the chain holds. -/
def heldAddress : Address := ⟨FixedBytes.ofNat 9⟩

/-- The address that is to be registered. -/
def wantedAddress : Address := ⟨FixedBytes.ofNat 7⟩

/-- The contract has an endpoint of the first chain. -/
def holding : Exchange surroundings :=
  ⟨.node (.call openEndpoint.program (Call.registeredEmitter 1).encode),
    .ok heldAddress.toList⟩

/-- Why the contract does not take another one. -/
def takenAlready : RelayError := .rpc (.nodeError "execution reverted: already registered")

/-- The simulation of the update reverts. -/
def refusing : Exchange surroundings :=
  ⟨.node (.estimateGas openEndpoint.sender openEndpoint.program
    (Call.registerEmitter 1 wantedAddress).encode 0), .error takenAlready⟩

/-- **An update that is rejected may pass for a registration that was not needed.** The chain holds
another address, as the endpoint has just read, and refuses the update; the registration ends by
saying that the chain held the address already. -/
theorem register_rejectedUpdate :
    (openEndpoint.registered 1).Runs [holding] (.ok (some heldAddress)) ∧
    heldAddress ≠ wantedAddress ∧
    (openEndpoint.register 1 wantedAddress).Runs [holding, refusing] (.ok .unchanged) := by
  have hread : (openEndpoint.registered 1).Runs [holding] (.ok (some heldAddress)) :=
    Action.runs_node_bind_iff.mpr (.inl ⟨heldAddress.toList, [], rfl,
      Program.runs_ofOutcome_bind_iff.mpr (.inl ⟨heldAddress.bytes, by decide,
        Program.runs_done_iff.mpr ⟨rfl, by decide⟩⟩)⟩)
  have hland : (openEndpoint.registrar 1 wantedAddress).land.Runs [refusing]
      (.error takenAlready) :=
    Program.runs_bind_iff.mpr (.inr ⟨takenAlready, runs_execute_iff.mpr (.refused (by decide)),
      rfl⟩)
  have hafter : (openEndpoint.registrar 1 wantedAddress).registeredAfter (.error takenAlready) =
      .ok .unchanged := by decide
  refine ⟨hread, by decide, ?_⟩
  rw [register_eq, Registrar.runs_register_iff, ← hafter]
  exact .landed (by decide) hread (by decide) hland

end Evm.Endpoint

end GuardianRelay
