import GuardianRelay.Proofs.Evm.Registry
import GuardianRelay.Proofs.Svm.Registry

/-!
# Registrations Are Read Back

An endpoint writes registrations with transactions and reads them with questions, in encodings that
have nothing in common. On chains of either kind the two fit together as one map from chains to
addresses, whatever registrations were attempted and however they went (`registrations_readBack`).
On an account-model chain this is the map of the chains whose accounts are told apart.

What the map has is what landed last. That is what the last attempt that succeeded has registered
only where nothing lands that belongs to an attempt which failed or is over. An endpoint of a
contract-model chain waits for its transaction for a limited time, and the transaction lands all the
same if it is late (`Evm.Endpoint.readBack_lateLanding`).

## Main results

* `registrations_readBack`: what is written is read, for both kinds of chains.
* `Evm.Endpoint.readBack_lateLanding`: what an attempt that has failed may leave behind.
-/

namespace GuardianRelay

/-- **What is written is read**, on contract-model chains for every chain, and on account-model
chains for those whose accounts are different ones. -/
theorem registrations_readBack (evm : Evm.Endpoint) {svm : Svm.Endpoint} {chains : Set ChainId}
    {record : ChainId → Address} (hseparates : svm.Separates chains record) :
    evm.registering.Keeps Set.univ ∧ svm.registering.Keeps chains :=
  ⟨(Evm.Endpoint.lawful_registering evm).keeps, (Svm.Endpoint.lawful_registering hseparates).keeps⟩

/-! ### One registration in a contract -/

namespace Evm.Endpoint

/-- Nothing is registered for the first chain. The open account hands in a registration, which the
node takes. -/
def handingIn (signed : SignedTransaction) : List (Exchange surroundings) :=
  openEndpoint.query 1 (.ok (Word.ofNat 0).toList) ::
    (cheapGas.asked openEndpoint (.registerEmitter 1 wantedAddress) 0 ++
      [⟨.knownNetwork, some 5⟩, ⟨.lock, ()⟩,
        ⟨.node (.transactionCount openEndpoint.sender), .ok (0 : UInt64)⟩,
        ⟨.node (.submit signed), .ok "0x01"⟩, ⟨.unlock, ()⟩, ⟨.now, (0 : ℕ)⟩])

/-- It goes on with these events, and the attempt ends in some way. -/
def attempted (signed : SignedTransaction) (later : List (ChainEvent surroundings))
    (outcome : Outcome Registration) : Attempt surroundings where
  foreign := 1
  address := wantedAddress
  events := (handingIn signed).map .asked ++ later
  outcome := outcome

/-- A receipt that says that the transaction succeeded. -/
def storedReceipt : Receipt := ⟨"0x01", some "0x1", []⟩

/-- The transaction lands while the endpoint waits for it. -/
def promptLanding (signed : SignedTransaction) : List (ChainEvent surroundings) :=
  [.landed "0x01" signed, .asked ⟨.node (.receipt "0x01"), .ok (some storedReceipt)⟩]

/-- The endpoint waits until its time is over, and then the transaction lands. -/
def lateLanding (signed : SignedTransaction) : List (ChainEvent surroundings) :=
  [.asked ⟨.node (.receipt "0x01"), .ok none⟩,
    .asked ⟨.now, openEndpoint.settings.confirmationMillis⟩, .landed "0x01" signed]

/-- The transaction that the open account hands in. -/
def IsRegistration (signed : SignedTransaction) : Prop :=
  signLegacy openSigner
    (openEndpoint.transaction (.registerEmitter 1 wantedAddress) 0 (scaledGas 100000)) ⟨0, 1, 5⟩ =
    .ok signed

theorem exists_isRegistration : ∃ signed, IsRegistration signed :=
  exists_signLegacy_call recoverable_openSigner _ _ _ _ _ _

/-- The attempt is one that the open account can make. -/
theorem makes_attempted {signed : SignedTransaction} {later : List (ChainEvent surroundings)}
    {outcome : Outcome Receipt} {state : Slots} (hsigned : IsRegistration signed)
    (hpolls : Polls openEndpoint "0x01" 0
      (pollLimit openEndpoint.settings.receiptPollMillis.toNat
        openEndpoint.settings.confirmationMillis) (askedIn later) outcome)
    (hlater : Steps (Slots.Step openEndpoint) .empty later state) :
    openEndpoint.registering.Makes .empty (attempted signed later
      ((openEndpoint.registrar 1 wantedAddress).registeredAfter (outcome.map Receipt.hash)))
      state where
  runs := by
    have hread : (openEndpoint.registered 1).Runs
        [openEndpoint.query 1 (.ok (Word.ofNat 0).toList)] (.ok none) :=
      runs_registered_iff.mpr ⟨_, rfl, by decide⟩
    have hland := runs_land_iff.mpr ⟨outcome, Executes.submitted (affords_cheapGas openEndpoint)
      (.known 5) (.handedIn (.ok "0x01") hsigned) hpolls, rfl⟩
    have hregisters := Registrar.Registers.landed (r := openEndpoint.registrar 1 wantedAddress)
      (by decide) hread (by decide) hland
    change (openEndpoint.register 1 wantedAddress).Runs
      (askedIn ((handingIn signed).map .asked ++ later)) _
    rw [askedIn_append, askedIn_map_asked, register_eq, Registrar.runs_register_iff]
    exact hregisters
  steps := by
    have htaken : Slots.Step openEndpoint .empty
        (.asked ⟨.node (.submit signed), .ok "0x01"⟩) .empty :=
      .taken (Set.notMem_empty _) (by rw [IsClear]; decide)
    have hread : Slots.empty.Answers openEndpoint
        (openEndpoint.query 1 (.ok (Word.ofNat 0).toList)) := fun _ _ _ =>
      congrArg FixedBytes.toList (by decide : Word.ofNat 0 = FixedBytes.zero)
    refine Steps.append ?_ hlater
    exact .cons (.asked rfl hread) <| .cons (.asked rfl trivial) <| .cons (.asked rfl trivial) <|
      .cons (.asked rfl trivial) <| .cons (.asked rfl trivial) <| .cons (.asked rfl trivial) <|
      .cons (.asked rfl trivial) <| .cons htaken <| .cons (.asked rfl trivial) <|
      .cons (.asked rfl trivial) <| .nil _

/-- The attempt is the first one of a history, if its transaction lands and no other one. After it
the address is read. -/
theorem readBack_attempted {signed : SignedTransaction} {later : List (ChainEvent surroundings)}
    {outcome : Outcome Registration} {state : Slots} (hsigned : IsRegistration signed)
    (hmakes : openEndpoint.registering.Makes .empty (attempted signed later outcome) state)
    (hlands : openEndpoint.registering.landings later = [signed]) :
    openEndpoint.registering.History Set.univ [attempted signed later outcome] state ∧
      openEndpoint.registering.Reads state 1 (some wantedAddress) := by
  have hlandings : openEndpoint.registering.landings (attempted signed later outcome).events =
      [signed] := hlands
  have hhistory : openEndpoint.registering.History Set.univ [attempted signed later outcome]
      state := by
    refine ⟨.cons hmakes (.nil state), fun _ _ => Set.mem_univ _, ?_⟩
    intro attempt hattempt landed hlanded
    obtain rfl := List.mem_singleton.mp hattempt
    rw [hlandings] at hlanded
    obtain rfl := List.mem_singleton.mp hlanded
    refine ⟨_, List.mem_singleton_self _, ?_⟩
    rw [Attempt.asked, attempted, askedIn_append, askedIn_map_asked, Registering.submissions_append]
    exact List.mem_append_left _ List.mem_cons_self
  have hcarried : ∀ landed ∈ openEndpoint.registering.landings
      (attempted signed later outcome).events,
      openEndpoint.registering.carried? landed = some (1, wantedAddress) := by
    intro landed hlanded
    rw [hlandings] at hlanded
    obtain rfl := List.mem_singleton.mp hlanded
    change openEndpoint.registration? landed.transaction = _
    rw [transaction_eq_of_signLegacy hsigned, registration?_registerEmitter]
  have hlatest := Registering.latest?_landed?_of_carried hcarried
    (hlandings ▸ List.cons_ne_nil _ _) 1
  have hreads := (lawful_registering openEndpoint).keeps.latest hhistory (Set.mem_univ 1)
  rw [List.flatMap_singleton, hlatest] at hreads
  exact ⟨hhistory, hreads⟩

/-- What was handed in before lands by itself. -/
theorem landsOwn_of_append {attempt : Attempt surroundings}
    {exchanges : List (Exchange surroundings)} {later : List (ChainEvent surroundings)}
    (hevents : attempt.events = exchanges.map .asked ++ later)
    (hlands : openEndpoint.registering.landings later ⊆ submissions exchanges) :
    openEndpoint.registering.LandsOwn attempt := by
  intro before event after landed hsplit hlanded
  have hbefore : ∃ rest, before = exchanges.map .asked ++ rest ∧
      later = rest ++ event :: after := by
    obtain ⟨rest, hbefore, hlater⟩ | ⟨rest, hbefore, hlater⟩ :=
      List.append_eq_append_iff.mp (hevents.symm.trans hsplit)
    · exact ⟨rest, hbefore, hlater⟩
    · cases rest with
      | nil => exact ⟨[], by simpa using hbefore.symm, hlater.symm⟩
      | cons first rest =>
          -- nothing lands by being asked
          obtain rfl := (List.cons.inj hlater).1
          have hmem : event ∈ exchanges.map ChainEvent.asked :=
            hbefore ▸ List.mem_append_right before List.mem_cons_self
          obtain ⟨x, -, rfl⟩ := List.mem_map.mp hmem
          contradiction
  obtain ⟨rest, rfl, rfl⟩ := hbefore
  rw [List.append_assoc, askedIn_append, askedIn_map_asked, Registering.submissions_append]
  refine List.mem_append_left _ (hlands (List.mem_filterMap.mpr ⟨event, ?_, hlanded⟩))
  exact List.mem_append_right rest List.mem_cons_self

/-- Nothing is left of the attempt whose transaction lands in time. -/
theorem settles_promptLanding (signed : SignedTransaction) (registration : Registration) :
    openEndpoint.registering.Settles
      (attempted signed (promptLanding signed) (.ok registration)) where
  own := landsOwn_of_append rfl (List.Subset.refl [signed])
  succeeds _ := rfl

/-- How the attempt fails whose transaction is late. -/
def gaveUp : RelayError := .rpc (.unconfirmed "0x01" openEndpoint.settings.confirmationSeconds)

/-- **An attempt that fails may leave its transaction behind.** No attempt has succeeded, and yet
an address is registered, since the transaction has landed after the endpoint gave it up. -/
theorem readBack_lateLanding :
    ∃ signed state,
      openEndpoint.registering.History Set.univ
        [attempted signed (lateLanding signed) (.error gaveUp)] state ∧
      latest? (Attempt.registered? 1) [attempted signed (lateLanding signed) (.error gaveUp)] =
        none ∧
      openEndpoint.registering.Reads state 1 (some wantedAddress) ∧
      ¬ openEndpoint.registering.Reads state 1 none := by
  obtain ⟨signed, hsigned⟩ := exists_isRegistration
  have hsteps : Steps (Slots.Step openEndpoint) .empty (lateLanding signed) _ :=
    .cons (.asked rfl trivial) (.cons (.asked rfl trivial)
      (.cons (.landed (Set.notMem_empty _)) (.nil _)))
  have hmakes := makes_attempted hsigned (.late (Nat.le_refl _)) hsteps
  obtain ⟨hhistory, hreads⟩ := readBack_attempted hsigned hmakes rfl
  refine ⟨signed, _, hhistory, rfl, hreads, fun hnone => ?_⟩
  exact absurd (hreads.unique hnone) (by decide)

end Evm.Endpoint

/-! ### One registration in an account -/

namespace Svm.Endpoint

open Evm.Endpoint (wantedAddress)

/-- The accounts of two chains are different ones. This computes them. -/
theorem exists_separates : ∃ record, openEndpoint.Separates {2, 4} record := by
  have h : (do
      let two ← openEndpoint.endpointRecord 2
      let four ← openEndpoint.endpointRecord 4
      return decide (two ≠ four)) = Except.ok true := by decide +kernel
  obtain ⟨two, htwo, h⟩ := Outcome.bind_eq_ok_iff.mp h
  obtain ⟨four, hfour, h⟩ := Outcome.bind_eq_ok_iff.mp h
  have hne : two ≠ four := of_decide_eq_true (Except.ok.inj h)
  refine ⟨fun foreign => if foreign = 2 then two else four, ?_, ?_⟩
  · rintro foreign (rfl | rfl)
    · exact htwo
    · exact hfour
  · rintro first (rfl | rfl) second (rfl | rfl) heq
    · rfl
    · exact absurd heq hne
    · exact absurd heq.symm hne
    · rfl

/-- The instruction that registers an address for the second chain. -/
def recording (record : Address) : UnsignedTransaction :=
  .instruction openEndpoint.chain openMessenger.program
    (instructionMark "register_emitter" ++ Bytes.littleEndian 2 (2 : ChainId).toNat ++
      wantedAddress.toList)
    [.signer openEndpoint.payer, .readonly openMessenger.config, .writable record,
      .readonly systemProgram]

theorem registerInstruction_eq_recording {record : Address}
    (h : openEndpoint.endpointRecord 2 = .ok record) :
    openEndpoint.registerInstruction 2 wantedAddress = .ok (recording record) :=
  Outcome.mapError_eq_ok_iff.mpr (Outcome.bind_eq_ok_iff.mpr ⟨record, h, rfl⟩)

/-- Only the account itself has to sign the registration, which is small. -/
theorem exists_signed_recording (record : Address) :
    ∃ signed, signTransaction openSigner (recording record) FixedBytes.zero = .ok signed := by
  refine exists_signed_instruction ?_ (by simp) ?_ _
  · simp [AccountUse.signer, AccountUse.readonly, AccountUse.writable, payer, openEndpoint]
  · rw [List.append_assoc]
    exact Nat.le_trans (length_instructionMark_append_le _ _) (by decide)

/-- Nothing is recorded for the second chain. The open account hands in a registration, which
lands. -/
def recordingOf (record : Address) (signed : SignedTransaction) : Attempt surroundings where
  foreign := 2
  address := wantedAddress
  events := [.asked (Action.lookup record (.ok none)), .asked ⟨.recentBlock, .ok FixedBytes.zero⟩,
    .asked ⟨.submit signed, .ok "5h6x"⟩]
  outcome := .ok (.submitted "5h6x")

/-- The attempt is one that the open account can make. -/
theorem makes_recordingOf {record : Address} {signed : SignedTransaction}
    (hrecord : openEndpoint.endpointRecord 2 = .ok record)
    (hsigned : signTransaction openSigner (recording record) FixedBytes.zero = .ok signed) :
    openEndpoint.registering.Makes (fun _ => none) (recordingOf record signed)
      (Accounts.store (fun _ => none) openEndpoint signed) where
  runs := by
    have hread : (openEndpoint.registered 2).Runs [Action.lookup record (.ok none)] (.ok none) :=
      runs_registered_iff.mpr (.inl ⟨record, _, hrecord, rfl, rfl⟩)
    have hland : (openEndpoint.registrar 2 wantedAddress).land.Runs
        [⟨.recentBlock, .ok FixedBytes.zero⟩, ⟨.submit signed, .ok "5h6x"⟩] (.ok "5h6x") :=
      Program.runs_ofOutcome_bind_iff.mpr (.inl ⟨_, registerInstruction_eq_recording hrecord,
        runs_submit_iff.mpr (.handedIn _ hsigned)⟩)
    change (openEndpoint.register 2 wantedAddress).Runs _ _
    rw [register_eq, Registrar.runs_register_iff]
    exact Registrar.Registers.landed (by decide) hread (by decide) hland
  steps := .cons (.asked rfl rfl) (.cons (.asked rfl trivial) (.cons .confirmed (.nil _)))

/-- Nothing is left of an attempt whose transaction is confirmed. -/
theorem settles_recordingOf (record : Address) (signed : SignedTransaction) :
    openEndpoint.registering.Settles (recordingOf record signed) where
  own before event after landed hsplit hlanded := by
    have hmem : event ∈ (recordingOf record signed).events := by
      rw [hsplit]
      exact List.mem_append_right before List.mem_cons_self
    -- what lands was handed in by the same exchange
    have hsubmitted : landed ∈ submissions (askedIn [event]) := by
      simp only [recordingOf, List.mem_cons, List.not_mem_nil, or_false] at hmem
      obtain rfl | rfl | rfl := hmem
      · contradiction
      · contradiction
      · obtain rfl := Option.some.inj hlanded
        exact List.mem_cons_self
    rw [askedIn_append, Registering.submissions_append]
    exact List.mem_append_right _ hsubmitted
  succeeds _ := rfl

/-- The attempt is the first one of a history. -/
theorem history_recordingOf {record : Address} {signed : SignedTransaction} {state : Accounts}
    (hmakes : openEndpoint.registering.Makes (fun _ => none) (recordingOf record signed) state) :
    openEndpoint.registering.History {2, 4} [recordingOf record signed] state where
  steps := .cons hmakes (.nil state)
  foreign_mem attempt hattempt := by
    obtain rfl := List.mem_singleton.mp hattempt
    exact .inl rfl
  handedIn attempt hattempt landed hlanded := by
    obtain rfl := List.mem_singleton.mp hattempt
    exact ⟨_, hattempt, (settles_recordingOf record signed).own.mem_submissions hlanded⟩

end Svm.Endpoint

/-- One registration is read back on a chain of each kind, and on the account-model chain there is
nothing to be read for another chain. -/
theorem registrations_readBack_once :
    ∃ (record : ChainId → Address) (contract : Evm.Slots) (accounts : Svm.Accounts),
      Svm.Endpoint.openEndpoint.Separates {2, 4} record ∧
      Evm.Endpoint.openEndpoint.registering.Reads contract 1 (some Evm.Endpoint.wantedAddress) ∧
      Svm.Endpoint.openEndpoint.registering.Reads accounts 2 (some Evm.Endpoint.wantedAddress) ∧
      Svm.Endpoint.openEndpoint.registering.Reads accounts 4 none := by
  obtain ⟨record, hseparates⟩ := Svm.Endpoint.exists_separates
  obtain ⟨hcontract, haccounts⟩ :=
    registrations_readBack Evm.Endpoint.openEndpoint hseparates
  obtain ⟨called, hcalled⟩ := Evm.Endpoint.exists_isRegistration
  have hsteps : Steps (Evm.Slots.Step Evm.Endpoint.openEndpoint) .empty
      (Evm.Endpoint.promptLanding called) _ :=
    .cons (.landed (Set.notMem_empty _))
      (.cons (.asked rfl ⟨by decide, Set.mem_insert _ _⟩) (.nil _))
  have hcalls := Evm.Endpoint.makes_attempted hcalled (.confirmed rfl) hsteps
  obtain ⟨hcallHistory, -⟩ := Evm.Endpoint.readBack_attempted hcalled hcalls rfl
  have hcallRead := hcontract.latest_of_settles hcallHistory
    (List.forall_mem_singleton.mpr (Evm.Endpoint.settles_promptLanding called _)) (Set.mem_univ 1)
  obtain ⟨signed, hsigned⟩ := Svm.Endpoint.exists_signed_recording (record 2)
  have hrecords := Svm.Endpoint.makes_recordingOf
    (hseparates.endpointRecord_eq 2 (.inl rfl)) hsigned
  have hrecordHistory := Svm.Endpoint.history_recordingOf hrecords
  have hsettles := List.forall_mem_singleton.mpr
    (Svm.Endpoint.settles_recordingOf (record 2) signed)
  exact ⟨record, _, _, hseparates, hcallRead,
    haccounts.latest_of_settles hrecordHistory hsettles (.inl rfl),
    haccounts.latest_of_settles hrecordHistory hsettles (.inr rfl)⟩

end GuardianRelay
