import GuardianRelay.Proofs.Evm.Abi
import GuardianRelay.Proofs.Evm.Redemption

/-!
# What a Token Answers Before a Transfer

Before a contract-model endpoint lets tokens go, it asks the token twice: what the account holds,
and what the contract may take of it. Each answer is a word, and it has to be at least the amount.
A word holds up to `2 ^ 256`, but the endpoint reads numbers below `2 ^ 128` only. So it refuses
an account that holds more, and a contract that may take everything, as it refuses an answer that
is not a number.

## Main results

* `Endpoint.failsWithin_demand_iff`, `Endpoint.leads_demand_iff`: what one answer settles.
* `Endpoint.transfer_settled`: what the two answers of a token settle.
-/

namespace GuardianRelay.Evm.Endpoint

/-! ### One answer -/

/-- Asks a contract for a number, which has to be at least so much. -/
def demand (contract : EvmAddress) (call : Call) (need : ℕ) (refuse : ℕ → RelayError)
    (next : Action SendReceipt) : Action SendReceipt := do
  let n ← Action.callNumber contract call
  if n < need then .fail (refuse n) else next

/-- The number in a word can be read, and it is at least so much. -/
structure Suffices (need : ℕ) (w : Word) : Prop where
  enough : need ≤ w.toNat
  narrow : w.toNat < 2 ^ 128

/-- A word, as a contract's answer. -/
def answered (contract : EvmAddress) (call : Call) (w : Word) : Exchange surroundings :=
  ⟨.node (.call contract call.encode), .ok w.toList⟩

section Demand

variable {contract : EvmAddress} {call : Call} {need : ℕ} {refuse : ℕ → RelayError}
  {next : Action SendReceipt} {w : Word} {later : List (Exchange surroundings)}

variable (contract call need refuse next) in
/-- What is asked for is asked first. What comes then depends on the number in the answer. -/
theorem exists_demand_eq :
    ∃ after, demand contract call need refuse next =
        .ask (.node (.call contract call.encode)) after ∧
      ∀ w : Word, after (.ok w.toList) =
        if w.toNat < 2 ^ 128 then if w.toNat < need then .fail (refuse w.toNat) else next
        else .fail (.rpc (.wideWord 0)) := by
  refine ⟨_, rfl, fun w => ?_⟩
  change (Program.ofOutcome (Outcome.ofRpc (number w.toList 0)) >>= fun n =>
    if n < need then .fail (refuse n) else next) = _
  rw [number_toList]
  split <;> rfl

/-- An answer is refused if it cannot be read or if it is too little. If it is neither, what comes
then may fail. -/
theorem failsWithin_demand_iff {error : RelayError} :
    (demand contract call need refuse next).FailsWithin (answered contract call w :: later) error ↔
      (2 ^ 128 ≤ w.toNat ∧ error = .rpc (.wideWord 0)) ∨
      (w.toNat < 2 ^ 128 ∧ w.toNat < need ∧ error = refuse w.toNat) ∨
      (Suffices need w ∧ next.FailsWithin later error) := by
  obtain ⟨after, hdemand, hafter⟩ := exists_demand_eq contract call need refuse next
  rw [hdemand, answered, Program.failsWithin_ask_cons_iff, hafter]
  split
  next hnarrow =>
    split
    next hless =>
      rw [Program.failsWithin_fail_iff]
      constructor
      · exact fun herror => .inr (.inl ⟨hnarrow, hless, herror⟩)
      · rintro (⟨hwide, -⟩ | ⟨-, -, herror⟩ | ⟨hsuffices, -⟩)
        · exact absurd hnarrow (Nat.not_lt.mpr hwide)
        · exact herror
        · exact absurd hless (Nat.not_lt.mpr hsuffices.enough)
    next henough =>
      constructor
      · exact fun hnext => .inr (.inr ⟨⟨Nat.not_lt.mp henough, hnarrow⟩, hnext⟩)
      · rintro (⟨hwide, -⟩ | ⟨-, hless, -⟩ | ⟨-, hnext⟩)
        · exact absurd hnarrow (Nat.not_lt.mpr hwide)
        · exact absurd hless henough
        · exact hnext
  next hwide =>
    rw [Program.failsWithin_fail_iff]
    constructor
    · exact fun herror => .inl ⟨Nat.not_lt.mp hwide, herror⟩
    · rintro (⟨-, herror⟩ | ⟨hnarrow, -, -⟩ | ⟨hsuffices, -⟩)
      · exact herror
      · exact absurd hnarrow hwide
      · exact absurd hsuffices.narrow hwide

/-- What comes then asks only if the answer suffices. -/
theorem leads_demand_iff {request : Request} {rest : request.Reply → Action SendReceipt} :
    (demand contract call need refuse next).Leads (answered contract call w :: later)
        (.ask request rest) ↔
      Suffices need w ∧ next.Leads later (.ask request rest) := by
  obtain ⟨after, hdemand, hafter⟩ := exists_demand_eq contract call need refuse next
  rw [hdemand, answered, Program.leads_ask_cons_iff, hafter]
  constructor
  · intro hleads
    split at hleads
    next hnarrow =>
      split at hleads
      next => exact absurd hleads Program.not_leads_fail_ask
      next henough => exact ⟨⟨Nat.not_lt.mp henough, hnarrow⟩, hleads⟩
    next => exact absurd hleads Program.not_leads_fail_ask
  · rintro ⟨hsuffices, hnext⟩
    rwa [if_pos hsuffices.narrow, if_neg (Nat.not_lt.mpr hsuffices.enough)]

end Demand

/-! ### Both answers -/

/-- Demands that the account holds enough of a token, and then that the contract may take
enough. -/
def preflight (endpoint : Endpoint) (contract : EvmAddress) (need : ℕ)
    (next : Action SendReceipt) : Action SendReceipt :=
  demand contract (.balanceOf endpoint.sender) need (.insufficientFunds need) <|
    demand contract (.allowance endpoint.sender endpoint.program) need
      (.insufficientAllowance need) next

/-- What a token answers before a transfer: what the account holds, and what the contract may take
of it. -/
def tokenAnswers (endpoint : Endpoint) (contract : EvmAddress) (balance allowance : Word) :
    List (Exchange surroundings) :=
  [answered contract (.balanceOf endpoint.sender) balance,
    answered contract (.allowance endpoint.sender endpoint.program) allowance]

section Preflight

variable {endpoint : Endpoint} {contract : EvmAddress} {need : ℕ} {balance allowance : Word}
  {request : Request} {rest : request.Reply → Action SendReceipt}

/-- Both answers of a token are judged before anything else is asked. -/
theorem failsWithin_preflight_iff (hneed : need < 2 ^ 128) {error : RelayError} :
    (endpoint.preflight contract need (.ask request rest)).FailsWithin
        (endpoint.tokenAnswers contract balance allowance) error ↔
      (balance.toNat < need ∧ error = .insufficientFunds need balance.toNat) ∨
      (Suffices need balance ∧ allowance.toNat < need ∧
        error = .insufficientAllowance need allowance.toNat) ∨
      ((2 ^ 128 ≤ balance.toNat ∨ need ≤ balance.toNat ∧ 2 ^ 128 ≤ allowance.toNat) ∧
        error = .rpc (.wideWord 0)) := by
  unfold preflight tokenAnswers
  rw [failsWithin_demand_iff, failsWithin_demand_iff]
  constructor
  · rintro (⟨hwide, herror⟩ | ⟨-, hpoor, herror⟩ | ⟨hfunds, ⟨hwide, herror⟩ | ⟨-, hless, herror⟩ |
      ⟨-, hnext⟩⟩)
    · exact .inr (.inr ⟨.inl hwide, herror⟩)
    · exact .inl ⟨hpoor, herror⟩
    · exact .inr (.inr ⟨.inr ⟨hfunds.enough, hwide⟩, herror⟩)
    · exact .inr (.inl ⟨hfunds, hless, herror⟩)
    · exact absurd hnext Program.not_failsWithin_ask_nil
  · rintro (⟨hpoor, herror⟩ | ⟨hfunds, hless, herror⟩ | ⟨hwide, herror⟩)
    · exact .inr (.inl ⟨hpoor.trans hneed, hpoor, herror⟩)
    · exact .inr (.inr ⟨hfunds, .inr (.inl ⟨hless.trans hneed, hless, herror⟩)⟩)
    · rcases Nat.lt_or_ge balance.toNat (2 ^ 128) with hnarrow | hbalance
      · obtain ⟨henough, hallowance⟩ := hwide.resolve_left (Nat.not_le.mpr hnarrow)
        exact .inr (.inr ⟨⟨henough, hnarrow⟩, .inl ⟨hallowance, herror⟩⟩)
      · exact .inl ⟨hbalance, herror⟩

/-- More is asked only if both answers suffice. -/
theorem leads_preflight_iff :
    (endpoint.preflight contract need (.ask request rest)).Leads
        (endpoint.tokenAnswers contract balance allowance) (.ask request rest) ↔
      Suffices need balance ∧ Suffices need allowance := by
  unfold preflight tokenAnswers
  rw [leads_demand_iff, leads_demand_iff]
  simp only [Program.Leads.refl, and_true]

end Preflight

/-! ### Transfers -/

variable {endpoint : Endpoint} {bridge contract : EvmAddress} {token recipient : Address}
  {amount : UInt64} {recipientChain : ChainId} {batch : UInt32}

/-- A transfer that is well formed is published after the token was asked. -/
theorem send_eq_preflight (hrole : endpoint.role = .tokens bridge)
    (hrecipient : checkRecipient endpoint.chain recipientChain recipient = .ok ())
    (hamount : amount ≠ 0) (htoken : token.evm? = some contract) :
    endpoint.send (.tokens token amount recipientChain recipient batch) =
      endpoint.preflight contract amount.toNat
        (endpoint.publish (.sendTokens contract amount.toNat recipientChain recipient batch)) := by
  simp only [send, hrole, sendTokens, hrecipient, htoken, if_neg hamount, Program.throw_eq,
    Program.bind_fail, preflight, demand]

/-- Publishing starts with a question, that for the fee. -/
theorem exists_publish_eq (endpoint : Endpoint) (call : Call) :
    ∃ rest, endpoint.publish call =
      .ask (.node (.call endpoint.core Call.messageFee.encode)) rest :=
  ⟨_, rfl⟩

/-- The two answers of the token settle a transfer that is well formed. It is refused for want of
funds if the account holds less than the amount; for want of an allowance if the account holds
enough, which can be read, and the contract may take less; and for a number that cannot be read if
what the account holds is `2 ^ 128` or more, or if it is enough and what the contract may take is
`2 ^ 128` or more. Else the transfer goes on to its publication, which starts with the fee. -/
theorem transfer_settled (hrole : endpoint.role = .tokens bridge)
    (hrecipient : checkRecipient endpoint.chain recipientChain recipient = .ok ())
    (hamount : amount ≠ 0) (htoken : token.evm? = some contract) (balance allowance : Word) :
    let transfer := endpoint.send (.tokens token amount recipientChain recipient batch)
    let told := endpoint.tokenAnswers contract balance allowance
    let publication :=
      endpoint.publish (.sendTokens contract amount.toNat recipientChain recipient batch)
    (∀ error, transfer.FailsWithin told error ↔
      (balance.toNat < amount.toNat ∧
        error = .insufficientFunds amount.toNat balance.toNat) ∨
      (Suffices amount.toNat balance ∧ allowance.toNat < amount.toNat ∧
        error = .insufficientAllowance amount.toNat allowance.toNat) ∨
      ((2 ^ 128 ≤ balance.toNat ∨
          amount.toNat ≤ balance.toNat ∧ 2 ^ 128 ≤ allowance.toNat) ∧
        error = .rpc (.wideWord 0))) ∧
    (transfer.Leads told publication ↔
      Suffices amount.toNat balance ∧ Suffices amount.toNat allowance) ∧
    ∃ rest, publication = .ask (.node (.call endpoint.core Call.messageFee.encode)) rest := by
  intro transfer told publication
  obtain ⟨rest, hpublication⟩ : ∃ rest, publication =
      .ask (.node (.call endpoint.core Call.messageFee.encode)) rest := exists_publish_eq _ _
  have htransfer : transfer = endpoint.preflight contract amount.toNat publication :=
    send_eq_preflight hrole hrecipient hamount htoken
  have hneed : amount.toNat < 2 ^ 128 := amount.toNat_lt.trans (by decide)
  rw [htransfer, hpublication]
  exact ⟨fun _ => failsWithin_preflight_iff hneed, leads_preflight_iff, rest, rfl⟩

/-- An endpoint that sends tokens through a bridge and signs everything. -/
def openBridge : Endpoint := { openEndpoint with role := .tokens (FixedBytes.ofNat 3) }

/-- A token. -/
def openToken : EvmAddress := FixedBytes.ofNat 4

/-- A transfer of 500 of the token, to the other chain. -/
def openTransfer : Intent := .tokens (.ofEvm openToken) 500 1 (.ofEvm openToken) 0

theorem checkRecipient_openTransfer :
    checkRecipient openBridge.chain 1 (.ofEvm openToken) = .ok () := by decide

/-- An account with 1000 of the token that allows 500 sends them; one that allows 10 does not. -/
theorem transfer_settled_open :
    openBridge.role = .tokens (FixedBytes.ofNat 3) ∧
    checkRecipient openBridge.chain 1 (.ofEvm openToken) = .ok () ∧
    (500 : UInt64) ≠ 0 ∧ (Address.ofEvm openToken).evm? = some openToken ∧
    (openBridge.send openTransfer).Leads
      (openBridge.tokenAnswers openToken (.ofNat 1000) (.ofNat 500))
      (openBridge.publish (.sendTokens openToken 500 1 (.ofEvm openToken) 0)) ∧
    (openBridge.send openTransfer).FailsWithin
      (openBridge.tokenAnswers openToken (.ofNat 1000) (.ofNat 10))
      (.insufficientAllowance 500 10) := by
  have hsettled := @transfer_settled openBridge (FixedBytes.ofNat 3) openToken (.ofEvm openToken)
    (.ofEvm openToken) 500 1 0 rfl checkRecipient_openTransfer (by decide)
    (Address.evm?_ofEvm openToken)
  refine ⟨rfl, checkRecipient_openTransfer, by decide, Address.evm?_ofEvm _, ?_, ?_⟩
  · exact (hsettled _ _).2.1.mpr ⟨⟨by decide, by decide⟩, by decide, by decide⟩
  · exact ((hsettled _ _).1 _).mpr (.inr (.inl ⟨⟨by decide, by decide⟩, by decide, by decide⟩))

/-- The transfer does not get through the preflight: a number cannot be read. -/
def Unread (balance allowance : Word) : Prop :=
  (openBridge.send openTransfer).FailsWithin
      (openBridge.tokenAnswers openToken balance allowance) (.rpc (.wideWord 0)) ∧
    ¬ (openBridge.send openTransfer).Leads (openBridge.tokenAnswers openToken balance allowance)
      (openBridge.publish (.sendTokens openToken 500 1 (.ofEvm openToken) 0))

/-- An account that holds enough and has allowed everything cannot send: how much it has allowed
cannot be read. Neither can an account that holds `2 ^ 128` of the token. -/
theorem transfer_refused_unlimited :
    checkRecipient openBridge.chain 1 (.ofEvm openToken) = .ok () ∧
    (Address.ofEvm openToken).evm? = some openToken ∧
    (Word.ofNat 1000).toNat = 1000 ∧ (Word.ofNat (2 ^ 256 - 1)).toNat = 2 ^ 256 - 1 ∧
    (Word.ofNat (2 ^ 128)).toNat = 2 ^ 128 ∧
    Unread (.ofNat 1000) (.ofNat (2 ^ 256 - 1)) ∧
    Unread (.ofNat (2 ^ 128)) (.ofNat (2 ^ 256 - 1)) := by
  have hunread (balance allowance : Word) (hwide : 2 ^ 128 ≤ balance.toNat ∨
      500 ≤ balance.toNat ∧ 2 ^ 128 ≤ allowance.toNat) : Unread balance allowance := by
    have hsend : openBridge.send openTransfer = _ :=
      send_eq_preflight rfl checkRecipient_openTransfer (by decide) (Address.evm?_ofEvm _)
    rw [Unread, hsend]
    constructor
    · exact (failsWithin_preflight_iff (by decide)).mpr (.inr (.inr ⟨hwide, rfl⟩))
    · intro hleads
      obtain ⟨hbalance, hallowance⟩ := leads_preflight_iff.mp hleads
      rcases hwide with hwide | ⟨-, hwide⟩
      · exact absurd hbalance.narrow (Nat.not_lt.mpr hwide)
      · exact absurd hallowance.narrow (Nat.not_lt.mpr hwide)
  exact ⟨checkRecipient_openTransfer, Address.evm?_ofEvm _, by decide, by decide, by decide,
    hunread _ _ (.inr ⟨by decide, by decide⟩), hunread _ _ (.inl (by decide))⟩

end GuardianRelay.Evm.Endpoint
