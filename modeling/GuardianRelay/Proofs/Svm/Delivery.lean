import GuardianRelay.Proofs.Svm.Redemption

/-!
# What Redemptions Submit

A redemption submits two transactions at most: one that posts the attestation, and after it the one
that delivers it. The second is submitted only if no record of an earlier redemption was found, the
attestation suits the program, and either it is posted or something said that an account is in use.
What says so need not be the refusal of the first transaction. Before a transaction is signed the
node is asked for a recent block, and when that fails with such a text, the failure is taken for
the refusal of a transaction that was never submitted.

## Main results

* `IsPost.not_isDelivery`: the two instructions can be told apart.
* `Redeems.of_submission`, `Redeems.of_failure`: what a redemption has done before it submits
  something, and what it does after a failure.
* `redeem_delivers`: which transactions a redemption submits, and what has to happen before.
* `redeem_unposted`: an attestation is delivered although it was neither posted nor refused.
-/

namespace GuardianRelay.Svm

variable {exchanges before after : List (Exchange surroundings)}

open Svm.Action (lookup)

namespace Endpoint

variable {endpoint : Endpoint} {a : Attestation} {transaction : UnsignedTransaction}

/-! ### The two instructions -/

/-- The instruction posts an attestation. -/
def IsPost (endpoint : Endpoint) (a : Attestation) (transaction : UnsignedTransaction) : Prop :=
  endpoint.core.post endpoint.chain endpoint.payer a = .ok transaction

/-- The instruction delivers an attestation to the program. -/
def IsDelivery (endpoint : Endpoint) (a : Attestation) (transaction : UnsignedTransaction) :
    Prop :=
  endpoint.redeemInstruction a = .ok transaction

/-- The payload of an attestation is for the program: it is a message, or a transfer to this chain
that carries a greeting. -/
def Suits (endpoint : Endpoint) (a : Attestation) : Prop :=
  match endpoint.role with
  | .messenger _ => ∃ message, MessengerMessage.decode a.payload = .ok message
  | .tokens _ => ∃ transfer sender payload greeting,
      TokenTransfer.decode a.payload = .ok transfer ∧
      transfer.recipientChain = endpoint.chain ∧
      transfer.kind = .withPayload sender payload ∧ Greeting.decode payload = .ok greeting

/-- What redeeming a transfer says, which account it reads it from, and which claim it leaves. -/
theorem exists_of_redeem {program : TokenIntegration} {chain : ChainId}
    {payer mint recipient : Address} {wrapped : Bool} {foreign : Address}
    (h : program.redeem chain payer a mint wrapped recipient foreign = .ok transaction) :
    ∃ posted claim, program.core.posted a = .ok posted ∧ program.claim a = .ok claim ∧
      transaction.data = TokenIntegration.redeemData wrapped a ∧
      transaction.accounts[11]? = some (.readonly posted) ∧
      transaction.accounts[12]? = some (.writable claim) := by
  obtain ⟨payerTokens, -, h⟩ := Outcome.bind_eq_ok_iff.mp h
  obtain ⟨contract, -, h⟩ := Outcome.bind_eq_ok_iff.mp h
  obtain ⟨recipientTokens, -, h⟩ := Outcome.bind_eq_ok_iff.mp h
  obtain ⟨passing, -, h⟩ := Outcome.bind_eq_ok_iff.mp h
  obtain ⟨posted, hposted, h⟩ := Outcome.bind_eq_ok_iff.mp h
  obtain ⟨claim, hclaim, h⟩ := Outcome.bind_eq_ok_iff.mp h
  dsimp only at h
  split at h
  all_goals
    obtain ⟨_, -, h⟩ := Outcome.bind_eq_ok_iff.mp h
    obtain ⟨_, -, h⟩ := Outcome.bind_eq_ok_iff.mp h
    obtain rfl := Except.ok.inj h
    exact ⟨posted, claim, hposted, hclaim, rfl, rfl, rfl⟩

/-- Redeeming a transfer says which one. -/
theorem data_redeem {program : TokenIntegration} {chain : ChainId} {payer mint recipient : Address}
    {wrapped : Bool} {foreign : Address}
    (h : program.redeem chain payer a mint wrapped recipient foreign = .ok transaction) :
    transaction.data = TokenIntegration.redeemData wrapped a := by
  obtain ⟨posted, claim, -, -, hdata, -, -⟩ := exists_of_redeem h
  exact hdata

/-- A transfer that can be redeemed is for this chain and carries a greeting. -/
theorem redeem_of_redeemTransfer {program : TokenIntegration}
    (h : endpoint.redeemTransfer program a = .ok transaction) :
    ∃ transfer greeting mint wrapped foreign, TokenTransfer.decode a.payload = .ok transfer ∧
      transfer.recipientChain = endpoint.chain ∧
      Greeting.decode (transfer.senderPayload?.getD []) = .ok greeting ∧
      program.redeem endpoint.chain endpoint.payer a mint wrapped greeting.recipient foreign =
        .ok transaction := by
  obtain ⟨transfer, htransfer, h⟩ := Outcome.bind_eq_ok_iff.mp h
  split at h
  next => contradiction
  next hchain =>
    obtain ⟨greeting, hgreeting, h⟩ := Outcome.bind_eq_ok_iff.mp h
    dsimp only at h
    split at h
    all_goals
      obtain ⟨mint, -, h⟩ := Outcome.bind_eq_ok_iff.mp h
      obtain ⟨foreign, -, h⟩ := Outcome.bind_eq_ok_iff.mp h
      exact ⟨transfer, greeting, mint, _, foreign, Outcome.mapError_eq_ok_iff.mp htransfer,
        not_not.mp hchain, Outcome.mapError_eq_ok_iff.mp hgreeting,
        Outcome.mapError_eq_ok_iff.mp h⟩

/-- An attestation for which there is a delivery suits the program. -/
theorem IsDelivery.suits (h : IsDelivery endpoint a transaction) : Suits endpoint a := by
  rw [IsDelivery, redeemInstruction] at h
  rw [Suits]
  cases hrole : endpoint.role with
  | messenger program =>
      rw [hrole] at h
      obtain ⟨message, hmessage, -⟩ := Outcome.bind_eq_ok_iff.mp h
      exact ⟨message, Outcome.mapError_eq_ok_iff.mp hmessage⟩
  | tokens program =>
      rw [hrole] at h
      obtain ⟨transfer, greeting, _, _, _, htransfer, hchain, hgreeting, -⟩ :=
        redeem_of_redeemTransfer h
      rw [TokenTransfer.senderPayload?] at hgreeting
      cases hkind : transfer.kind with
      | withPayload sender payload =>
          rw [hkind] at hgreeting
          exact ⟨transfer, sender, payload, greeting, htransfer, hchain, hkind, hgreeting⟩
      | withFee fee =>
          -- nothing is no greeting
          rw [hkind] at hgreeting
          contradiction

/-- A delivery only names the attestation. -/
theorem IsDelivery.length_data_le (h : IsDelivery endpoint a transaction) :
    transaction.data.length ≤ 40 := by
  have hnamed (name : String) : (instructionMark name ++ a.messageHash.toList).length ≤ 40 := by
    have hlength := length_instructionMark_append_le name a.messageHash.toList
    rwa [FixedBytes.length_toList] at hlength
  rw [IsDelivery, redeemInstruction] at h
  split at h
  next =>
    obtain ⟨message, -, h⟩ := Outcome.bind_eq_ok_iff.mp h
    obtain ⟨posted, -, h⟩ := Outcome.bind_eq_ok_iff.mp (Outcome.mapError_eq_ok_iff.mp h)
    obtain ⟨emitter, -, h⟩ := Outcome.bind_eq_ok_iff.mp h
    obtain ⟨record, -, h⟩ := Outcome.bind_eq_ok_iff.mp h
    obtain rfl := Except.ok.inj h
    exact hnamed _
  next =>
    obtain ⟨_, _, _, wrapped, _, -, -, -, h⟩ := redeem_of_redeemTransfer h
    rw [data_redeem h]
    exact hnamed _

/-- A post has the fields of the attestation. -/
theorem IsPost.lt_length_data (h : IsPost endpoint a transaction) :
    40 < transaction.data.length := by
  obtain ⟨guardianSet, -, h⟩ := Outcome.bind_eq_ok_iff.mp h
  obtain ⟨account, -, h⟩ := Outcome.bind_eq_ok_iff.mp h
  obtain rfl := Except.ok.inj h
  simp only [UnsignedTransaction.instruction, CoreBridge.postData, List.length_append,
    List.length_cons, Bytes.length_littleEndian, Address.length_toList]
  omega

/-- No instruction posts an attestation and delivers it. -/
theorem IsPost.not_isDelivery (h : IsPost endpoint a transaction) :
    ¬ IsDelivery endpoint a transaction :=
  fun hdelivery => absurd hdelivery.length_data_le (Nat.not_le_of_lt h.lt_length_data)

/-! ### Posting -/

/-- Posting is over when the transaction that posts is handed in. -/
theorem Posts.of_submission {outcome : Outcome Unit} {signed : SignedTransaction}
    {answer : Outcome TxId}
    (h : Posts endpoint a (before ++ ⟨.submit signed, answer⟩ :: after) outcome) :
    IsPost endpoint a signed.transaction ∧ after = [] ∧ outcome = postedAfter answer := by
  generalize hsplit : before ++ ⟨.submit signed, answer⟩ :: after = exchanges at h
  cases h with
  | underived => simp at hsplit
  | unprobed | known | unbuilt =>
      obtain _ | ⟨_, before⟩ := before
      · cases hsplit
      · simp at hsplit
  | submitted _ htransaction hsubmit =>
      obtain _ | ⟨_, before⟩ := before
      · cases hsplit
      · obtain ⟨-, rfl⟩ := List.cons.inj hsplit
        obtain ⟨rfl, -, rfl, rfl⟩ := hsubmit.of_submission
        exact ⟨htransaction, rfl, rfl⟩

/-- Posting is over when the node fails to answer a question, unless it says that an account is in
use. -/
theorem Posts.of_failure {outcome : Outcome Unit} {request : NodeRequest} {error : RelayError}
    (h : Posts endpoint a (before ++ ⟨request, .error error⟩ :: after) outcome)
    (hclear : error.rpcText?.any saysInUse = false) : after = [] ∧ outcome = .error error := by
  generalize hsplit : before ++ ⟨request, .error error⟩ :: after = exchanges at h
  cases h with
  | underived => simp at hsplit
  | known | unbuilt =>
      obtain _ | ⟨_, before⟩ := before
      · cases hsplit
      · simp at hsplit
  | unprobed =>
      obtain _ | ⟨_, before⟩ := before
      · cases hsplit
        exact ⟨rfl, rfl⟩
      · simp at hsplit
  | submitted _ _ hsubmit =>
      obtain _ | ⟨_, before⟩ := before
      · cases hsplit
      · obtain ⟨-, rfl⟩ := List.cons.inj hsplit
        obtain ⟨rfl, rfl⟩ := hsubmit.of_failure
        exact ⟨rfl, Outcome.settle_of_clear hclear⟩

/-- The transaction that posts is handed in once, or not at all. -/
theorem Posts.submissions_eq {outcome : Outcome Unit} (h : Posts endpoint a exchanges outcome) :
    submissions exchanges = [] ∨
      ∃ signed, submissions exchanges = [signed] ∧ IsPost endpoint a signed.transaction := by
  cases h with
  | underived | unprobed | known | unbuilt => exact .inl rfl
  | submitted _ htransaction hsubmit =>
      obtain hnil | ⟨signed, hsigned, rfl⟩ := hsubmit.submissions_eq
      · exact .inl hnil
      · exact .inr ⟨signed, hsigned, htransaction⟩

/-- Something gives a redemption reason to take the attestation for posted: its account was seen,
the transaction that posts it landed or was refused because an account is in use, or the node
refused with such a text to name a recent block. -/
inductive TakenForPosted (endpoint : Endpoint) (a : Attestation)
    (exchanges : List (Exchange surroundings)) : Prop
  /-- The account was seen. -/
  | seen {account : Address} {data : Bytes} :
      endpoint.core.posted a = .ok account → lookup account (.ok (some data)) ∈ exchanges →
      TakenForPosted endpoint a exchanges
  /-- The transaction landed. -/
  | landed {signed : SignedTransaction} {tx : TxId} :
      IsPost endpoint a signed.transaction → ⟨.submit signed, .ok tx⟩ ∈ exchanges →
      TakenForPosted endpoint a exchanges
  /-- The transaction was refused, because an account is in use. -/
  | refused {signed : SignedTransaction} {error : RelayError} :
      IsPost endpoint a signed.transaction → ⟨.submit signed, .error error⟩ ∈ exchanges →
      error.rpcText?.any saysInUse = true → TakenForPosted endpoint a exchanges
  /-- There was no transaction. The node did not name a block, because something is in use. -/
  | mistaken {error : RelayError} :
      submissions exchanges = [] → ⟨.recentBlock, .error error⟩ ∈ exchanges →
      error.rpcText?.any saysInUse = true → TakenForPosted endpoint a exchanges

/-- A reason is still one after more questions that submit nothing. -/
theorem TakenForPosted.mono {more : List (Exchange surroundings)}
    (h : TakenForPosted endpoint a exchanges) (hmore : exchanges ⊆ more)
    (hnone : submissions more = submissions exchanges) : TakenForPosted endpoint a more := by
  cases h with
  | seen hposted hmem => exact .seen hposted (hmore hmem)
  | landed hpost hmem => exact .landed hpost (hmore hmem)
  | refused hpost hmem huse => exact .refused hpost (hmore hmem) huse
  | mistaken hnil hmem huse => exact .mistaken (hnone.trans hnil) (hmore hmem) huse

/-- Posting that succeeds gives such a reason. -/
theorem Posts.takenForPosted (h : Posts endpoint a exchanges (.ok ())) :
    TakenForPosted endpoint a exchanges := by
  generalize houtcome : (Except.ok () : Outcome Unit) = outcome at h
  cases h with
  | underived | unprobed | unbuilt => contradiction
  | known data hkey => exact .seen hkey List.mem_cons_self
  | @submitted key transaction submitting result hkey htransaction hsubmit =>
      have huse : ∀ error, result = .error error → error.rpcText?.any saysInUse = true := by
        rintro error rfl
        by_contra hclear
        rw [postedAfter, Outcome.settle_of_clear (Bool.eq_false_iff.mpr hclear)] at houtcome
        contradiction
      cases hsubmit with
      | undated error =>
          exact .mistaken rfl (List.mem_cons_of_mem _ List.mem_cons_self) (huse error rfl)
      | unsigned hfault => exact absurd (huse _ rfl) Bool.false_ne_true
      | @handedIn recentBlock signed _ hsigned =>
          obtain rfl := transaction_eq_of_signTransaction hsigned
          have hmem : (⟨.submit signed, result⟩ : Exchange surroundings) ∈
              [lookup key (.ok none), ⟨.recentBlock, .ok recentBlock⟩, ⟨.submit signed, result⟩] :=
            List.mem_cons_of_mem _ (List.mem_cons_of_mem _ List.mem_cons_self)
          cases result with
          | ok tx => exact .landed htransaction hmem
          | error error => exact .refused htransaction hmem (huse error rfl)

/-! ### Delivering -/

/-- If one list is split in two ways, the place of the second split is in the one part or in the
other of the first. -/
theorem append_eq_append_cons {α : Type} {first second before after : List α} {x : α}
    (h : first ++ second = before ++ x :: after) :
    (∃ between, first = before ++ x :: between ∧ after = between ++ second) ∨
      ∃ between, before = first ++ between ∧ second = between ++ x :: after := by
  obtain ⟨between, hbefore, hsecond⟩ | ⟨rest, hfirst, hrest⟩ := List.append_eq_append_iff.mp h
  · exact .inr ⟨between, hbefore, hsecond⟩
  · cases rest with
    | nil => exact .inr ⟨[], by simpa using hfirst.symm, hrest.symm⟩
    | cons y between =>
        obtain ⟨rfl, rfl⟩ := List.cons.inj hrest
        exact .inl ⟨between, hfirst, rfl⟩

/-- A redemption that submits something posts or delivers. After it has posted it ends or delivers,
and before it delivers it has found no record and taken the attestation for posted. -/
theorem Redeems.of_submission {outcome : Outcome TxId} {signed : SignedTransaction}
    {answer : Outcome TxId}
    (h : Redeems endpoint a (before ++ ⟨.submit signed, answer⟩ :: after) outcome) :
    (IsPost endpoint a signed.transaction ∧
      ((∃ error, postedAfter answer = .error error ∧ after = [] ∧ outcome = .error error) ∨
        postedAfter answer = .ok () ∧ ∃ delivery result, IsDelivery endpoint a delivery ∧
          Submits endpoint delivery after result ∧ outcome = redeemedAfter result)) ∨
    (IsDelivery endpoint a signed.transaction ∧ TakenForPosted endpoint a before ∧
      ∃ record earlier, endpoint.replayRecord a = .ok record ∧
        before = lookup record (.ok none) :: earlier) := by
  generalize hsplit : before ++ ⟨.submit signed, answer⟩ :: after = exchanges at h
  cases h with
  | underived => simp at hsplit
  | unprobed | known | unfit =>
      obtain _ | ⟨_, before⟩ := before
      · cases hsplit
      · simp at hsplit
  | unposted _ _ hposting =>
      obtain _ | ⟨_, before⟩ := before
      · cases hsplit
      · obtain ⟨-, rfl⟩ := List.cons.inj hsplit
        obtain ⟨hpost, rfl, hposted⟩ := hposting.of_submission
        exact .inl ⟨hpost, .inl ⟨_, hposted.symm, rfl, rfl⟩⟩
  | @submitted record delivery posting submitting result hrecord hdelivery hposting hsubmit =>
      obtain _ | ⟨_, before⟩ := before
      · cases hsplit
      · obtain ⟨rfl, hlater⟩ := List.cons.inj hsplit
        obtain ⟨between, rfl, rfl⟩ | ⟨between, rfl, rfl⟩ := append_eq_append_cons hlater.symm
        · obtain ⟨hpost, rfl, hposted⟩ := hposting.of_submission
          exact .inl ⟨hpost, .inr ⟨hposted.symm, delivery, result, hdelivery, hsubmit, rfl⟩⟩
        · obtain ⟨rfl, hnone, rfl, rfl⟩ := hsubmit.of_submission
          refine .inr ⟨hdelivery, hposting.takenForPosted.mono ?_ ?_, record, _, hrecord, rfl⟩
          · exact List.subset_cons_of_subset _ (List.subset_append_left _ _)
          · show submissions (posting ++ between) = submissions posting
            rw [submissions_append, hnone, List.append_nil]

/-- A failure of the node ends a redemption, unless it says that an account is in use. -/
theorem Redeems.of_failure {outcome : Outcome TxId} {request : NodeRequest} {error : RelayError}
    (h : Redeems endpoint a (before ++ ⟨request, .error error⟩ :: after) outcome)
    (hclear : error.rpcText?.any saysInUse = false) : after = [] ∧ outcome = .error error := by
  generalize hsplit : before ++ ⟨request, .error error⟩ :: after = exchanges at h
  cases h with
  | underived => simp at hsplit
  | known | unfit =>
      obtain _ | ⟨_, before⟩ := before
      · cases hsplit
      · simp at hsplit
  | unprobed =>
      obtain _ | ⟨_, before⟩ := before
      · cases hsplit
        exact ⟨rfl, rfl⟩
      · simp at hsplit
  | unposted _ _ hposting =>
      obtain _ | ⟨_, before⟩ := before
      · cases hsplit
      · obtain ⟨-, rfl⟩ := List.cons.inj hsplit
        obtain ⟨rfl, houtcome⟩ := hposting.of_failure hclear
        exact ⟨rfl, congrArg _ (Except.error.inj houtcome)⟩
  | submitted _ _ hposting hsubmit =>
      obtain _ | ⟨_, before⟩ := before
      · cases hsplit
      · obtain ⟨rfl, hlater⟩ := List.cons.inj hsplit
        obtain ⟨between, rfl, rfl⟩ | ⟨between, rfl, rfl⟩ := append_eq_append_cons hlater.symm
        · obtain ⟨-, houtcome⟩ := hposting.of_failure hclear
          contradiction
        · obtain ⟨rfl, rfl⟩ := hsubmit.of_failure
          exact ⟨rfl, Outcome.settle_of_clear hclear⟩

/-- A redemption hands in a transaction that posts, or one that delivers, or both in this order, or
none. -/
theorem Redeems.submissions_eq {outcome : Outcome TxId}
    (h : Redeems endpoint a exchanges outcome) :
    ∃ post delivery : Option SignedTransaction,
      submissions exchanges = post.toList ++ delivery.toList ∧
      (∀ signed ∈ post, IsPost endpoint a signed.transaction) ∧
      ∀ signed ∈ delivery, IsDelivery endpoint a signed.transaction := by
  have one {p : UnsignedTransaction → Prop} {l : List SignedTransaction}
      (h : l = [] ∨ ∃ signed, l = [signed] ∧ p signed.transaction) :
      ∃ o : Option SignedTransaction, l = o.toList ∧ ∀ signed ∈ o, p signed.transaction := by
    obtain rfl | ⟨signed, rfl, hsigned⟩ := h
    · exact ⟨none, rfl, nofun⟩
    · exact ⟨some signed, rfl, fun other hother => Option.mem_some_iff.mp hother ▸ hsigned⟩
  cases h with
  | underived | unprobed | known | unfit => exact ⟨none, none, rfl, nofun, nofun⟩
  | @unposted record _ posting _ _ _ hposting =>
      obtain ⟨post, hpost, hisPost⟩ := one hposting.submissions_eq
      refine ⟨post, none, ?_, hisPost, nofun⟩
      rw [Option.toList_none, List.append_nil]
      exact hpost
  | @submitted record delivery posting submitting result _ hdelivery hposting hsubmit =>
      obtain ⟨post, hpost, hisPost⟩ := one hposting.submissions_eq
      obtain ⟨handedIn, hhandedIn, hisDelivery⟩ := one (p := (· = delivery)) hsubmit.submissions_eq
      refine ⟨post, handedIn, ?_, hisPost, fun signed hsigned => ?_⟩
      · rw [← hpost, ← hhandedIn, ← submissions_append]
        rfl
      · exact (hisDelivery signed hsigned).symm ▸ hdelivery

/-- **What a redemption submits.** It submits a transaction that posts, or one that delivers, or
both in this order, or none. Before it delivers it has asked for the record first and found none,
the attestation suits the program, and there was a reason to take it for posted. When the
transaction that posts is refused because an account is in use, the redemption goes on to deliver,
and ends as that ends. Any other failure of the node, and any failure to post, is the end. -/
theorem redeem_delivers {outcome : Outcome TxId}
    (h : (endpoint.redeem a).Runs exchanges outcome) :
    (∃ post delivery : Option SignedTransaction,
      submissions exchanges = post.toList ++ delivery.toList ∧
      (∀ signed ∈ post, IsPost endpoint a signed.transaction) ∧
      ∀ signed ∈ delivery, IsDelivery endpoint a signed.transaction) ∧
    (∀ before signed answer after, exchanges = before ++ ⟨.submit signed, answer⟩ :: after →
      IsDelivery endpoint a signed.transaction →
      (∃ record earlier, endpoint.replayRecord a = .ok record ∧
        before = lookup record (.ok none) :: earlier) ∧
      Suits endpoint a ∧ TakenForPosted endpoint a before) ∧
    (∀ before signed error after,
      exchanges = before ++ ⟨.submit signed, .error error⟩ :: after →
      IsPost endpoint a signed.transaction → error.rpcText?.any saysInUse = true →
      ∃ delivery result, IsDelivery endpoint a delivery ∧
        (endpoint.submit delivery).Runs after result ∧ outcome = redeemedAfter result) ∧
    (∀ before request error after, exchanges = before ++ ⟨request, .error error⟩ :: after →
      error.rpcText?.any saysInUse = false → after = [] ∧ outcome = .error error) ∧
    ∀ record delivery posting after error,
      endpoint.replayRecord a = .ok record → IsDelivery endpoint a delivery →
      exchanges = lookup record (.ok none) :: (posting ++ after) →
      (endpoint.post a).Runs posting (.error error) → after = [] ∧ outcome = .error error := by
  have hredeems := runs_redeem_iff.mp h
  refine ⟨hredeems.submissions_eq, ?_, ?_, ?_, ?_⟩
  · rintro before signed answer after rfl hdelivery
    obtain ⟨hpost, -⟩ | ⟨-, htaken, hrecord⟩ := hredeems.of_submission
    · exact absurd hdelivery hpost.not_isDelivery
    · exact ⟨hrecord, hdelivery.suits, htaken⟩
  · rintro before signed error after rfl hpost huse
    have hposted : postedAfter (.error error) = .ok () := Outcome.settle_of_second huse
    obtain ⟨-, ⟨_, herror, -⟩ | ⟨-, delivery, result, hdelivery, hsubmit, houtcome⟩⟩ |
      ⟨hdelivery, -⟩ := hredeems.of_submission
    · cases hposted.symm.trans herror
    · exact ⟨delivery, result, hdelivery, runs_submit_iff.mpr hsubmit, houtcome⟩
    · exact absurd hdelivery hpost.not_isDelivery
  · rintro before request error after rfl hclear
    exact hredeems.of_failure hclear
  · rintro record delivery posting after error hrecord hdelivery rfl hposting
    have hunposted := runs_redeem_iff.mpr
      (.unposted hrecord hdelivery (runs_post_iff.mp hposting))
    obtain ⟨-, hafter, houtcome⟩ := hunposted.append_unique h (List.append_nil _).symm
    exact ⟨hafter, houtcome.symm⟩

/-! ### Two redemptions -/

/-- The instruction that posts the message. -/
def posting (guardianSet account : Address) : UnsignedTransaction :=
  .instruction openEndpoint.chain openMessenger.core.program (CoreBridge.postData emptyMessage)
    [.readonly guardianSet, .readonly openMessenger.core.account, .writable account,
      .signer openEndpoint.payer, .readonly clockAccount, .readonly rentAccount,
      .readonly systemProgram]

/-- There is an instruction that posts the message. This computes the address of the guardian
set. -/
theorem exists_isPost {account : Address}
    (h : openMessenger.core.posted emptyMessage = .ok account) :
    ∃ guardianSet, IsPost openEndpoint emptyMessage (posting guardianSet account) := by
  have hset : (do
      let _ ← (ProgramAccount.guardianSet emptyMessage.guardianSetIndex).address
        openMessenger.core.program
      return true) = Except.ok true := by decide +kernel
  obtain ⟨guardianSet, hset, -⟩ := Outcome.bind_eq_ok_iff.mp hset
  exact ⟨guardianSet, Outcome.bind_eq_ok_iff.mpr
    ⟨guardianSet, hset, Outcome.bind_eq_ok_iff.mpr ⟨account, h, rfl⟩⟩⟩

/-- Only the account itself has to sign the post, which is small. -/
theorem exists_signed_posting (guardianSet account : Address) :
    ∃ signed, signTransaction openSigner (posting guardianSet account) FixedBytes.zero =
      .ok signed := by
  refine exists_signed_instruction ?_ (by simp) (by decide) _
  simp [AccountUse.signer, AccountUse.readonly, AccountUse.writable, payer, openEndpoint]

/-- Somebody else posts the message first, and the node refuses to post it again; then it takes the
delivery. -/
def postedMeanwhile (record account : Address) (post delivery : SignedTransaction) (tx : TxId) :
    List (Exchange surroundings) :=
  [lookup record (.ok none), lookup account (.ok none), ⟨.recentBlock, .ok FixedBytes.zero⟩,
    ⟨.submit post, .error (.rpc refusedLate)⟩, ⟨.recentBlock, .ok FixedBytes.zero⟩,
    ⟨.submit delivery, .ok tx⟩]

/-- The redemption that is refused to post delivers after it. -/
theorem redeem_delivers_postedMeanwhile : ∃ record account post delivery,
    (openEndpoint.redeem emptyMessage).Runs
      (postedMeanwhile record account post delivery "5h6x") (.ok "5h6x") ∧
    submissions (postedMeanwhile record account post delivery "5h6x") = [post, delivery] ∧
    IsPost openEndpoint emptyMessage post.transaction ∧
    IsDelivery openEndpoint emptyMessage delivery.transaction ∧
    Suits openEndpoint emptyMessage ∧
    TakenForPosted openEndpoint emptyMessage
      ((postedMeanwhile record account post delivery "5h6x").take 5) := by
  obtain ⟨record, account, foreign, hnamed⟩ := exists_named
  obtain ⟨guardianSet, hpost⟩ := exists_isPost hnamed.posted
  obtain ⟨post, hsignedPost⟩ := exists_signed_posting guardianSet account
  obtain ⟨signed, hsigned⟩ := exists_signed_delivery record account foreign
  have hposting : Posts openEndpoint emptyMessage [lookup account (.ok none),
      ⟨.recentBlock, .ok FixedBytes.zero⟩, ⟨.submit post, .error (.rpc refusedLate)⟩]
      (postedAfter (.error (.rpc refusedLate))) :=
    .submitted hnamed.posted hpost (.handedIn _ hsignedPost)
  have hposted : postedAfter (.error (.rpc refusedLate)) = .ok () := by decide
  rw [hposted] at hposting
  have hruns : (openEndpoint.redeem emptyMessage).Runs
      (postedMeanwhile record account post signed "5h6x") (.ok "5h6x") :=
    runs_redeem_iff.mpr (.submitted hnamed.replayRecord_eq hnamed.redeemInstruction_eq hposting
      (.handedIn (.ok "5h6x") hsigned))
  have hdelivery : IsDelivery openEndpoint emptyMessage signed.transaction :=
    (transaction_eq_of_signTransaction hsigned).symm ▸ hnamed.redeemInstruction_eq
  obtain ⟨-, hbefore, -⟩ := redeem_delivers hruns
  obtain ⟨-, hsuits, htaken⟩ := hbefore ((postedMeanwhile record account post signed "5h6x").take 5)
    signed (.ok "5h6x") [] rfl hdelivery
  exact ⟨record, account, post, signed, hruns, rfl,
    (transaction_eq_of_signTransaction hsignedPost).symm ▸ hpost, hdelivery, hsuits, htaken⟩

/-- How the way to a node fails that has no port left to answer from. -/
def noPortLeft : RpcFault :=
  .nodeError "upstream connect error: Address already in use (os error 98)"

/-- The way to the node fails when it is asked for the block that the post needs. It answers again
when it is asked for the one that the delivery needs, and takes the delivery. -/
def unposted (record account : Address) (delivery : SignedTransaction) (tx : TxId) :
    List (Exchange surroundings) :=
  [lookup record (.ok none), lookup account (.ok none),
    ⟨.recentBlock, .error (.rpc noPortLeft)⟩, ⟨.recentBlock, .ok FixedBytes.zero⟩,
    ⟨.submit delivery, .ok tx⟩]

/-- **A message may be delivered that was not posted.** The account in which it would be posted is
not there, no transaction posts it, and none is refused. A node that could not name a recent block
is taken for one that refused to post the message again. -/
theorem redeem_unposted : ∃ record account delivery,
    openEndpoint.core.posted emptyMessage = .ok account ∧
    (openEndpoint.redeem emptyMessage).Runs (unposted record account delivery "5h6x")
      (.ok "5h6x") ∧
    IsDelivery openEndpoint emptyMessage delivery.transaction ∧
    ⟨.submit delivery, .ok "5h6x"⟩ ∈ unposted record account delivery "5h6x" ∧
    (∀ data, lookup account (.ok (some data)) ∉ unposted record account delivery "5h6x") ∧
    ∀ post answer, ⟨.submit post, answer⟩ ∈ unposted record account delivery "5h6x" →
      ¬ IsPost openEndpoint emptyMessage post.transaction := by
  obtain ⟨record, account, foreign, hnamed⟩ := exists_named
  obtain ⟨guardianSet, hpost⟩ := exists_isPost hnamed.posted
  obtain ⟨signed, hsigned⟩ := exists_signed_delivery record account foreign
  have hposting : Posts openEndpoint emptyMessage
      [lookup account (.ok none), ⟨.recentBlock, .error (.rpc noPortLeft)⟩]
      (postedAfter (.error (.rpc noPortLeft))) :=
    .submitted hnamed.posted hpost (.undated _)
  have hposted : postedAfter (.error (.rpc noPortLeft)) = .ok () := by decide
  rw [hposted] at hposting
  have hdelivery : IsDelivery openEndpoint emptyMessage signed.transaction :=
    (transaction_eq_of_signTransaction hsigned).symm ▸ hnamed.redeemInstruction_eq
  refine ⟨record, account, signed, hnamed.posted, ?_, hdelivery, ?_, ?_, ?_⟩
  · exact runs_redeem_iff.mpr (.submitted hnamed.replayRecord_eq hnamed.redeemInstruction_eq
      hposting (.handedIn (.ok "5h6x") hsigned))
  · exact List.mem_append_right [_, _, _, _] List.mem_cons_self
  · intro data hmem
    simp only [unposted, lookup, List.mem_cons, List.not_mem_nil, or_false] at hmem
    obtain h | h | h | h | h := hmem <;> cases h
  · intro post answer hmem hpost
    simp only [unposted, lookup, List.mem_cons, List.not_mem_nil, or_false] at hmem
    obtain h | h | h | h | h := hmem <;> cases h
    exact hpost.not_isDelivery hdelivery

end Endpoint

end GuardianRelay.Svm
