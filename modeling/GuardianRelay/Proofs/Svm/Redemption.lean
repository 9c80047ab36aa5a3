import GuardianRelay.Proofs.Svm.Message
import GuardianRelay.Proofs.Svm.Submission

/-!
# Runs of Redemptions on Account-Model Chains

An endpoint that redeems an attestation first looks for the record of an earlier redemption. It
then posts the attestation, unless that was done before, and submits the instruction that
redeems it. A submission that fails because an account is already in use means that somebody else
was faster. That text is the only sign that is heeded: after any other failure the record is not
looked for again, although it may be there.

## Main results

* `Endpoint.runs_post_iff`, `Endpoint.runs_redeem_iff`: the runs are exactly the ones enumerated.
* `Endpoint.redeem_alreadyRedeemed_iff`: when a redemption says that the attestation was redeemed
  already, under all answers.
* `Endpoint.redeem_lostRace`: a race that is lost without that text ends as a failure, although
  the chain has the record.
-/

namespace GuardianRelay.Svm

variable {exchanges : List (Exchange surroundings)}

open Svm.Action (lookup)

namespace Endpoint

variable {endpoint : Endpoint} {a : Attestation}

/-! ### Posting -/

/-- What becomes of posting an attestation when its submission ended like this: that somebody else
has posted it is no failure. -/
def postedAfter : Outcome TxId → Outcome Unit :=
  Outcome.settle saysInUse (fun _ => ()) (.ok ())

/-- How an attestation is posted. -/
inductive Posts (endpoint : Endpoint) (a : Attestation) :
    List (Exchange surroundings) → Outcome Unit → Prop
  /-- There is no address for it. -/
  | underived {fault : DeriveError} :
      endpoint.core.posted a = .error fault →
      Posts endpoint a [] (.error (.invalidSeed fault))
  /-- The node did not say whether it was posted. -/
  | unprobed {key : Address} (error : RelayError) :
      endpoint.core.posted a = .ok key →
      Posts endpoint a [lookup key (.error error)] (.error error)
  /-- It was posted before. -/
  | known {key : Address} (data : Bytes) :
      endpoint.core.posted a = .ok key →
      Posts endpoint a [lookup key (.ok (some data))] (.ok ())
  /-- There is no instruction that posts it. -/
  | unbuilt {key : Address} {fault : DeriveError} :
      endpoint.core.posted a = .ok key →
      endpoint.core.post endpoint.chain endpoint.payer a = .error fault →
      Posts endpoint a [lookup key (.ok none)] (.error (.invalidSeed fault))
  /-- The instruction that posts it was submitted. -/
  | submitted {key : Address} {transaction : UnsignedTransaction}
      {submitting : List (Exchange surroundings)} {result : Outcome TxId} :
      endpoint.core.posted a = .ok key →
      endpoint.core.post endpoint.chain endpoint.payer a = .ok transaction →
      Submits endpoint transaction submitting result →
      Posts endpoint a (lookup key (.ok none) :: submitting) (postedAfter result)

/-- Posting looks for the account, submits the instruction, and makes its outcome of that. -/
theorem post_eq :
    endpoint.post a = Action.derived (endpoint.core.posted a) >>= fun key =>
      Action.accountExists key >>= fun posted =>
      if posted then Program.done ()
      else Action.derived (endpoint.core.post endpoint.chain endpoint.payer a) >>=
        fun transaction => (endpoint.submit transaction).attempt >>= fun result =>
        Program.ofOutcome (postedAfter result) := by
  rw [post]
  refine bind_congr fun key => bind_congr fun posted => ?_
  cases posted with
  | true => rw [if_pos rfl, if_pos rfl]; rfl
  | false =>
      rw [if_neg Bool.false_ne_true, if_neg Bool.false_ne_true]
      refine bind_congr fun transaction => bind_congr fun result => ?_
      cases result with
      | ok tx => rfl
      | error error =>
          dsimp only [postedAfter, Outcome.settle]
          cases error.rpcText?.any saysInUse <;> rfl

/-- An attestation is posted in one of these ways. -/
theorem runs_post_iff {outcome : Outcome Unit} :
    (endpoint.post a).Runs exchanges outcome ↔ Posts endpoint a exchanges outcome := by
  rw [post_eq, Action.runs_derived_bind_iff]
  simp only [Action.runs_accountExists_bind_iff]
  constructor
  · rintro (⟨key, hkey, ⟨data, later, rfl, hlater⟩ | ⟨error, rfl, rfl⟩⟩ | ⟨fault, hfault, rfl, rfl⟩)
    · cases data with
      | some data =>
          obtain ⟨rfl, rfl⟩ := Program.runs_done_iff.mp hlater
          exact .known data hkey
      | none =>
          obtain ⟨transaction, htransaction, hsubmit⟩ | ⟨fault, hfault, rfl, rfl⟩ :=
            Action.runs_derived_bind_iff.mp hlater
          · obtain ⟨result, hresult, rfl⟩ := Program.runs_attempt_ofOutcome_iff.mp hsubmit
            exact .submitted hkey htransaction (runs_submit_iff.mp hresult)
          · exact .unbuilt hkey hfault
    · exact .unprobed error hkey
    · exact .underived hfault
  · rintro (hfault | ⟨error, hkey⟩ | ⟨data, hkey⟩ | ⟨hkey, hfault⟩ | ⟨hkey, htransaction, hsubmit⟩)
    · exact .inr ⟨_, hfault, rfl, rfl⟩
    · exact .inl ⟨_, hkey, .inr ⟨error, rfl, rfl⟩⟩
    · exact .inl ⟨_, hkey, .inl ⟨some data, [], rfl, .done ()⟩⟩
    · exact .inl ⟨_, hkey, .inl ⟨none, [], rfl,
        Action.runs_derived_bind_iff.mpr (.inr ⟨_, hfault, rfl, rfl⟩)⟩⟩
    · exact .inl ⟨_, hkey, .inl ⟨none, _, rfl, Action.runs_derived_bind_iff.mpr
        (.inl ⟨_, htransaction, Program.runs_attempt_ofOutcome_iff.mpr
          ⟨_, runs_submit_iff.mpr hsubmit, rfl⟩⟩)⟩⟩

/-! ### Redeeming -/

/-- What becomes of a redemption when its submission ended like this. -/
def redeemedAfter : Outcome TxId → Outcome TxId :=
  Outcome.settle saysInUse id (.error .alreadyRedeemed)

/-- How an attestation is redeemed. -/
inductive Redeems (endpoint : Endpoint) (a : Attestation) :
    List (Exchange surroundings) → Outcome TxId → Prop
  /-- There is no address for the record. -/
  | underived {fault : DeriveError} :
      endpoint.replayRecord a = .error fault →
      Redeems endpoint a [] (.error (.invalidSeed fault))
  /-- The node did not say whether there is a record. -/
  | unprobed {key : Address} (error : RelayError) :
      endpoint.replayRecord a = .ok key →
      Redeems endpoint a [lookup key (.error error)] (.error error)
  /-- There is a record: the attestation was redeemed before. -/
  | known {key : Address} (data : Bytes) :
      endpoint.replayRecord a = .ok key →
      Redeems endpoint a [lookup key (.ok (some data))] (.error .alreadyRedeemed)
  /-- The attestation is not for the program. -/
  | unfit {key : Address} {error : RelayError} :
      endpoint.replayRecord a = .ok key →
      endpoint.redeemInstruction a = .error error →
      Redeems endpoint a [lookup key (.ok none)] (.error error)
  /-- The attestation could not be posted. -/
  | unposted {key : Address} {transaction : UnsignedTransaction}
      {posting : List (Exchange surroundings)} {error : RelayError} :
      endpoint.replayRecord a = .ok key →
      endpoint.redeemInstruction a = .ok transaction →
      Posts endpoint a posting (.error error) →
      Redeems endpoint a (lookup key (.ok none) :: posting) (.error error)
  /-- The instruction that redeems the attestation was submitted. -/
  | submitted {key : Address} {transaction : UnsignedTransaction}
      {posting submitting : List (Exchange surroundings)} {result : Outcome TxId} :
      endpoint.replayRecord a = .ok key →
      endpoint.redeemInstruction a = .ok transaction →
      Posts endpoint a posting (.ok ()) →
      Submits endpoint transaction submitting result →
      Redeems endpoint a (lookup key (.ok none) :: (posting ++ submitting))
        (redeemedAfter result)

/-- A redemption looks for the record, posts, submits the instruction, and makes its outcome of
that. -/
theorem redeem_eq :
    endpoint.redeem a = Action.derived (endpoint.replayRecord a) >>= fun key =>
      Action.accountExists key >>= fun redeemed =>
      if redeemed then Program.fail .alreadyRedeemed
      else Program.ofOutcome (endpoint.redeemInstruction a) >>= fun transaction =>
        endpoint.post a >>= fun _ => (endpoint.submit transaction).attempt >>= fun result =>
        Program.ofOutcome (redeemedAfter result) := by
  rw [redeem, isRedeemed, bind_assoc]
  refine bind_congr fun key => bind_congr fun redeemed => ?_
  cases redeemed with
  | true => rw [if_pos rfl, if_pos rfl]; rfl
  | false =>
      rw [if_neg Bool.false_ne_true, if_neg Bool.false_ne_true]
      refine bind_congr fun transaction => bind_congr fun _ => bind_congr fun result => ?_
      cases result with
      | ok tx => rfl
      | error error =>
          dsimp only [redeemedAfter, Outcome.settle]
          cases error.rpcText?.any saysInUse <;> rfl

/-- An attestation is redeemed in one of these ways. -/
theorem runs_redeem_iff {outcome : Outcome TxId} :
    (endpoint.redeem a).Runs exchanges outcome ↔ Redeems endpoint a exchanges outcome := by
  rw [redeem_eq, Action.runs_derived_bind_iff]
  simp only [Action.runs_accountExists_bind_iff]
  constructor
  · rintro (⟨key, hkey, ⟨data, later, rfl, hlater⟩ | ⟨error, rfl, rfl⟩⟩ | ⟨fault, hfault, rfl, rfl⟩)
    · cases data with
      | some data =>
          obtain ⟨rfl, rfl⟩ := Program.runs_fail_iff.mp hlater
          exact .known data hkey
      | none =>
          obtain ⟨transaction, htransaction, hpost⟩ | ⟨error, herror, rfl, rfl⟩ :=
            Program.runs_ofOutcome_bind_iff.mp hlater
          · obtain ⟨_, posting, _, hposting, hsubmit, rfl⟩ | ⟨error, hposting, rfl⟩ :=
              Program.runs_bind_iff.mp hpost
            · obtain ⟨result, hresult, rfl⟩ := Program.runs_attempt_ofOutcome_iff.mp hsubmit
              exact .submitted hkey htransaction (runs_post_iff.mp hposting)
                (runs_submit_iff.mp hresult)
            · exact .unposted hkey htransaction (runs_post_iff.mp hposting)
          · exact .unfit hkey herror
    · exact .unprobed error hkey
    · exact .underived hfault
  · rintro (hfault | ⟨error, hkey⟩ | ⟨data, hkey⟩ | ⟨hkey, herror⟩ |
      ⟨hkey, htransaction, hposting⟩ | ⟨hkey, htransaction, hposting, hsubmit⟩)
    · exact .inr ⟨_, hfault, rfl, rfl⟩
    · exact .inl ⟨_, hkey, .inr ⟨error, rfl, rfl⟩⟩
    · exact .inl ⟨_, hkey, .inl ⟨some data, [], rfl, .fail _⟩⟩
    · exact .inl ⟨_, hkey, .inl ⟨none, [], rfl,
        Program.runs_ofOutcome_bind_iff.mpr (.inr ⟨_, herror, rfl, rfl⟩)⟩⟩
    · refine .inl ⟨_, hkey, .inl ⟨none, _, rfl,
        Program.runs_ofOutcome_bind_iff.mpr (.inl ⟨_, htransaction, ?_⟩)⟩⟩
      exact Program.runs_bind_iff.mpr (.inr ⟨_, runs_post_iff.mpr hposting, rfl⟩)
    · refine .inl ⟨_, hkey, .inl ⟨none, _, rfl,
        Program.runs_ofOutcome_bind_iff.mpr (.inl ⟨_, htransaction, ?_⟩)⟩⟩
      exact Program.runs_bind_iff.mpr (.inl ⟨(), _, _, runs_post_iff.mpr hposting,
        Program.runs_attempt_ofOutcome_iff.mpr ⟨_, runs_submit_iff.mpr hsubmit, rfl⟩, rfl⟩)

/-! ### When an attestation is said to be redeemed -/

/-- That a transfer is not for the program is no reason to say that it was redeemed. -/
theorem redeemTransfer_ne_alreadyRedeemed {program : TokenIntegration} :
    endpoint.redeemTransfer program a ≠ .error .alreadyRedeemed := by
  have parsed {α : Type} (r : Except ParseError α) :
      Outcome.ofParsed r ≠ .error .alreadyRedeemed := Outcome.mapError_ne_error nofun
  have derived {α : Type} (r : Except DeriveError α) :
      Outcome.ofDerived r ≠ .error .alreadyRedeemed := Outcome.mapError_ne_error nofun
  refine Outcome.bind_ne_error (parsed _) fun transfer => ?_
  split
  next => nofun
  next =>
    refine Outcome.bind_ne_error (parsed _) fun greeting => ?_
    dsimp only
    split
    next =>
      exact Outcome.bind_ne_error (derived _) fun mint =>
        Outcome.bind_ne_error (derived _) fun registration => derived _
    next =>
      exact Outcome.bind_ne_error nofun fun mint =>
        Outcome.bind_ne_error (derived _) fun registration => derived _

/-- That an attestation is not for the program is no reason to say that it was redeemed. -/
theorem redeemInstruction_ne_alreadyRedeemed :
    endpoint.redeemInstruction a ≠ .error .alreadyRedeemed := by
  rw [redeemInstruction]
  split
  next =>
    exact Outcome.bind_ne_error (Outcome.mapError_ne_error nofun)
      fun message => Outcome.mapError_ne_error nofun
  next => exact redeemTransfer_ne_alreadyRedeemed

/-- If only the way to the node fails, posting does not itself say that the attestation was
redeemed. -/
theorem Posts.ne_alreadyRedeemed {error : RelayError}
    (h : Posts endpoint a exchanges (.error error))
    (hrpc : ∀ error ∈ Action.failures exchanges, ∃ fault, error = .rpc fault) :
    error ≠ .alreadyRedeemed := by
  generalize houtcome : (Except.error error : Outcome Unit) = outcome at h
  cases h with
  | underived | unbuilt =>
      obtain rfl := Except.error.inj houtcome
      nofun
  | unprobed =>
      obtain rfl := Except.error.inj houtcome
      obtain ⟨fault, rfl⟩ := hrpc error (Action.mem_failures List.mem_cons_self)
      nofun
  | known => contradiction
  | @submitted key _ submitting result _ _ hsubmit =>
      cases result with
      | ok tx => contradiction
      | error error' =>
          cases hsecond : error'.rpcText?.any saysInUse with
          | true =>
              rw [postedAfter, Outcome.settle_of_second hsecond] at houtcome
              contradiction
          | false =>
              rw [postedAfter, Outcome.settle_of_clear hsecond] at houtcome
              obtain rfl := Except.error.inj houtcome
              exact hsubmit.ne_alreadyRedeemed fun error herror =>
                hrpc error (Action.failures_subset (List.subset_cons_self _ _) herror)

/-- The record was not there, the attestation was posted, and the submission of the instruction
that redeems it failed with an error. -/
def SubmissionFailed (endpoint : Endpoint) (a : Attestation)
    (exchanges : List (Exchange surroundings)) (error : RelayError) : Prop :=
  ∃ key transaction posting submitting,
    endpoint.replayRecord a = .ok key ∧ endpoint.redeemInstruction a = .ok transaction ∧
    (endpoint.post a).Runs posting (.ok ()) ∧
    (endpoint.submit transaction).Runs submitting (.error error) ∧
    exchanges = lookup key (.ok none) :: (posting ++ submitting)

/-- The submission that failed is the end of the redemption. -/
theorem outcome_of_submissionFailed {outcome : Outcome TxId} {error : RelayError}
    (h : (endpoint.redeem a).Runs exchanges outcome)
    (hfailed : SubmissionFailed endpoint a exchanges error) :
    outcome = redeemedAfter (.error error) := by
  obtain ⟨key, transaction, posting, submitting, hkey, htransaction, hposting, hsubmit, rfl⟩ :=
    hfailed
  exact h.outcome_unique (runs_redeem_iff.mpr (.submitted hkey htransaction
    (runs_post_iff.mp hposting) (runs_submit_iff.mp hsubmit)))

/-- A redemption that says that the attestation was redeemed already has found the record, or was
told by the failure of its submission, if only the way to the node fails otherwise. -/
theorem Redeems.of_alreadyRedeemed (h : Redeems endpoint a exchanges (.error .alreadyRedeemed))
    (hrpc : ∀ error ∈ Action.failures exchanges, ∃ fault, error = .rpc fault) :
    (∃ key data, endpoint.replayRecord a = .ok key ∧
      exchanges = [lookup key (.ok (some data))]) ∨
    ∃ error, SubmissionFailed endpoint a exchanges error ∧
      error.rpcText?.any saysInUse = true := by
  generalize houtcome : (Except.error .alreadyRedeemed : Outcome TxId) = outcome at h
  cases h with
  | underived => cases houtcome
  | unprobed error =>
      obtain rfl := Except.error.inj houtcome
      obtain ⟨fault, hfault⟩ := hrpc _ (Action.mem_failures List.mem_cons_self)
      cases hfault
  | known data hkey => exact .inl ⟨_, data, hkey, rfl⟩
  | unfit _ herror =>
      obtain rfl := Except.error.inj houtcome
      exact absurd herror redeemInstruction_ne_alreadyRedeemed
  | unposted _ _ hposting =>
      obtain rfl := Except.error.inj houtcome
      exact absurd rfl (hposting.ne_alreadyRedeemed fun error herror =>
        hrpc error (Action.failures_subset (List.subset_cons_self _ _) herror))
  | @submitted key transaction posting submitting result hkey htransaction hposting hsubmit =>
      cases result with
      | ok tx => cases houtcome
      | error error =>
          cases hsecond : error.rpcText?.any saysInUse with
          | true =>
              exact .inr ⟨error, ⟨key, transaction, posting, submitting, hkey, htransaction,
                runs_post_iff.mpr hposting, runs_submit_iff.mpr hsubmit, rfl⟩, hsecond⟩
          | false =>
              rw [redeemedAfter, Outcome.settle_of_clear hsecond] at houtcome
              obtain rfl := Except.error.inj houtcome
              exact absurd rfl (hsubmit.ne_alreadyRedeemed fun error herror =>
                hrpc error (Action.failures_subset (by simp) herror))

/-- **When a redemption says that the attestation was redeemed already**, if every failure of the
node is one of the way to it: exactly if the record was there at the start, or the submission
failed with a text that says that an account is in use. With any other text that failure is the
end, although the record may be there by then. -/
theorem redeem_alreadyRedeemed_iff {outcome : Outcome TxId}
    (h : (endpoint.redeem a).Runs exchanges outcome)
    (hrpc : ∀ error ∈ Action.failures exchanges, ∃ fault, error = .rpc fault) :
    (outcome = .error .alreadyRedeemed ↔
      (∃ key data, endpoint.replayRecord a = .ok key ∧
        exchanges = [lookup key (.ok (some data))]) ∨
      ∃ error, SubmissionFailed endpoint a exchanges error ∧
        error.rpcText?.any saysInUse = true) ∧
    (∀ error, SubmissionFailed endpoint a exchanges error →
      error.rpcText?.any saysInUse = false → outcome = .error error) := by
  refine ⟨⟨?_, ?_⟩, fun error hfailed hclear => ?_⟩
  · rintro rfl
    exact (runs_redeem_iff.mp h).of_alreadyRedeemed hrpc
  · rintro (⟨key, data, hkey, rfl⟩ | ⟨error, hfailed, hsecond⟩)
    · exact h.outcome_unique (runs_redeem_iff.mpr (.known data hkey))
    · exact (outcome_of_submissionFailed h hfailed).trans (Outcome.settle_of_second hsecond)
  · exact (outcome_of_submissionFailed h hfailed).trans (Outcome.settle_of_clear hclear)

/-! ### A race that is lost -/

/-- A messenger over a core bridge. -/
def openMessenger : Messenger where
  program := ⟨FixedBytes.ofNat 11⟩
  config := ⟨FixedBytes.ofNat 12⟩
  emitter := ⟨FixedBytes.ofNat 13⟩
  tracker := ⟨FixedBytes.ofNat 14⟩
  core := ⟨⟨FixedBytes.ofNat 3⟩, ⟨FixedBytes.ofNat 4⟩, ⟨FixedBytes.ofNat 5⟩⟩

/-- The messenger of the first chain, driven by an account that signs everything. -/
def openEndpoint : Endpoint where
  chain := 1
  role := .messenger openMessenger
  signer := openSigner
  foreignBridges := []

/-- An attestation of a message without content. -/
def emptyMessage : Attestation := { (default : Attestation) with payload := [1, 0, 0] }

/-- The accounts that the delivery of the message names: the record that it leaves, where the
message is posted, and where its emitter is registered. -/
structure Named (record account foreign : Address) : Prop where
  received : openMessenger.received emptyMessage = .ok record
  posted : openMessenger.core.posted emptyMessage = .ok account
  emitter : (ProgramAccount.foreignEmitter emptyMessage.emitterChain).address
    openMessenger.program = .ok foreign
  distinct : account ≠ record

/-- There are addresses for these accounts. This computes them. -/
theorem exists_named : ∃ record account foreign, Named record account foreign := by
  have h : (do
      let record ← openMessenger.received emptyMessage
      let account ← openMessenger.core.posted emptyMessage
      let _ ← (ProgramAccount.foreignEmitter emptyMessage.emitterChain).address
        openMessenger.program
      return decide (account ≠ record)) = Except.ok true := by decide +kernel
  obtain ⟨record, hreceived, h⟩ := Outcome.bind_eq_ok_iff.mp h
  obtain ⟨account, hposted, h⟩ := Outcome.bind_eq_ok_iff.mp h
  obtain ⟨foreign, hforeign, h⟩ := Outcome.bind_eq_ok_iff.mp h
  exact ⟨record, account, foreign, hreceived, hposted, hforeign,
    of_decide_eq_true (Except.ok.inj h)⟩

/-- The instruction that delivers the message. -/
def delivery (record account foreign : Address) : UnsignedTransaction :=
  .instruction openEndpoint.chain openMessenger.program
    (instructionMark "receive_message" ++ emptyMessage.messageHash.toList)
    [.signer openEndpoint.payer, .readonly openMessenger.config,
      .readonly openMessenger.core.program, .readonly account, .readonly foreign,
      .writable record, .readonly systemProgram]

theorem Named.replayRecord_eq {record account foreign : Address}
    (h : Named record account foreign) :
    openEndpoint.replayRecord emptyMessage = .ok record := h.received

theorem Named.redeemInstruction_eq {record account foreign : Address}
    (h : Named record account foreign) :
    openEndpoint.redeemInstruction emptyMessage = .ok (delivery record account foreign) := by
  refine Outcome.bind_eq_ok_iff.mpr ⟨.data [], by decide, Outcome.mapError_eq_ok_iff.mpr ?_⟩
  rw [Messenger.receive, h.posted, h.received, h.emitter]
  rfl

/-- The mark of an instruction is short. -/
theorem length_instructionMark_append_le (name : String) (content : Bytes) :
    (instructionMark name ++ content).length ≤ 8 + content.length := by
  have hmark : (instructionMark name).length ≤ 8 := List.length_take_le _ _
  rw [List.length_append]
  omega

/-- Only the account itself has to sign the delivery, which is small. -/
theorem exists_signed_delivery (record account foreign : Address) :
    ∃ signed, signTransaction openSigner (delivery record account foreign) FixedBytes.zero =
      .ok signed := by
  refine exists_signed_instruction ?_ (by simp) ?_ _
  · simp [AccountUse.signer, AccountUse.readonly, AccountUse.writable, payer, openEndpoint]
  · have hlength := length_instructionMark_append_le "receive_message"
      emptyMessage.messageHash.toList
    rw [FixedBytes.length_toList] at hlength
    exact Nat.le_trans hlength (by decide)

/-- The questions of a redemption that finds neither the record nor anything to post, and hands in
the delivery, which fails. -/
def overtaken (record account : Address) (signed : SignedTransaction) (fault : RpcFault) :
    List (Exchange surroundings) :=
  [lookup record (.ok none), lookup account (.ok (some [])),
    ⟨.recentBlock, .ok FixedBytes.zero⟩, ⟨.submit signed, .error (.rpc fault)⟩]

theorem Named.redeems_overtaken {record account foreign : Address} {signed : SignedTransaction}
    (h : Named record account foreign)
    (hsigned : signTransaction openSigner (delivery record account foreign) FixedBytes.zero =
      .ok signed) (fault : RpcFault) :
    Redeems openEndpoint emptyMessage (overtaken record account signed fault)
      (redeemedAfter (.error (.rpc fault))) :=
  .submitted h.replayRecord_eq h.redeemInstruction_eq (.known [] h.posted) (.handedIn _ hsigned)

/-- How a node refuses a transaction that would make the record again. -/
def refusedLate : RpcFault := .nodeError "Allocate: account already in use"

/-- With the text that says that the record is there, the same failure means that the message was
delivered already. -/
theorem redeem_alreadyRedeemed_iff_overtaken : ∃ record account signed,
    (openEndpoint.redeem emptyMessage).Runs (overtaken record account signed refusedLate)
      (.error .alreadyRedeemed) ∧
    (∀ error ∈ Action.failures (overtaken record account signed refusedLate),
      ∃ fault, error = .rpc fault) ∧
    ∃ error, SubmissionFailed openEndpoint emptyMessage
        (overtaken record account signed refusedLate) error ∧
      error.rpcText?.any saysInUse = true := by
  obtain ⟨record, account, foreign, h⟩ := exists_named
  obtain ⟨signed, hsigned⟩ := exists_signed_delivery record account foreign
  have hruns := runs_redeem_iff.mpr (h.redeems_overtaken hsigned refusedLate)
  have hrpc : ∀ error ∈ Action.failures (overtaken record account signed refusedLate),
      ∃ fault, error = .rpc fault := by
    simp [overtaken, lookup, Action.failures, Action.failure?]
  have hsettled : redeemedAfter (.error (.rpc refusedLate)) = .error .alreadyRedeemed := by
    decide
  rw [hsettled] at hruns
  obtain ⟨hiff, -⟩ := redeem_alreadyRedeemed_iff hruns hrpc
  refine ⟨record, account, signed, hruns, hrpc, ?_⟩
  obtain ⟨_, _, _, hone⟩ | hfailed := hiff.mp rfl
  · cases hone
  · exact hfailed

/-- A node of a chain that holds all accounts, except the record as long as the message was not
delivered. When it is handed a transaction somebody else has delivered the message before, and the
transaction lands and fails. It remembers whether the message was delivered. -/
def racedNode (record : Address) (fault : RpcFault) :
    (request : NodeRequest) → StateM Bool (Outcome request.Answer)
  | .account key => fun delivered =>
    (.ok (if key = record ∧ ¬ delivered then none else some []), delivered)
  | .balance _ => fun delivered => (.ok (0 : UInt64), delivered)
  | .submit _ => fun _ => (.error (.rpc fault), true)
  | .recentBlock => fun delivered => (.ok (FixedBytes.zero : FixedBytes 32), delivered)
  | .log _ => fun delivered => (.ok ([] : List String), delivered)

/-- How a transaction fails that lands after the record was made: creating an account that there is
already is the error 0 of the system program, and the status of the transaction says only that. -/
def landedLate : RpcFault :=
  .transactionFailed "5h6x" "\x7b\"InstructionError\":[0,\x7b\"Custom\":0\x7d]\x7d"

/-- **A race that is lost may end as a failure.** The record is not there when the redemption
begins. Then somebody else delivers the message, and the redemption's own transaction lands and
fails. The record is there by now, as the chain would say, and yet the redemption does not end by
saying that the message was delivered already. -/
theorem redeem_lostRace : ∃ record,
    openEndpoint.replayRecord emptyMessage = .ok record ∧
    ((openEndpoint.redeem emptyMessage).run (racedNode record landedLate)).run false =
      (.error (.rpc landedLate), true) ∧
    ((openEndpoint.isRedeemed emptyMessage).run (racedNode record landedLate)).run true =
      (.ok true, true) := by
  obtain ⟨record, account, foreign, h⟩ := exists_named
  obtain ⟨signed, hsigned⟩ := exists_signed_delivery record account foreign
  refine ⟨record, h.replayRecord_eq, ?_, ?_⟩
  · have hruns := runs_redeem_iff.mpr (h.redeems_overtaken hsigned landedLate)
    refine hruns.run_eq ⟨?_, ?_, rfl, rfl, rfl⟩
    · exact congrArg Except.ok (if_pos ⟨rfl, by decide⟩)
    · exact congrArg Except.ok (if_neg fun hrecord => h.distinct hrecord.1)
  · have hruns : (openEndpoint.isRedeemed emptyMessage).Runs
        [lookup record (.ok (some []))] (.ok true) :=
      Action.runs_derived_bind_iff.mpr (.inl ⟨record, h.replayRecord_eq,
        Action.runs_node_bind_iff.mpr (.inl ⟨some [], [], rfl, .done true⟩)⟩)
    refine hruns.run_eq ⟨?_, rfl⟩
    exact congrArg Except.ok (if_neg fun hrecord => hrecord.2 rfl)

end Endpoint

end GuardianRelay.Svm
